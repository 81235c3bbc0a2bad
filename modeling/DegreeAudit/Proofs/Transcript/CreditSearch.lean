import DegreeAudit.Proofs.Text.CaseVariants
import DegreeAudit.Proofs.Transcript.Credit

namespace DegreeAudit
namespace Transcript

/-!
# The cell that gives the credits

A number of a row may be its credits if a course can have as many.  The first such number with a
letter grade in the cell after it is taken, so that an average further on does not count; only in a
row without grades the last such number is.  A cell at the end has none after it and is not before
a grade.

The grades are read without regard to case, as the code table has it: beside the two cases of a
letter the long s, whose upper case is S, is a spelling of that grade.
-/

/-- The spellings of a character of a grade. -/
def markSpellings (mark : Char) : List Char :=
  if mark = 'S' then ['S', 's', 'ſ'] else [mark, mark.toLower]

/-- A text that spells a grade, character by character. -/
def IsLetterGrade (text : List Char) : Prop :=
  ∃ grade, grade ∈ grades
    ∧ List.Forall₂ (fun c mark => c ∈ markSpellings mark) text grade.toList

/-- The number in a cell, if it is one of those that a course may have as its credits. -/
structure GivesCredits (cells : List (List Char)) (found : CreditCell) : Prop where
  number : ∃ cell, cells[found.index]? = some cell
    ∧ numberOf? (.string (String.ofList cell)) = .ok (some found.credits)
  least : leastCredits <= found.credits
  most : found.credits <= mostCredits

/-- There is a cell after the one that is found, and it is a letter grade. -/
def BeforeGrade (cells : List (List Char)) (found : CreditCell) : Prop :=
  ∃ next, cells[found.index + 1]? = some next ∧ IsLetterGrade (gradeText next)

/-- The first number of credits with a letter grade after it. -/
structure IsFirstBeforeGrade (cells : List (List Char)) (found : CreditCell) : Prop where
  gives : GivesCredits cells found
  grade : BeforeGrade cells found
  first : forall other, GivesCredits cells other -> BeforeGrade cells other ->
    found.index ≤ other.index

/-- The last number of credits. -/
structure IsLast (cells : List (List Char)) (found : CreditCell) : Prop where
  gives : GivesCredits cells found
  last : forall other, GivesCredits cells other -> other.index ≤ found.index

section Grades

/-! ## Spellings of grades -/

/-- The characters of the grades. -/
def gradeCharacters : List Char :=
  ['S', 'U', 'P', 'N', 'A', 'B', 'C', 'D', 'F', '+', '0', '-']

theorem mem_gradeCharacters {grade : String} (listed : grade ∈ grades) {mark : Char}
    (member : mark ∈ grade.toList) : mark ∈ gradeCharacters := by
  have all : (grades.all fun grade => grade.toList.all gradeCharacters.contains) = true := by
    decide
  have here := List.all_eq_true.mp (List.all_eq_true.mp all grade listed) mark member
  exact List.contains_iff_mem.mp here

/-- A character is compared with one of a grade by its spelling. -/
theorem foldLetter_eq_iff {c mark : Char} (member : mark ∈ gradeCharacters) :
    Text.foldLetter c = Text.foldLetter mark ↔ c ∈ markSpellings mark := by
  have folded : (gradeCharacters.all fun mark => Text.foldLetter mark == [mark]
      && (Text.foldSources mark).all (fun code => (markSpellings mark).contains (Char.ofNat code))
      && (markSpellings mark).all (fun c => Text.foldLetter c == [mark])) = true := by
    decide +kernel
  simp only [List.all_eq_true, Bool.and_eq_true, beq_iff_eq, List.contains_iff_mem] at folded
  rcases folded mark member with ⟨⟨itself, spelled⟩, compared⟩
  rw [itself]
  constructor
  · intro same
    have spelling := spelled c.toNat (Text.mem_foldSources same)
    rwa [Char.ofNat_toNat] at spelling
  · exact compared c

/-- A cell is a grade just if it spells one, once it is trimmed and its dashes are plain. -/
theorem isGrade_iff_isLetterGrade {cell : List Char} :
    isGrade cell = true ↔ IsLetterGrade (gradeText cell) := by
  rw [isGrade_iff]
  apply exists_congr
  intro grade
  apply and_congr_right
  intro listed
  rw [eq_comm, <- List.forall₂_eq_eq_eq, List.forall₂_map_left_iff, List.forall₂_map_right_iff,
    List.forall₂_iff_zip, List.forall₂_iff_zip]
  apply and_congr_right
  intro _
  have marks {c mark : Char} (paired : (c, mark) ∈ (gradeText cell).zip grade.toList) :
      mark ∈ gradeCharacters :=
    mem_gradeCharacters listed (List.of_mem_zip paired).2
  constructor
  · exact fun folded c mark paired => (foldLetter_eq_iff (marks paired)).mp (folded paired)
  · exact fun spelled c mark paired => (foldLetter_eq_iff (marks paired)).mpr (spelled paired)

end Grades

section Cells

/-! ## The cells that may give the credits -/

variable {cells : List (List Char)} {found : CreditCell}

theorem numberOf?_cell (cell : List Char) :
    numberOf? (.string (String.ofList cell)) = .ok (numberIn? cell) := by
  change Except.ok (numberIn? (String.ofList cell).toList) = .ok (numberIn? cell)
  rw [String.toList_ofList]

theorem givesCredits_iff :
    GivesCredits cells found ↔ cells[found.index]?.bind plausibleCredits? = some found.credits := by
  rw [Option.bind_eq_some_iff]
  constructor
  · rintro ⟨⟨cell, there, number⟩, least, most⟩
    rw [numberOf?_cell, Except.ok.injEq] at number
    exact ⟨cell, there, plausibleCredits?_eq_some_iff.mpr ⟨number, least, most⟩⟩
  · rintro ⟨cell, there, credible⟩
    rcases plausibleCredits?_eq_some_iff.mp credible with ⟨number, least, most⟩
    exact ⟨⟨cell, there, (numberOf?_cell cell).trans (congrArg Except.ok number)⟩, least, most⟩

theorem beforeGrade_iff :
    BeforeGrade cells found ↔ (cells[found.index + 1]?.map isGrade).getD false = true := by
  unfold BeforeGrade
  cases cells[found.index + 1]? with
  | none => simp
  | some next => simp [isGrade_iff_isLetterGrade]

theorem isGraded_iff :
    IsGraded cells found ↔ GivesCredits cells found ∧ BeforeGrade cells found := by
  rw [givesCredits_iff, beforeGrade_iff]
  exact ⟨fun graded => ⟨graded.credits, graded.grade⟩, fun both => ⟨both.1, both.2⟩⟩

theorem creditsBeforeGrade?_eq_some_iff_isFirst :
    creditsBeforeGrade? cells = some found ↔ IsFirstBeforeGrade cells found := by
  rw [creditsBeforeGrade?_eq_some_iff]
  constructor
  · rintro ⟨graded, first⟩
    rcases isGraded_iff.mp graded with ⟨gives, grade⟩
    exact ⟨gives, grade, fun other gives grade => first other (isGraded_iff.mpr ⟨gives, grade⟩)⟩
  · rintro ⟨gives, grade, first⟩
    refine ⟨isGraded_iff.mpr ⟨gives, grade⟩, fun other graded => ?_⟩
    rcases isGraded_iff.mp graded with ⟨gives, grade⟩
    exact first other gives grade

theorem creditsBeforeGrade?_eq_none_iff :
    creditsBeforeGrade? cells = none
      ↔ forall other, GivesCredits cells other -> ¬ BeforeGrade cells other := by
  unfold creditsBeforeGrade?
  rw [List.find?_eq_none]
  simp only [mem_plausibleCells_iff, givesCredits_iff, beforeGrade_iff]

/-- The cells that may give the credits stand in the order of the row. -/
theorem pairwise_plausibleCells (cells : List (List Char)) :
    (plausibleCells cells).Pairwise fun first second => first.index < second.index := by
  have places : cells.zipIdx.Pairwise fun first second => first.2 < second.2 := by
    rw [<- List.pairwise_map, List.zipIdx_map_snd]
    exact List.pairwise_lt_range'
  unfold plausibleCells
  rw [plausibleFrom_eq, List.pairwise_filterMap]
  refine places.imp fun {first second} less before made after also => ?_
  rcases Option.map_eq_some_iff.mp made with ⟨_, _, rfl⟩
  rcases Option.map_eq_some_iff.mp also with ⟨_, _, rfl⟩
  exact less

/-- Nothing that may give the credits stands after the last of it. -/
theorem isLast_of_creditsLast? (taken : creditsLast? cells = some found) : IsLast cells found := by
  rcases List.getLast?_eq_some_iff.mp taken with ⟨before, listed⟩
  have ordered := pairwise_plausibleCells cells
  rw [listed, List.pairwise_append] at ordered
  constructor
  case gives =>
    rw [givesCredits_iff, <- mem_plausibleCells_iff, listed]
    exact List.mem_append_right _ List.mem_cons_self
  case last =>
    intro other gives
    rw [givesCredits_iff, <- mem_plausibleCells_iff, listed, List.mem_append] at gives
    rcases gives with earlier | same
    · exact (ordered.2.2 other earlier found List.mem_cons_self).le
    · rw [List.mem_singleton.mp same]

theorem creditsLast?_eq_some_iff : creditsLast? cells = some found ↔ IsLast cells found := by
  refine ⟨isLast_of_creditsLast?, fun isLast => ?_⟩
  cases taken : creditsLast? cells with
  | none =>
      have empty : plausibleCells cells = [] := List.getLast?_eq_none_iff.mp taken
      have listed := mem_plausibleCells_iff.mpr (givesCredits_iff.mp isLast.gives)
      rw [empty] at listed
      cases listed
  | some other =>
      -- each of the two is not after the other, and a place has one number
      have otherLast := isLast_of_creditsLast? taken
      have same : other.index = found.index :=
        le_antisymm (isLast.last other otherLast.gives) (otherLast.last found isLast.gives)
      have number := givesCredits_iff.mp otherLast.gives
      rw [same, givesCredits_iff.mp isLast.gives, Option.some.injEq] at number
      rcases found with ⟨index, credits⟩
      rcases other with ⟨_, _⟩
      dsimp only at same number
      rw [same, number]

/-- The credits of a row are missing just if no cell has a number that may be credits.  They are
the first such number with a letter grade in the next cell, and where there is none the last such
number. -/
theorem findCredits?_finds (cells : List (List Char)) :
    (findCredits? cells = none ↔ ¬ ∃ found, GivesCredits cells found)
      ∧ forall found, findCredits? cells = some found ↔
        IsFirstBeforeGrade cells found
          ∨ (forall other, GivesCredits cells other -> ¬ BeforeGrade cells other)
            ∧ IsLast cells found := by
  constructor
  · rw [findCredits?_eq_none_iff]
    constructor
    · rintro none ⟨found, gives⟩
      rcases Option.bind_eq_some_iff.mp (givesCredits_iff.mp gives) with ⟨cell, there, credible⟩
      cases (none cell (List.mem_of_getElem? there)).symm.trans credible
    · intro absent cell member
      rcases List.mem_iff_getElem?.mp member with ⟨place, there⟩
      by_contra present
      rcases Option.ne_none_iff_exists'.mp present with ⟨credits, credible⟩
      exact absent ⟨⟨place, credits⟩, givesCredits_iff.mpr (there ▸ credible)⟩
  · intro found
    rw [findCredits?, Option.or_eq_some_iff, creditsBeforeGrade?_eq_some_iff_isFirst,
      creditsBeforeGrade?_eq_none_iff, creditsLast?_eq_some_iff]

/-- The average in the last cell is a number that credits could be. -/
example : findCredits? ["BS203".toList, "3".toList, "b\u2212".toList, "4.3".toList]
    = some ⟨1, 3⟩ := by
  decide +kernel

end Cells

end Transcript
end DegreeAudit
