import DegreeAudit.Proofs.Transcript.Cells
import DegreeAudit.Proofs.Transcript.NumberSearch

namespace DegreeAudit
namespace Transcript

/-!
# The credits of a row

The number in a cell that is a numeral is the number that it writes.  Of the cells that may give the
credits of a row, the first one with a letter grade after it gives them.
-/

section Numbers

/-! ## Numbers in cells -/

variable {whole fraction text : List Char}

theorem replaceFirst_of_not_mem {old new : Char} (free : old ∉ text) :
    Text.replaceFirst old new text = text := by
  induction text with
  | nil => rfl
  | cons c rest inductionHypothesis =>
      rw [List.mem_cons, not_or] at free
      rw [Text.replaceFirst, if_neg (Ne.symm free.1), inductionHypothesis free.2]

open Number (NumeralParts IsNumeral fractionText)

/-- All of a numeral is its first number. -/
theorem firstNumber_of_numeralParts (parts : NumeralParts whole fraction) :
    FirstNumber (whole ++ fractionText fraction) [] whole fraction [] where
  divided := by rw [List.append_nil, List.nil_append]
  noDigit := nofun
  numeral := parts
  ends := nofun
  pointless := by
    rintro _ ⟨digit, rest, nothing, _⟩
    cases nothing

/-- The number in a numeral is the one that is read from it. -/
theorem numberIn?_of_isNumeral (numeral : IsNumeral text) :
    numberIn? text = Number.readReal? text := by
  have free : ',' ∉ text := by
    intro member
    exact absurd (numeral.mem_marks ',' member) (by decide)
  unfold numberIn?
  rw [replaceFirst_of_not_mem free]
  rcases numeral with ⟨whole, fraction, rfl, parts⟩
  rw [(firstNumber_of_numeralParts parts).firstNumber?_eq, parts.readReal?_eq]

theorem isExactly_leastCredits : Number.IsExactly leastCredits (1 / 2) := by
  refine ⟨2 ^ 52, -53, by decide, rfl, by decide, ?_⟩
  norm_num

theorem isExactly_mostCredits : Number.IsExactly mostCredits 6 := by
  refine ⟨3 * 2 ^ 51, -50, by decide, rfl, by decide, ?_⟩
  norm_num

/-- A cell may give the credits if its number is one that a course may have. -/
theorem plausibleCredits?_eq_some_iff {cell : List Char} {credits : Float} :
    plausibleCredits? cell = some credits
      ↔ numberIn? cell = some credits ∧ leastCredits <= credits ∧ credits <= mostCredits := by
  unfold plausibleCredits?
  rw [Option.filter_eq_some_iff, Bool.and_eq_true, decide_eq_true_iff, decide_eq_true_iff]

end Numbers

section Grades

/-! ## Letter grades -/

variable {cell : List Char}

theorem isGrade_iff :
    isGrade cell = true
      ↔ ∃ grade, grade ∈ grades
        ∧ grade.toList.map Text.foldLetter = (gradeText cell).map Text.foldLetter := by
  simp [isGrade]

/-- The characters of the grades, in the case in which they are compared. -/
def gradeMarks : List (List Char) :=
  grades.flatMap fun grade => grade.toList.map Text.foldLetter

/-- Every character of a grade is, up to its case and to dashes, one of a grade as it is listed. -/
theorem mem_gradeMarks_of_isGrade (grade : isGrade cell = true) (trimmed : Text.trim cell = cell)
    {c : Char} (member : c ∈ cell) : Text.foldLetter (plainDash c) ∈ gradeMarks := by
  rcases isGrade_iff.mp grade with ⟨listed, there, same⟩
  apply List.mem_flatMap.mpr
  refine ⟨listed, there, ?_⟩
  rw [same, gradeText, trimmed]
  exact List.mem_map_of_mem (List.mem_map_of_mem member)

/-- A grade without blanks around it is a cell. -/
theorem isCell_of_isGrade (grade : isGrade cell = true) (trimmed : Text.trim cell = cell) :
    IsCell cell := by
  have absent {c : Char} (other : Text.foldLetter (plainDash c) ∉ gradeMarks) : c ∉ cell :=
    fun member => other (mem_gradeMarks_of_isGrade grade trimmed member)
  exact {
    present := by
      rintro rfl
      exact absurd grade (by decide)
    trimmed
    noFeed := absent (by decide)
    noReturn := absent (by decide)
    noBreaking := absent (by decide)
    noWide := absent (by decide +kernel)
    noTab := absent (by decide)
  }

/-- A grade is a letter, perhaps with a sign or a digit after it. -/
theorem length_le_of_isGrade (grade : isGrade cell = true) (trimmed : Text.trim cell = cell) :
    cell.length ≤ 2 := by
  have short : forall listed, listed ∈ grades -> listed.toList.length ≤ 2 := by decide
  rcases isGrade_iff.mp grade with ⟨listed, there, same⟩
  have long := congrArg List.length same
  rw [gradeText, trimmed, List.length_map, List.length_map, List.length_map] at long
  rw [<- long]
  exact short listed there

/-- No grade begins as a numeral does. -/
theorem isGrade_of_isNumeral (numeral : Number.IsNumeral cell) : isGrade cell = false := by
  rcases numeral.exists_digit with ⟨digit, rest, rfl, isDigit⟩
  have starts := Number.of_mem_marks
    (fun mark => forall grade, grade ∈ grades ->
      (grade.toList.map Text.foldLetter).head? ≠ some (Text.foldLetter (plainDash mark)))
    (by decide) (Number.mem_marks_of_isDigit isDigit)
  rw [Bool.eq_false_iff]
  intro grade
  rcases isGrade_iff.mp grade with ⟨listed, there, same⟩
  apply starts listed there
  rw [same, gradeText, Text.trim_of_noBlank numeral.noBlank]
  rfl

end Grades

section Search

/-! ## The cell of the credits -/

/-- A place of a row with credits in its cell and a letter grade in the next one. -/
structure IsGraded (cells : List (List Char)) (found : CreditCell) : Prop where
  credits : cells[found.index]?.bind plausibleCredits? = some found.credits
  grade : (cells[found.index + 1]?.map isGrade).getD false = true

theorem plausibleFrom_eq (index : Nat) (cells : List (List Char)) :
    plausibleFrom index cells
      = (cells.zipIdx index).filterMap fun (cell, place) =>
          (plausibleCredits? cell).map (CreditCell.mk place) := by
  induction cells generalizing index with
  | nil => rfl
  | cons cell cells inductionHypothesis =>
      rw [plausibleFrom, inductionHypothesis, List.zipIdx_cons]
      cases credible : plausibleCredits? cell with
      | none => rw [List.filterMap_cons_none (by simp [credible])]
      | some credits => rw [List.filterMap_cons_some (by simp [credible]; rfl)]

/-- Whether there are credits with a grade after them is seen from the cell and its place. -/
theorem any_credits_iff {cells : List (List Char)} {place : Nat} (bounded : place < cells.length) :
    ((plausibleCredits? cells[place]).map (CreditCell.mk place)).any
        (fun cell => (cells[cell.index + 1]?.map isGrade).getD false) = true
      ↔ ∃ credits, IsGraded cells ⟨place, credits⟩ := by
  have there : cells[place]?.bind plausibleCredits? = plausibleCredits? cells[place] := by
    rw [List.getElem?_eq_getElem bounded]
    rfl
  cases credible : plausibleCredits? cells[place] with
  | none =>
      rw [credible] at there
      constructor
      · intro impossible
        cases impossible
      · rintro ⟨credits, graded⟩
        exact absurd (there.symm.trans graded.credits) nofun
  | some credits =>
      rw [credible] at there
      constructor
      · intro grade
        exact ⟨credits, there, grade⟩
      · rintro ⟨other, graded⟩
        exact graded.grade

/-- The credits before a grade are those of the first place that has both. -/
theorem creditsBeforeGrade?_eq_some_iff {cells : List (List Char)} {found : CreditCell} :
    creditsBeforeGrade? cells = some found
      ↔ IsGraded cells found
        ∧ forall other, IsGraded cells other -> found.index ≤ other.index := by
  unfold creditsBeforeGrade? plausibleCells
  rw [plausibleFrom_eq, List.find?_filterMap, Option.bind_eq_some_iff]
  constructor
  · rintro ⟨⟨cell, place⟩, first, made⟩
    rcases List.find?_eq_some_iff_getElem.mp first with ⟨passed, index, bounded, same, before⟩
    rw [List.length_zipIdx] at bounded
    rw [List.getElem_zipIdx, Nat.zero_add] at same
    cases same
    rcases Option.map_eq_some_iff.mp made with ⟨credits, credible, rfl⟩
    rcases (any_credits_iff bounded).mp passed with ⟨others, graded⟩
    refine ⟨⟨?_, graded.grade⟩, ?_⟩
    · rw [List.getElem?_eq_getElem bounded]
      exact credible
    · intro other gradedOther
      by_contra later
      have earlier : other.index < place := Nat.lt_of_not_le later
      have passedOver := before other.index earlier
      rw [List.getElem_zipIdx, Nat.zero_add] at passedOver
      have found := (any_credits_iff (earlier.trans bounded)).mpr ⟨other.credits, gradedOther⟩
      rw [found] at passedOver
      exact Bool.false_ne_true passedOver
  · rintro ⟨graded, first⟩
    rcases found with ⟨place, credits⟩
    rcases Option.bind_eq_some_iff.mp graded.credits with ⟨cell, there, credible⟩
    rcases List.getElem?_eq_some_iff.mp there with ⟨bounded, rfl⟩
    refine ⟨(cells[place], place), ?_, ?_⟩
    · rw [List.find?_eq_some_iff_getElem]
      refine ⟨(any_credits_iff bounded).mpr ⟨credits, graded⟩, place, ?_, ?_, ?_⟩
      · rwa [List.length_zipIdx]
      · rw [List.getElem_zipIdx, Nat.zero_add]
      · intro before earlier
        rw [List.getElem_zipIdx, Nat.zero_add, Bool.not_eq_true', Bool.eq_false_iff]
        intro passed
        rcases (any_credits_iff (earlier.trans bounded)).mp passed with ⟨others, gradedBefore⟩
        exact absurd (first ⟨before, others⟩ gradedBefore) (Nat.not_le_of_lt earlier)
    · exact Option.map_eq_some_iff.mpr ⟨credits, credible, rfl⟩

/-- The cells that may give the credits, each in its place. -/
theorem mem_plausibleCells_iff {cells : List (List Char)} {found : CreditCell} :
    found ∈ plausibleCells cells
      ↔ cells[found.index]?.bind plausibleCredits? = some found.credits := by
  rcases found with ⟨place, credits⟩
  unfold plausibleCells
  rw [plausibleFrom_eq, List.mem_filterMap, Option.bind_eq_some_iff]
  constructor
  · rintro ⟨⟨cell, index⟩, listed, made⟩
    rcases Option.map_eq_some_iff.mp made with ⟨number, credible, same⟩
    cases same
    exact ⟨cell, List.mem_zipIdx_iff_getElem?.mp listed, credible⟩
  · rintro ⟨cell, there, credible⟩
    refine ⟨(cell, place), List.mem_zipIdx_iff_getElem?.mpr there, ?_⟩
    exact Option.map_eq_some_iff.mpr ⟨credits, credible, rfl⟩

/-- What is taken for the credits is one of the cells that may give them. -/
theorem mem_plausibleCells_of_findCredits? {cells : List (List Char)} {found : CreditCell}
    (taken : findCredits? cells = some found) : found ∈ plausibleCells cells := by
  rcases Option.or_eq_some_iff.mp taken with graded | ⟨_, last⟩
  · exact List.mem_of_find?_eq_some graded
  · exact List.mem_of_getLast? last

/-- Credits that are found are such as a course may have. -/
theorem between_of_findCredits? {cells : List (List Char)} {found : CreditCell}
    (taken : findCredits? cells = some found) :
    leastCredits <= found.credits ∧ found.credits <= mostCredits := by
  have place := mem_plausibleCells_iff.mp (mem_plausibleCells_of_findCredits? taken)
  rcases Option.bind_eq_some_iff.mp place with ⟨cell, _, credible⟩
  exact (plausibleCredits?_eq_some_iff.mp credible).2

/-- A row has no credits just if none of its cells may give them. -/
theorem findCredits?_eq_none_iff {cells : List (List Char)} :
    findCredits? cells = none ↔ forall cell, cell ∈ cells -> plausibleCredits? cell = none := by
  constructor
  · intro none cell member
    rw [findCredits?, Option.or_eq_none_iff] at none
    have empty : plausibleCells cells = [] := List.getLast?_eq_none_iff.mp none.2
    rcases List.mem_iff_getElem?.mp member with ⟨place, there⟩
    cases credible : plausibleCredits? cell with
    | none => rfl
    | some credits =>
        have listed : CreditCell.mk place credits ∈ plausibleCells cells :=
          mem_plausibleCells_iff.mpr (by rw [there]; exact credible)
        rw [empty] at listed
        cases listed
  · intro all
    cases taken : findCredits? cells with
    | none => rfl
    | some found =>
        have place := mem_plausibleCells_iff.mp (mem_plausibleCells_of_findCredits? taken)
        rcases Option.bind_eq_some_iff.mp place with ⟨cell, there, credible⟩
        cases (all cell (List.mem_of_getElem? there)).symm.trans credible

end Search

end Transcript
end DegreeAudit
