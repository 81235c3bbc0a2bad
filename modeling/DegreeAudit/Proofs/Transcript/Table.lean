import DegreeAudit.Proofs.Transcript.Code
import DegreeAudit.Proofs.Transcript.Credit
import DegreeAudit.Proofs.Transcript.NameSearch
import DegreeAudit.Proofs.Transcript.Reading

namespace DegreeAudit
namespace Transcript

/-!
# Tables that are read as they were written

A row with a code, a name, credits and a grade, written with tabs between them, is read as it was
meant, as long as the name cannot be taken for one of the other columns.  It may hold digits, and
the code always does; what is taken for the credits is still the number before the grade.
-/

/-- A row of a table with a grade in its last column. -/
structure GradedRow where
  code : String
  name : String
  credits : String
  grade : String

namespace GradedRow

/-- The columns of the row. -/
def cells (row : GradedRow) : List (List Char) :=
  [row.code.toList, row.name.toList, row.credits.toList, row.grade.toList]

/-- The row with tabs between its columns. -/
def line (row : GradedRow) : List Char :=
  Text.join ['\t'] row.cells

/-- The number that the column of the credits writes. -/
def value (row : GradedRow) : Float :=
  (Number.readReal? row.credits.toList).getD 0

/-- The course that the row is meant for. -/
def course (track : Option Track) (row : GradedRow) : CourseData Float :=
  {
    code := row.code
    name := row.name
    credits := row.value
    bucket := classify row.code row.name track
  }

/-- Each column of the row is what it is meant to be, and the name could be nothing else.  The
credits are compared as they are read; what is written between a half and six is read between them
(`value_between`). -/
@[mk_iff]
structure Legible (row : GradedRow) : Prop where
  code : IsCodeWord row.code.toList
  name : IsCell row.name.toList
  notKind : row.name ∉ kindWords
  notNumeral : ¬ Number.IsNumeral row.name.toList
  notCode : ¬ IsCodeWord row.name.toList
  notGrade : isGrade row.name.toList = false
  credits : Number.IsNumeral row.credits.toList
  least : leastCredits <= row.value
  most : row.value <= mostCredits
  grade : isGrade row.grade.toList = true
  gradeTrimmed : Text.trim row.grade.toList = row.grade.toList

/-- The columns of the row are cells, there are credits in it that a course may have, and a grade
after them.  The code and the name may be anything. -/
structure Complete (row : GradedRow) : Prop where
  code : IsCell row.code.toList
  name : IsCell row.name.toList
  credits : Number.IsNumeral row.credits.toList
  least : leastCredits <= row.value
  most : row.value <= mostCredits
  grade : isGrade row.grade.toList = true
  gradeTrimmed : Text.trim row.grade.toList = row.grade.toList

/-- A row as a transcript may have it.  Nothing in its name looks like a code, and its credits are
written as a number between a half and six. -/
@[mk_iff]
structure Ordinary (row : GradedRow) : Prop where
  name : IsCell row.name.toList
  noCode : ¬ HoldsCode row.name.toList
  credits : Number.IsNumeral row.credits.toList
  least : 1 / 2 <= Number.writtenValue row.credits.toList
  most : Number.writtenValue row.credits.toList <= 6
  grade : isGrade row.grade.toList = true
  gradeTrimmed : Text.trim row.grade.toList = row.grade.toList

/-- Credits that are written as a number between a half and six are such as a course may have. -/
theorem value_between (row : GradedRow) (credits : Number.IsNumeral row.credits.toList)
    (least : 1 / 2 <= Number.writtenValue row.credits.toList)
    (most : Number.writtenValue row.credits.toList <= 6) :
    leastCredits <= row.value ∧ row.value <= mostCredits := by
  rcases credits.readReal?_between isExactly_leastCredits isExactly_mostCredits least most with
    ⟨number, read, bounds⟩
  rw [value, read]
  exact bounds

end GradedRow

instance (row : GradedRow) : Decidable row.Legible :=
  decidable_of_iff _ (GradedRow.legible_iff row).symm

instance (row : GradedRow) : Decidable row.Ordinary :=
  decidable_of_iff _ (GradedRow.ordinary_iff row).symm

/-- Rows, one on a line. -/
def tableText (rows : List GradedRow) : List Char :=
  Text.join ['\n'] (rows.map GradedRow.line)

section Names

/-! ## Names -/

variable {code name : List Char}

/-- Of a code and a name before the credits the name is the only choice. -/
theorem guessName_second (isCodeWord : IsCodeWord code) (trimmed : Text.trim name = name)
    (mayBeName : MayBeName name) (others : List (List Char)) :
    guessName (code :: name :: others) (some ((2 : Nat) : Int)) = name := by
  have codeTrimmed : Text.trim code = code := Text.trim_of_noBlank isCodeWord.noBlank
  have passed : ¬ MayBeName (Text.trim code) := by
    rw [codeTrimmed]
    exact fun may => may.notCode isCodeWord
  have taken : MayBeName (Text.trim name) := trimmed.symm ▸ mayBeName
  rw [guessName_column]
  change guessName ([] ++ [code] ++ [name]) none = name
  rw [guessName_concat_of_mayBeName taken, guessName_concat_of_not passed, trimmed]
  exact if_pos mayBeName.length_pos

end Names

section Codes

/-! ## Columns without a code -/

variable {cell : List Char}

theorem not_holdsCode_of_isNumeral (numeral : Number.IsNumeral cell) : ¬ HoldsCode cell := by
  rintro ⟨letter, first, second, inside, isLetter, _⟩
  have mark := numeral.mem_marks letter (inside.subset List.mem_cons_self)
  have plain : letter.isAlpha = false :=
    Number.of_mem_marks (fun c => c.isAlpha = false) (by decide) mark
  exact Bool.false_ne_true (plain.symm.trans isLetter)

theorem not_holdsCode_of_isGrade (grade : isGrade cell = true) (trimmed : Text.trim cell = cell) :
    ¬ HoldsCode cell := by
  rintro ⟨letter, first, second, inside, _⟩
  exact absurd (inside.length_le.trans (length_le_of_isGrade grade trimmed)) (by simp)

end Codes

section Rows

/-! ## One row -/

namespace GradedRow

variable {row : GradedRow}

theorem Legible.complete (legible : row.Legible) : row.Complete where
  code := isCell_of_noBlank legible.code.ne_nil legible.code.noBlank
  name := legible.name
  credits := legible.credits
  least := legible.least
  most := legible.most
  grade := legible.grade
  gradeTrimmed := legible.gradeTrimmed

theorem Complete.isCell (complete : row.Complete) :
    forall cell, cell ∈ row.cells -> IsCell cell := by
  intro cell member
  simp only [cells, List.mem_cons, List.not_mem_nil, or_false] at member
  rcases member with rfl | rfl | rfl | rfl
  · exact complete.code
  · exact complete.name
  · exact isCell_of_noBlank complete.credits.ne_nil complete.credits.noBlank
  · exact isCell_of_isGrade complete.grade complete.gradeTrimmed

theorem Complete.isLine (complete : row.Complete) : IsLine row.line :=
  isLine_join (List.cons_ne_nil _ _) complete.isCell

/-- The line of a row is cut into the columns it was made of. -/
theorem Complete.cells_line (complete : row.Complete) : Transcript.cells row.line = row.cells :=
  cells_join complete.isCell

/-- The third column is the first one with a grade after it, whatever numbers there are in the
code and the name.  Only a name that is a grade could make credits of the code. -/
theorem Complete.findCredits?_eq (complete : row.Complete)
    (apart : isGrade row.name.toList = false ∨ plausibleCredits? row.code.toList = none) :
    findCredits? row.cells = some ⟨2, row.value⟩ := by
  have number : numberIn? row.credits.toList = some row.value := by
    rcases complete.credits with ⟨whole, fraction, text, parts⟩
    rw [numberIn?_of_isNumeral complete.credits, value, text, parts.readReal?_eq]
    rfl
  have graded : IsGraded row.cells ⟨2, row.value⟩ := {
    credits := plausibleCredits?_eq_some_iff.mpr ⟨number, complete.least, complete.most⟩
    grade := complete.grade
  }
  have first : forall other, IsGraded row.cells other -> 2 ≤ other.index := by
    rintro ⟨place, credits⟩ other
    match place, other with
    | 0, other =>
        rcases apart with notGrade | noCredits
        · exact absurd (notGrade.symm.trans other.grade) Bool.false_ne_true
        · cases noCredits.symm.trans other.credits
    | 1, other =>
        have notGrade := isGrade_of_isNumeral complete.credits
        exact absurd (notGrade.symm.trans other.grade) Bool.false_ne_true
    | place + 2, _ => exact Nat.le_add_left 2 place
  rw [findCredits?, creditsBeforeGrade?_eq_some_iff.mpr ⟨graded, first⟩]
  rfl

/-- A code in the first column is recognized, with the credits of the third; the name is guessed. -/
theorem Complete.recognize?_eq (complete : row.Complete) (code : IsCodeWord row.code.toList)
    (apart : isGrade row.name.toList = false ∨ plausibleCredits? row.code.toList = none) :
    recognize? (Transcript.cells row.line)
      = some ⟨row.code, String.ofList (guessName row.cells (some ((2 : Nat) : Int))), row.value⟩ := by
  have found : findCode? row.cells = some row.code.toList := findCode?_cons code _
  rw [complete.cells_line, recognize?_eq_some_iff]
  refine ⟨_, _, found, complete.findCredits?_eq apart, ?_⟩
  rw [String.ofList_toList]

/-- Without a letter before two digits in the code or the name nothing is recognized. -/
theorem Complete.recognize?_eq_none (complete : row.Complete)
    (code : ¬ HoldsCode row.code.toList) (name : ¬ HoldsCode row.name.toList) :
    recognize? (Transcript.cells row.line) = none := by
  have none : findCode? row.cells = none := by
    rw [findCode?_eq_none_iff]
    intro cell member
    simp only [cells, List.mem_cons, List.not_mem_nil, or_false] at member
    rcases member with rfl | rfl | rfl | rfl
    · exact code
    · exact name
    · exact not_holdsCode_of_isNumeral complete.credits
    · exact not_holdsCode_of_isGrade complete.grade complete.gradeTrimmed
  rw [complete.cells_line, recognize?, none]

theorem Ordinary.complete (ordinary : row.Ordinary)
    (code : IsCell row.code.toList) : row.Complete :=
  have bounds := row.value_between ordinary.credits ordinary.least ordinary.most
  {
    code
    name := ordinary.name
    credits := ordinary.credits
    least := bounds.1
    most := bounds.2
    grade := ordinary.grade
    gradeTrimmed := ordinary.gradeTrimmed
  }

/-- A row is recognized as it was meant. -/
theorem Legible.recognize?_eq (legible : row.Legible) :
    recognize? (Transcript.cells row.line) = some ⟨row.code, row.name, row.value⟩ := by
  have mayBeName : MayBeName row.name.toList := {
    present := legible.name.present
    notKind := by rw [String.ofList_toList]; exact legible.notKind
    notNumeral := legible.notNumeral
    notCode := legible.notCode
  }
  have name := guessName_second legible.code legible.name.trimmed mayBeName
    [row.credits.toList, row.grade.toList]
  rw [legible.complete.recognize?_eq legible.code (Or.inl legible.notGrade)]
  simp only [cells, name, String.ofList_toList]

theorem Legible.course_eq (legible : row.Legible) (track : Option Track) :
    (Row.mk row.code row.name row.value).course track = row.course track := by
  have named : row.name.isEmpty = false := by
    rw [Bool.eq_false_iff, ne_eq, String.isEmpty_iff]
    intro empty
    exact legible.name.present (by rw [empty]; rfl)
  simp only [Row.course, course, named, Bool.false_eq_true, if_false]

end GradedRow

end Rows

section Tables

/-! ## All rows -/

variable {track : Option Track} {rows : List GradedRow}

/-- Rows of new codes, all different, are added one after another. -/
theorem readLines_rows {seen : List String} (legible : forall row, row ∈ rows -> row.Legible)
    (distinct : (rows.map fun row => normalizeCode row.code).Nodup)
    (new : forall row, row ∈ rows -> normalizeCode row.code ∉ seen) :
    readLines track seen (rows.map GradedRow.line)
      = rows.map fun row => .added (row.course track) := by
  induction rows generalizing seen with
  | nil => rfl
  | cons row rows inductionHypothesis =>
      have first := legible row List.mem_cons_self
      rw [List.map_cons, List.nodup_cons] at distinct
      rw [List.map_cons, List.map_cons, readLines_added first.recognize?_eq
        (new row List.mem_cons_self), first.course_eq]
      congr 1
      apply inductionHypothesis
      · exact fun other member => legible other (List.mem_cons_of_mem row member)
      · exact distinct.2
      · intro other member known
        rcases List.mem_cons.mp known with same | held
        · apply distinct.1
          rw [← same]
          exact List.mem_map_of_mem member
        · exact new other (List.mem_cons_of_mem row member) held

theorem lines_tableText (legible : forall row, row ∈ rows -> row.Legible) :
    lines (tableText rows) = rows.map GradedRow.line := by
  apply lines_join
  intro line member
  rcases List.mem_map.mp member with ⟨row, listed, rfl⟩
  exact (legible row listed).complete.isLine

/-- A table whose rows are legible, with codes that are new and all different, is read as it was
written: every row adds its course, in the order of the rows, and no line is skipped. -/
theorem courses_read_tableText (track : Option Track) (known : List String)
    (rows : List GradedRow) (legible : forall row, row ∈ rows -> row.Legible)
    (distinct : (rows.map fun row => normalizeCode row.code).Nodup)
    (new : forall row, row ∈ rows -> normalizeCode row.code ∉ known.map normalizeCode) :
    courses (read track known (tableText rows)) = rows.map (GradedRow.course track)
      ∧ counts (read track known (tableText rows))
        = { lines := rows.length, added := rows.length, skipped := 0 } := by
  have added : read track known (tableText rows) = rows.map fun row => .added (row.course track) := by
    rw [read, lines_tableText legible]
    exact readLines_rows legible distinct new
  rw [added]
  constructor
  · rw [courses, List.filterMap_map]
    exact congrFun (List.filterMap_eq_map) rows
  · simp [counts, List.countP_map, Function.comp_def, Reading.course?]

/-- Rows with numbers and grades in places where they are none. -/
def misleadingRows : List GradedRow :=
  [
    { code := "AB01", name := "Calculus 3  or 2.5", credits := "3.0", grade := "A+" },
    { code := "gs2401b", name := "4 - S", credits := "0.5", grade := "b-" }
  ]

theorem courses_read_tableText_misleadingRows :
    courses (read none ["CS101"] (tableText misleadingRows))
        = misleadingRows.map (GradedRow.course none)
      ∧ counts (read none ["CS101"] (tableText misleadingRows))
        = { lines := 2, added := 2, skipped := 0 } :=
  courses_read_tableText none ["CS101"] misleadingRows (by decide +kernel) (by decide +kernel)
    (by decide +kernel)

end Tables

end Transcript
end DegreeAudit
