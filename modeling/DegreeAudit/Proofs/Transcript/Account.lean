import DegreeAudit.Proofs.Transcript.Cleaning
import DegreeAudit.Proofs.Transcript.Code
import DegreeAudit.Proofs.Transcript.Credit

namespace DegreeAudit
namespace Transcript

/-!
# What a transcript gives, on any text

A paste accounts for every line: it adds a course, or there is a reason why it does not.  What it
adds is fit for a course on any text, since a code that is found anywhere in a row is a whole code
and credits outside the bounds are not looked at.  The counts, the codes that are taken and the
courses are kept together from line to line.

The bucket of a course is suggested for its code and the name that stands in its row.  Where no
name stands there the course is called by its code, but the suggestion goes without a name, and so
it may differ from what would be suggested for the course as it is held.
-/

/-- The name in a row whose credits stand in some column; it is empty if there is none. -/
def titleIn (line : List Char) (column : Nat) : String :=
  String.ofList (guessName (cells line) (some (column : Int)))

/-- What a course is that a line gives, with its credits in some column. -/
structure ReadFrom (track : Option Track) (line : List Char) (column : Nat)
    (course : CourseData Float) : Prop where
  codeFound : findCode? (cells line) = some course.code.toList
  creditsFound : findCredits? (cells line) = some ⟨column, course.credits⟩
  code : IsCodeWord course.code.toList
  least : leastCredits <= course.credits
  most : course.credits <= mostCredits
  named : course.name ≠ ""
  title : titleIn line column ≠ "" -> course.name = titleIn line column
  untitled : titleIn line column = "" -> course.name = course.code
  bucket : course.bucket = classify course.code (titleIn line column) track

/-- Why a line adds no course, after lines that were read before it. -/
inductive PassedOver (known : List String) (before : List Reading) (line : List Char) : Prop where
  | noCode (absent : findCode? (cells line) = none)
  | noCredits (absent : forall cell, cell ∈ cells line -> plausibleCredits? cell = none)
  | known {code : List Char} (found : findCode? (cells line) = some code)
      (held : normalizeCode (String.ofList code) ∈ known.map normalizeCode)
  | repeated {code : List Char} (found : findCode? (cells line) = some code)
      (added : normalizeCode (String.ofList code) ∈ addedKeys before)

/-- All lines of a text are accounted for. -/
structure AccountsFor (track : Option Track) (known : List String) (text : List Char)
    (readings : List Reading) : Prop where
  /-- The lines that count are those that are not blank. -/
  lineCount : (counts readings).lines
    = (Text.splitOn '\n' (text.filter fun c => c != '\r')).countP fun line => !Text.allBlank line
  total : (counts readings).lines = (counts readings).added + (counts readings).skipped
  added : (counts readings).added = (courses readings).length
  /-- Courses come in the order of their lines. -/
  inOrder : ∃ adding : List (List Char), adding.Sublist (lines text)
    ∧ List.Forall₂ (fun line course => ∃ column, ReadFrom track line column course) adding
      (courses readings)
  distinct : ((courses readings).map CourseData.key).Nodup
  new : forall course, course ∈ courses readings -> course.key ∉ known.map normalizeCode
  /-- A line is skipped just if there is a reason. -/
  skipped : forall (index : Nat) (line : List Char), (lines text)[index]? = some line ->
    ∃ reading, readings[index]? = some reading
      ∧ (reading.course? = none ↔ PassedOver known (readings.take index) line)

section Rows

/-! ## Rows -/

variable {line : List Char} {row : Row}

/-- The course of a row that is recognized is fit for one. -/
theorem readFrom_of_recognize? (recognized : recognize? (cells line) = some row)
    (track : Option Track) : ∃ column, ReadFrom track line column (row.course track) := by
  rcases recognize?_eq_some_iff.mp recognized with ⟨code, credit, codeFound, creditFound, same⟩
  have coded : row.code.toList = code := by
    rw [same]
    exact String.toList_ofList
  have titled : row.name = titleIn line credit.index := by
    rw [same]
    rfl
  have counted : row.credits = credit.credits := by
    rw [same]
  have word : IsCodeWord row.code.toList := by
    rw [coded]
    exact isCodeWord_of_findCode? codeFound
  have bounds := between_of_findCredits? creditFound
  rw [<- counted] at bounds
  refine ⟨credit.index, ?_⟩
  rw [<- coded] at codeFound
  constructor
  case codeFound => exact codeFound
  case creditsFound =>
    change findCredits? (cells line) = some ⟨credit.index, row.credits⟩
    rw [creditFound, counted]
  case code => exact word
  case least => exact bounds.1
  case most => exact bounds.2
  case named =>
    change (if row.name.isEmpty then row.code else row.name) ≠ ""
    split
    · intro empty
      exact word.ne_nil (by rw [empty]; rfl)
    · rename_i something
      rwa [String.isEmpty_iff] at something
  case title =>
    intro something
    rw [<- titled] at something ⊢
    exact if_neg (by rwa [String.isEmpty_iff])
  case untitled =>
    intro nothing
    rw [<- titled] at nothing
    exact if_pos (String.isEmpty_iff.mpr nothing)
  case bucket => simp only [Row.course, titled]

/-- No row is recognized just if there is no code or no cell that may give the credits. -/
theorem recognize?_eq_none_iff {cells : List (List Char)} :
    recognize? cells = none
      ↔ findCode? cells = none ∨ forall cell, cell ∈ cells -> plausibleCredits? cell = none := by
  rw [<- findCredits?_eq_none_iff]
  unfold recognize?
  cases findCode? cells with
  | none => simp
  | some code =>
      cases findCredits? cells with
      | none => simp
      | some credit => simp

/-- The normalized code of a row has a letter with two digits after it. -/
theorem holdsCode_of_mem_recognizedKeys {lines : List (List Char)} {key : String}
    (member : key ∈ recognizedKeys lines) : HoldsCode key.toList := by
  rcases mem_recognizedKeys_iff.mp member with ⟨line, _, row, recognized, rfl⟩
  rcases recognize?_eq_some_iff.mp recognized with ⟨code, _, found, _, rfl⟩
  have word := isCodeWord_of_findCode? found
  rw [normalizeCode, String.toList_ofList, String.toList_ofList,
    Text.trim_of_noBlank word.noBlank]
  exact word.holdsCode.upper

end Rows

section Texts

/-! ## Any text -/

/-- A line whose code is not among those that are taken adds a course, and any other has a reason
to be skipped. -/
theorem passedOver_iff {known : List String} {before : List Reading} {line : List Char} :
    PassedOver known before line
      ↔ ¬ ∃ row, recognize? (cells line) = some row
        ∧ normalizeCode row.code ∉ addedKeys before ++ known.map normalizeCode := by
  constructor
  · rintro passed ⟨row, recognized, new⟩
    rw [List.mem_append, not_or] at new
    rcases recognize?_eq_some_iff.mp recognized with ⟨code, credit, codeFound, creditFound, rfl⟩
    cases passed with
    | noCode absent => cases absent.symm.trans codeFound
    | noCredits absent =>
        cases (findCredits?_eq_none_iff.mpr absent).symm.trans creditFound
    | known found held =>
        rcases Option.some.inj (codeFound.symm.trans found) with rfl
        exact new.2 held
    | repeated found added =>
        rcases Option.some.inj (codeFound.symm.trans found) with rfl
        exact new.1 added
  · intro taken
    cases recognized : recognize? (cells line) with
    | none =>
        rcases recognize?_eq_none_iff.mp recognized with absent | absent
        · exact .noCode absent
        · exact .noCredits absent
    | some row =>
        rcases recognize?_eq_some_iff.mp recognized with
          ⟨code, credit, codeFound, creditFound, rfl⟩
        by_contra other
        refine taken ⟨_, recognized, ?_⟩
        rw [List.mem_append]
        rintro (added | held)
        · exact other (.repeated codeFound added)
        · exact other (.known codeFound held)

/-- Reading accounts for every line of any text, whatever codes are known and whatever the track. -/
theorem read_accountsFor (track : Option Track) (known : List String) (text : List Char) :
    AccountsFor track known text (read track known text) := by
  have counted := counts_eq (read track known text)
  have length : (read track known text).length = (lines text).length :=
    length_readLines track _ _
  constructor
  case lineCount => rw [counted, <- length_lines, length]
  case total =>
    have fewer : (courses (read track known text)).length ≤ (read track known text).length :=
      List.length_filterMap_le _ _
    rw [counted]
    exact (Nat.add_sub_cancel' fewer).symm
  case added => rw [counted]
  case inOrder =>
    rcases exists_lines_of_courses track (known.map normalizeCode) (lines text) with
      ⟨adding, among, each⟩
    refine ⟨adding, among, each.imp ?_⟩
    rintro line course ⟨row, recognized, rfl⟩
    exact readFrom_of_recognize? recognized track
  case distinct => exact nodup_addedKeys track _ _
  case new =>
    intro course member
    have added : course.key ∈ addedKeys (read track known text) := List.mem_map_of_mem member
    exact (mem_addedKeys_iff.mp added).2
  case skipped =>
    intro index line there
    rcases List.getElem?_eq_some_iff.mp there with ⟨bounded, here⟩
    have parts : lines text = (lines text).take index ++ line :: (lines text).drop (index + 1) := by
      rw [<- here, List.getElem_cons_drop, List.take_append_drop]
    have place : ((lines text).take index).length = index := List.length_take_of_le bounded.le
    rcases reading_after track (known.map normalizeCode) ((lines text).take index) line
      ((lines text).drop (index + 1)) with ⟨reading, found, adds⟩
    have before := take_readLines track (known.map normalizeCode) ((lines text).take index)
      (line :: (lines text).drop (index + 1))
    rw [<- parts, place] at found before
    refine ⟨reading, found, ?_⟩
    rw [passedOver_iff, read, before, <- adds, Option.isSome_iff_ne_none, not_not]

/-- A row without a name, whose code has a word in it that would be looked for in a name. -/
def namelessRow : List Char := "XUGRP10\t3\tA0".toList

/-- Its course is not in the bucket that would be suggested for it as it is held. -/
theorem bucket_of_namelessRow :
    ∃ course, courses (read none [] namelessRow) = [course]
      ∧ course.bucket = .other ∧ classify course.code course.name none = .ugrp := by
  refine ⟨⟨"XUGRP10", "XUGRP10", 3, .other⟩, ?_, rfl, ?_⟩
  · decide +kernel
  · decide +kernel

end Texts

end Transcript
end DegreeAudit
