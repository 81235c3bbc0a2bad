import DegreeAudit.Proofs.Text.LetterCase
import DegreeAudit.Proofs.Text.Split
import DegreeAudit.Transcript.Code

namespace DegreeAudit
namespace Transcript

/-!
# The grammar of course codes

A code is one to six letters, two to four digits and at most one more letter.  The reader of codes
goes through a text once and counts; here the same codes are described by their parts, and a cell is
taken for a code as a whole just if it has such parts.  Inside a text a code is found just where a
letter has two digits right after it.
-/

/-- Letters, digits and perhaps a letter, as many of each as a code has. -/
structure CodeParts (letters digits ending : List Char) : Prop where
  letter : forall c, c ∈ letters -> c.isAlpha = true
  digit : forall c, c ∈ digits -> c.isDigit = true
  last : forall c, c ∈ ending -> c.isAlpha = true
  letterCount : 1 ≤ letters.length ∧ letters.length ≤ 6
  digitCount : 2 ≤ digits.length ∧ digits.length ≤ 4
  endingCount : ending.length ≤ 1

/-- A text of the grammar of codes. -/
def IsCodeWord (text : List Char) : Prop :=
  ∃ letters digits ending, text = letters ++ digits ++ ending ∧ CodeParts letters digits ending

variable {text code letters digits ending : List Char}

/-- What is read as a code has the parts of one. -/
theorem isCodeWord_of_codeAt? (found : codeAt? text = some code) : IsCodeWord code := by
  unfold codeAt? at found
  dsimp only at found
  split at found
  · rename_i counted
    simp only [Bool.and_eq_true, decide_eq_true_eq] at counted
    refine ⟨_, _, _, (Option.some.inj found).symm, ?_⟩
    exact {
      letter := fun c member => List.mem_takeWhile_imp member
      digit := fun c member => List.mem_takeWhile_imp (List.mem_of_mem_take member)
      last := fun c member => List.mem_takeWhile_imp member
      letterCount := counted.1
      digitCount := ⟨counted.2, List.length_take_le _ _⟩
      endingCount := (List.takeWhile_prefix _).length_le.trans (List.length_take_le _ _)
    }
  · cases found

/-- After the letters of a code stands a digit, whatever follows. -/
theorem CodeParts.noLetter_head (parts : CodeParts letters digits ending) (after : List Char) :
    forall c, (digits ++ after).head? = some c -> c.isAlpha = false := by
  intro c first
  rw [List.head?_append_of_ne_nil] at first
  · exact Text.isAlpha_of_isDigit (parts.digit c (List.mem_of_mem_head? first))
  · have some := parts.digitCount.1
    rintro rfl
    exact absurd some (by decide)

/-- A text that has the parts of a code is read as one from its beginning to its end. -/
theorem CodeParts.codeAt?_eq (parts : CodeParts letters digits ending) :
    codeAt? (letters ++ digits ++ ending) = some (letters ++ digits ++ ending) := by
  have digitFirst := parts.noLetter_head ending
  have letterFirst : forall c, ending.head? = some c -> c.isDigit = false := fun c first =>
    Text.isDigit_of_isAlpha (parts.last c (List.mem_of_mem_head? first))
  have last : (ending.take 1).takeWhile Char.isAlpha = ending := by
    rw [List.take_of_length_le parts.endingCount]
    exact List.takeWhile_eq_self_iff.mpr parts.last
  unfold codeAt?
  rw [List.append_assoc, Text.takeWhile_span parts.letter digitFirst,
    Text.dropWhile_span parts.letter digitFirst]
  dsimp only
  rw [Text.takeWhile_span parts.digit letterFirst, List.take_of_length_le parts.digitCount.2,
    List.drop_left, last, if_pos, List.append_assoc]
  simp [parts.letterCount, parts.digitCount]

/-- A cell is a code as a whole just if the grammar has it. -/
theorem isCode_iff : isCode text = true ↔ IsCodeWord text := by
  unfold isCode
  rw [beq_iff_eq]
  constructor
  · exact isCodeWord_of_codeAt?
  · rintro ⟨letters, digits, ending, rfl, parts⟩
    exact parts.codeAt?_eq

instance (text : List Char) : Decidable (IsCodeWord text) :=
  decidable_of_iff _ isCode_iff

theorem IsCodeWord.ne_nil (word : IsCodeWord text) : text ≠ [] := by
  rcases word with ⟨letters, digits, ending, rfl, parts⟩
  have some := parts.letterCount.1
  rintro empty
  simp only [List.append_eq_nil_iff] at empty
  rw [empty.1.1] at some
  exact absurd some (by decide)

/-- There is no blank in a code. -/
theorem IsCodeWord.noBlank (word : IsCodeWord text) :
    forall c, c ∈ text -> Text.isBlank c = false := by
  rcases word with ⟨letters, digits, ending, rfl, parts⟩
  intro c member
  simp only [List.mem_append] at member
  rcases member with (letter | digit) | last
  · exact Text.isBlank_of_isAlpha (parts.letter c letter)
  · exact Text.isBlank_of_isDigit (parts.digit c digit)
  · exact Text.isBlank_of_isAlpha (parts.last c last)

/-- What is found inside a text has the parts of a code as well. -/
theorem isCodeWord_of_codeIn? (found : codeIn? text = some code) : IsCodeWord code := by
  induction text with
  | nil => cases found
  | cons c rest inductionHypothesis =>
      unfold codeIn? at found
      split at found
      · rename_i here
        rcases Option.some.inj found with rfl
        exact isCodeWord_of_codeAt? here
      · exact inductionHypothesis found

/-- The code of a row is a word of the grammar, whichever way it is found. -/
theorem isCodeWord_of_findCode? {cells : List (List Char)}
    (found : findCode? cells = some code) : IsCodeWord code := by
  unfold findCode? at found
  split at found
  · rename_i whole
    rcases Option.some.inj found with rfl
    exact isCode_iff.mp (List.find?_some whole)
  · rcases List.exists_of_findSome?_eq_some found with ⟨cell, _, inside⟩
    exact isCodeWord_of_codeIn? inside

/-- Somewhere in a text a letter has two digits right after it. -/
def HoldsCode (text : List Char) : Prop :=
  ∃ letter first second, [letter, first, second] <:+: text ∧ letter.isAlpha = true
    ∧ first.isDigit = true ∧ second.isDigit = true

theorem HoldsCode.of_infix {inner : List Char} (holds : HoldsCode inner) (inside : inner <:+: text) :
    HoldsCode text := by
  rcases holds with ⟨letter, first, second, here, parts⟩
  exact ⟨letter, first, second, here.trans inside, parts⟩

/-- In upper case a text still has its letter with two digits. -/
theorem HoldsCode.upper (holds : HoldsCode text) : HoldsCode (Text.upper text) := by
  rcases holds with ⟨letter, first, second, ⟨before, after, rfl⟩, isLetter, isFirst, isSecond⟩
  have image := Text.upperLetter_of_isAlpha isLetter
  refine ⟨letter.toUpper, first, second, ⟨Text.upper before, Text.upper after, ?_⟩, image.2,
    isFirst, isSecond⟩
  simp [Text.upper, image.1, Text.upperLetter_of_isDigit isFirst,
    Text.upperLetter_of_isDigit isSecond]

/-- The last letter before the digits of a code has two of them after it. -/
theorem IsCodeWord.holdsCode (word : IsCodeWord text) : HoldsCode text := by
  rcases word with ⟨letters, digits, ending, rfl, parts⟩
  rcases List.eq_nil_or_concat letters with rfl | ⟨before, letter, rfl⟩
  · exact absurd parts.letterCount.1 (by simp)
  match digits, parts with
  | first :: second :: others, parts =>
      refine ⟨letter, first, second, ⟨before, others ++ ending, by simp⟩, ?_, ?_, ?_⟩
      · exact parts.letter letter (by simp)
      · exact parts.digit first (by simp)
      · exact parts.digit second (by simp)
  | [], parts => exact absurd parts.digitCount.1 (by simp)
  | [_], parts => exact absurd parts.digitCount.1 (by simp)

/-- A code is read off the beginning of a text. -/
theorem prefix_of_codeAt? (found : codeAt? text = some code) : code <+: text := by
  unfold codeAt? at found
  dsimp only at found
  split at found
  · rcases Option.some.inj found with rfl
    have begins := (List.take_prefix 4 _).trans
      (List.takeWhile_prefix (l := text.dropWhile Char.isAlpha) Char.isDigit)
    have ends := (List.takeWhile_prefix Char.isAlpha).trans
      (List.take_prefix 1 ((text.dropWhile Char.isAlpha).drop
        (((text.dropWhile Char.isAlpha).takeWhile Char.isDigit).take 4).length))
    rw [<- List.prefix_append_right_inj, List.prefix_iff_eq_append.mp begins,
      <- List.prefix_append_right_inj (text.takeWhile Char.isAlpha),
      List.takeWhile_append_dropWhile, <- List.append_assoc] at ends
    exact ends
  · cases found

/-- A letter with two digits after it begins a code. -/
theorem codeAt?_isSome {letter first second : Char} (isLetter : letter.isAlpha = true)
    (isFirst : first.isDigit = true) (isSecond : second.isDigit = true) (rest : List Char) :
    (codeAt? (letter :: first :: second :: rest)).isSome = true := by
  have noLetter := Text.isAlpha_of_isDigit isFirst
  simp [codeAt?, isLetter, noLetter, isFirst, isSecond]

/-- A code is found in a text just if there is a letter with two digits after it. -/
theorem codeIn?_isSome_iff : (codeIn? text).isSome = true ↔ HoldsCode text := by
  induction text with
  | nil =>
      refine iff_of_false nofun ?_
      rintro ⟨letter, first, second, inside, _⟩
      cases List.eq_nil_of_infix_nil inside
  | cons c rest inductionHypothesis =>
      unfold codeIn?
      split
      · rename_i code here
        exact iff_of_true rfl
          ((isCodeWord_of_codeAt? here).holdsCode.of_infix (prefix_of_codeAt? here).isInfix)
      · rename_i absent
        rw [inductionHypothesis]
        constructor
        · exact fun holds => holds.of_infix (List.suffix_cons c rest).isInfix
        · rintro ⟨letter, first, second, inside, isLetter, isFirst, isSecond⟩
          rcases List.infix_cons_iff.mp inside with ⟨after, starts⟩ | later
          · have begun := codeAt?_isSome isLetter isFirst isSecond after
            rw [show letter :: first :: second :: after = c :: rest from starts, absent] at begun
            cases begun
          · exact ⟨letter, first, second, later, isLetter, isFirst, isSecond⟩

instance (text : List Char) : Decidable (HoldsCode text) :=
  decidable_of_iff _ codeIn?_isSome_iff

/-- No code is found in a row just if none of its cells holds one. -/
theorem findCode?_eq_none_iff {cells : List (List Char)} :
    findCode? cells = none ↔ forall cell, cell ∈ cells -> ¬ HoldsCode cell := by
  have each : cells.findSome? codeIn? = none ↔ forall cell, cell ∈ cells -> ¬ HoldsCode cell := by
    simp only [List.findSome?_eq_none_iff, <- codeIn?_isSome_iff, Bool.not_eq_true,
      Option.isSome_eq_false_iff, Option.isNone_iff_eq_none]
  unfold findCode?
  split
  · rename_i word whole
    refine iff_of_false nofun fun none => ?_
    rcases List.mem_map.mp (List.mem_of_find?_eq_some whole) with ⟨cell, member, rfl⟩
    rcases Text.exists_trim cell with ⟨before, after, surrounded, _⟩
    have inside : Text.trim cell <:+: cell := ⟨before, after, by rw [List.append_assoc, <- surrounded]⟩
    exact none cell member ((isCode_iff.mp (List.find?_some whole)).holdsCode.of_infix inside)
  · exact each

/-- The first cell that is a code as a whole gives the code of a row. -/
theorem findCode?_cons (word : IsCodeWord code) (cells : List (List Char)) :
    findCode? (code :: cells) = some code := by
  unfold findCode?
  rw [List.map_cons, Text.trim_of_noBlank word.noBlank,
    List.find?_cons_of_pos (isCode_iff.mpr word)]

end Transcript
end DegreeAudit
