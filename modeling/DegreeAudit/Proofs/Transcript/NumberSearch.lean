import DegreeAudit.Proofs.Json.Display
import DegreeAudit.Proofs.Number.Decimal
import DegreeAudit.Transcript.Credit

namespace DegreeAudit
namespace Transcript

/-!
# The number that is found in a text

The reader of numbers passes over everything before the first digit and takes digits as long as
there are any.  A point goes on with the number only if a digit follows it; a point at the end of a
sentence, or a second one, ends it.  The number that is found is described here by how it divides
the text, and its value by its digits, of which there may be more than a number can hold.

A number may be looked for in any value of a document that has a text.
-/

open Number (IsNearest NumeralParts fractionText noDigit_fractionText realOfDecimal)

/-- How the first number of a text divides it: before it there is no digit, it takes all digits
that follow each other, and a point after them belongs to it just if a digit follows. -/
structure FirstNumber (text before whole fraction after : List Char) : Prop where
  divided : text = before ++ (whole ++ (fractionText fraction ++ after))
  noDigit : forall c, c ∈ before -> c.isDigit = false
  numeral : NumeralParts whole fraction
  ends : Text.NoDigit after
  pointless : fraction = [] ->
    ¬ ∃ digit rest, after = '.' :: digit :: rest ∧ digit.isDigit = true

/-- The text of a value as a number is looked for in it, if it has one: that of null is empty, and
the first comma stands for a point. -/
def searchedText? : Json -> Option (List Char)
  | .null => some []
  | value => value.asText?.map fun text => Text.replaceFirst ',' '.' text.toList

section Divisions

/-! ## Dividing a text -/

variable {text before whole fraction after : List Char}

/-- After digits there is a fraction, or there is no digit even after a point. -/
theorem exists_fraction {rest : List Char} (ends : Text.NoDigit rest) :
    ∃ fraction after, rest = fractionText fraction ++ after
      ∧ (forall c, c ∈ fraction -> c.isDigit = true) ∧ Text.NoDigit after
      ∧ (fraction = [] -> ¬ ∃ digit tail, after = '.' :: digit :: tail ∧ digit.isDigit = true) := by
  by_cases pointed : ∃ digit tail, rest = '.' :: digit :: tail ∧ digit.isDigit = true
  · rcases pointed with ⟨digit, tail, rfl, isDigit⟩
    rcases Text.exists_digits isDigit tail with ⟨fraction, after, divided, present, all, ends⟩
    refine ⟨fraction, after, ?_, all, ends, fun none => absurd none present⟩
    simp [divided, fractionText, present]
  · exact ⟨[], rest, rfl, List.forall_mem_nil _, ends, fun _ => pointed⟩

/-- A text with a digit has a first number. -/
theorem exists_firstNumber (digit : ∃ c, c ∈ text ∧ c.isDigit = true) :
    ∃ before whole fraction after, FirstNumber text before whole fraction after := by
  rcases Option.isSome_iff_exists.mp (List.find?_isSome.mpr digit) with ⟨c, found⟩
  rcases List.find?_eq_some_iff_append.mp found with ⟨isDigit, before, tail, rfl, passed⟩
  rcases Text.exists_digits isDigit tail with ⟨whole, rest, divided, present, all, restEnds⟩
  rcases exists_fraction restEnds with ⟨fraction, after, rfl, digits, ends, pointless⟩
  refine ⟨before, whole, fraction, after, ?_, ?_, ⟨present, all, digits⟩, ends, pointless⟩
  · rw [divided]
  · intro other member
    exact (Bool.not_eq_true' _).mp (passed other member)

theorem FirstNumber.noDigit_rest (first : FirstNumber text before whole fraction after) :
    Text.NoDigit (fractionText fraction ++ after) := by
  cases fraction with
  | nil => exact first.ends
  | cons digit digits => exact noDigit_fractionText (digit :: digits)

/-- The first number of a text is the one that its digits write. -/
theorem FirstNumber.firstNumber?_eq (first : FirstNumber text before whole fraction after) :
    firstNumber? text
      = some (realOfDecimal (Text.valueOfDigits (whole ++ fraction))
        (-Int.ofNat fraction.length)) := by
  have start : text.dropWhile (fun c => !c.isDigit)
      = whole ++ (fractionText fraction ++ after) := by
    rw [first.divided, List.dropWhile_append_of_pos, Text.dropWhile_eq_self_iff]
    · intro c head
      rw [List.head?_append_of_ne_nil _ first.numeral.present] at head
      rw [first.numeral.whole c (List.mem_of_mem_head? head)]
      rfl
    · intro c member
      rw [first.noDigit c member]
      rfl
  unfold firstNumber?
  rw [start]
  dsimp only
  rw [Text.takeWhile_digits first.numeral.whole first.noDigit_rest,
    Text.dropWhile_digits first.numeral.whole first.noDigit_rest]
  cases fraction with
  | nil =>
      have present : whole.isEmpty = false := by simp [first.numeral.present]
      rw [show fractionText [] ++ after = after from rfl, present, if_neg Bool.false_ne_true]
      split
      · rename_i rest
        have none : rest.takeWhile Char.isDigit = [] := by
          refine @Text.takeWhile_digits [] rest nofun fun c head => ?_
          rw [<- Bool.not_eq_true]
          rcases List.head?_eq_some_iff.mp head with ⟨tail, rfl⟩
          exact fun digit => first.pointless rfl ⟨c, tail, rfl, digit⟩
        rw [none]
      · rfl
  | cons digit digits =>
      have inside := Text.takeWhile_digits first.numeral.fraction first.ends
      rw [List.cons_append] at inside
      simp only [fractionText, List.isEmpty_cons, Bool.false_eq_true, if_false, List.cons_append]
      rw [inside]
      simp [first.numeral.present]

/-- There is no number in a text just if there is no digit in it. -/
theorem firstNumber?_eq_none_iff :
    firstNumber? text = none ↔ forall c, c ∈ text -> c.isDigit = false := by
  constructor
  · intro none
    by_contra! digit
    simp only [ne_eq, Bool.not_eq_false] at digit
    rcases exists_firstNumber digit with ⟨before, whole, fraction, after, first⟩
    rw [first.firstNumber?_eq] at none
    cases none
  · intro noDigit
    have passed : text.dropWhile (fun c => !c.isDigit) = [] := by
      rw [List.dropWhile_eq_nil_iff]
      intro c member
      rw [noDigit c member]
      rfl
    unfold firstNumber?
    rw [passed]
    rfl

end Divisions

section Values

/-! ## The value of the number -/

theorem searchedText?_eq_none_iff (value : Json) :
    searchedText? value = none ↔ value.HoldsOverlong := by
  unfold searchedText?
  split
  · constructor
    · intro absent
      cases absent
    · intro overlong
      cases overlong
  · exact Option.map_eq_none_iff.trans (Json.asText?_eq_none_iff _)

theorem numberOf?_of_searchedText? {value : Json} {text : List Char}
    (found : searchedText? value = some text) : numberOf? value = .ok (firstNumber? text) := by
  unfold numberOf?
  split
  case h_1 =>
    rcases Option.some.inj found with rfl
    rfl
  case h_2 value present =>
    rw [searchedText?, Option.map_eq_some_iff] at found
    · rcases found with ⟨written, isText, rfl⟩
      rw [Json.toText_of_asText? isText]
      rfl
    · exact present

theorem numberOf?_of_holdsOverlong {value : Json} (overlong : value.HoldsOverlong) :
    numberOf? value = .error .tooManyDigits := by
  unfold numberOf?
  split
  · cases overlong
  · rw [(Json.toText_eq_error_iff _ .tooManyDigits).mpr ⟨rfl, overlong⟩]
    rfl

/-- The number of a value is looked for in its text, unless it has none.  Then it is missing just if
the text has no digit, and otherwise it is the number nearest to what the first digits in the text
write, together with the digits after a point that follows them directly. -/
theorem numberOf?_finds (value : Json) :
    (forall mismatch, numberOf? value = .error mismatch
        ↔ mismatch = .tooManyDigits ∧ value.HoldsOverlong)
      ∧ (value.HoldsOverlong ∨ ∃ text, searchedText? value = some text
        ∧ (numberOf? value = .ok none ↔ forall c, c ∈ text -> c.isDigit = false)
        ∧ forall number, numberOf? value = .ok (some number) ↔
          ∃ before whole fraction after, FirstNumber text before whole fraction after
            ∧ IsNearest number
              (Text.valueOfDigits (whole ++ fraction) / 10 ^ fraction.length)) := by
  by_cases overlong : value.HoldsOverlong
  case pos =>
    refine ⟨fun mismatch => ?_, Or.inl overlong⟩
    rw [numberOf?_of_holdsOverlong overlong, Except.error.injEq, eq_comm, and_iff_left overlong]
  obtain ⟨text, found⟩ : ∃ text, searchedText? value = some text := by
    rwa [<- searchedText?_eq_none_iff, <- ne_eq, Option.ne_none_iff_exists'] at overlong
  rw [numberOf?_of_searchedText? found]
  refine ⟨fun mismatch => iff_of_false nofun fun both => overlong both.2,
    Or.inr ⟨text, found, ?_, fun number => ?_⟩⟩
  · rw [Except.ok.injEq, firstNumber?_eq_none_iff]
  rw [Except.ok.injEq]
  constructor
  case mp =>
    intro isNumber
    have digit : ∃ c, c ∈ text ∧ c.isDigit = true := by
      by_contra! none
      simp only [ne_eq, Bool.not_eq_true] at none
      rw [firstNumber?_eq_none_iff.mpr none] at isNumber
      cases isNumber
    rcases exists_firstNumber digit with ⟨before, whole, fraction, after, first⟩
    rw [first.firstNumber?_eq, Option.some.injEq] at isNumber
    exact ⟨before, whole, fraction, after, first, isNumber ▸ Number.isNearest_of_places _ _⟩
  case mpr =>
    rintro ⟨before, whole, fraction, after, first, nearest⟩
    rw [first.firstNumber?_eq, (Number.isNearest_of_places _ _).unique nearest]

/-- The first comma is a point, the second one ends the number. -/
example : numberOf? (.string "ca. 1,5,2") = .ok (some 1.5) := by
  decide

end Values

end Transcript
end DegreeAudit
