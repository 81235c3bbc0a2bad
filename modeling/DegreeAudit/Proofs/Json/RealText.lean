import DegreeAudit.Proofs.Json.RoundTrip
import DegreeAudit.Proofs.Number.RealText

namespace DegreeAudit
namespace Json

/-!
# Real numbers that are read back

A finite number is written in parts that the reader tells from each other by a point and a letter.
The numbers that have no digits are written as words.
-/

open Number (Written)

section Parts

/-! ## The parts of a number -/

variable {after : List Char}

theorem Delimited.noDigit (delimited : Delimited after) : Text.NoDigit after := by
  intro c first
  rcases delimited c first with rfl | rfl
  · decide
  · decide

theorem spanDigits_append {digits : List Char} (all : forall c, c ∈ digits -> c.isDigit = true)
    (ends : Text.NoDigit after) : spanDigits (digits ++ after) = (digits, after) := by
  unfold spanDigits
  rw [Text.takeWhile_digits all ends, Text.dropWhile_digits all ends]

theorem readWhole_append {whole : List Char} (all : forall c, c ∈ whole -> c.isDigit = true)
    (present : whole ≠ []) (leading : whole.head? = some '0' -> whole = ['0'])
    (ends : Text.NoDigit after) : readWhole (whole ++ after) = (whole, after) := by
  by_cases zero : whole.head? = some '0'
  · rw [leading zero]
    rfl
  · unfold readWhole
    split
    case h_1 rest same =>
      cases whole with
      | nil => exact absurd rfl present
      | cons digit digits =>
          cases same
          exact absurd rfl zero
    case h_2 => exact spanDigits_append all ends

theorem readFraction_point (text : List Char) :
    readFraction ('.' :: text)
      = if (spanDigits text).1.isEmpty then ([], '.' :: text) else spanDigits text := by
  rfl

/-- The text of a fraction, which is absent without digits, with what follows it. -/
def fractionThen (fraction after : List Char) : List Char :=
  (if fraction.isEmpty then [] else '.' :: fraction) ++ after

theorem noDigit_fractionThen (fraction : List Char) (ends : Text.NoDigit after) :
    Text.NoDigit (fractionThen fraction after) := by
  cases fraction with
  | nil => exact ends
  | cons digit digits =>
      intro c first
      cases first
      decide

theorem readFraction_fractionThen {fraction : List Char}
    (all : forall c, c ∈ fraction -> c.isDigit = true) (ends : Text.NoDigit after)
    (pointless : after.head? ≠ some '.') :
    readFraction (fractionThen fraction after) = (fraction, after) := by
  cases fraction with
  | nil =>
      unfold readFraction
      split
      case h_1 rest same =>
        rw [show after = '.' :: rest from same] at pointless
        exact absurd rfl pointless
      case h_2 => rfl
  | cons digit digits =>
      have span := spanDigits_append all ends
      change readFraction ('.' :: (digit :: digits ++ after)) = _
      rw [readFraction_point, span]
      rfl

theorem readExponent_nil (delimited : Delimited after) : readExponent after = (none, after) := by
  unfold readExponent
  cases after with
  | nil => rfl
  | cons c rest =>
      rcases delimited c rfl with rfl | rfl
      · rfl
      · rfl

/-- The digits of an exponent, at least two of them. -/
def paddedDigits (size : Nat) : List Char :=
  if (Text.digitsOf size).length < 2 then '0' :: Text.digitsOf size else Text.digitsOf size

theorem isDigit_of_mem_paddedDigits {size : Nat} {c : Char} (member : c ∈ paddedDigits size) :
    c.isDigit = true := by
  unfold paddedDigits at member
  split at member
  · rcases List.mem_cons.mp member with rfl | member
    · decide
    · exact Text.isDigit_of_mem_digitsOf member
  · exact Text.isDigit_of_mem_digitsOf member

theorem valueOfDigits_paddedDigits (size : Nat) :
    Text.valueOfDigits (paddedDigits size) = size := by
  unfold paddedDigits
  split
  · have zero := Text.valueOfDigits_zeros_append 1 (Text.digitsOf size)
    rw [Text.valueOfDigits_digitsOf] at zero
    exact zero
  · exact Text.valueOfDigits_digitsOf size

theorem readExponent_letter (text : List Char) :
    readExponent ('e' :: text)
      = if (spanDigits (Number.cutSign text).2).1.isEmpty then (none, 'e' :: text)
        else
          (some (if (Number.cutSign text).1 then
                -Int.ofNat (Text.valueOfDigits (spanDigits (Number.cutSign text).2).1)
              else Int.ofNat (Text.valueOfDigits (spanDigits (Number.cutSign text).2).1)),
            (spanDigits (Number.cutSign text).2).2) := by
  rfl

theorem readExponent_exponentText (exponent : Int) (ends : Text.NoDigit after) :
    readExponent (Number.exponentText exponent ++ after) = (some exponent, after) := by
  have span : spanDigits (paddedDigits exponent.natAbs ++ after)
      = (paddedDigits exponent.natAbs, after) :=
    spanDigits_append (fun _ => isDigit_of_mem_paddedDigits) ends
  have some : (paddedDigits exponent.natAbs).isEmpty = false := by
    unfold paddedDigits
    split
    · rfl
    · rw [List.isEmpty_eq_false_iff]
      exact Text.digitsOf_ne_nil _
  have text : Number.exponentText exponent ++ after
      = 'e' :: (if exponent < 0 then '-' else '+') :: (paddedDigits exponent.natAbs ++ after) := rfl
  have cut : Number.cutSign
      ((if exponent < 0 then '-' else '+') :: (paddedDigits exponent.natAbs ++ after))
      = (decide (exponent < 0), paddedDigits exponent.natAbs ++ after) := by
    by_cases negative : exponent < 0
    · rw [if_pos negative, decide_eq_true negative]
      rfl
    · rw [if_neg negative, decide_eq_false negative]
      rfl
  rw [text, readExponent_letter, cut]
  dsimp only
  rw [span]
  dsimp only
  rw [some, valueOfDigits_paddedDigits, if_neg Bool.false_ne_true]
  by_cases negative : exponent < 0
  · rw [if_pos (decide_eq_true negative), Int.ofNat_eq_natCast]
    congr 2
    omega
  · rw [if_neg (by rw [decide_eq_false negative]; exact Bool.false_ne_true), Int.ofNat_eq_natCast]
    congr 2
    omega

/-- The text of an exponent, or of none, with what follows it. -/
def exponentThen (exponent : Option Int) (after : List Char) : List Char :=
  (exponent.map Number.exponentText).getD [] ++ after

theorem readExponent_exponentThen (delimited : Delimited after) (exponent : Option Int) :
    readExponent (exponentThen exponent after) = (exponent, after) := by
  cases exponent with
  | none => exact readExponent_nil delimited
  | some exponent => exact readExponent_exponentText exponent delimited.noDigit

theorem noDigit_exponentThen (delimited : Delimited after) (exponent : Option Int) :
    Text.NoDigit (exponentThen exponent after) := by
  cases exponent with
  | none => exact delimited.noDigit
  | some exponent =>
      intro c first
      cases first
      decide

theorem head?_exponentThen (delimited : Delimited after) (exponent : Option Int) :
    (exponentThen exponent after).head? ≠ some '.' := by
  intro point
  cases exponent with
  | none =>
      rcases delimited '.' point with same | same
      · exact absurd same (by decide)
      · exact absurd same (by decide)
  | some exponent => cases point

/-- The parts of a real number are told from each other, whatever its sign is. -/
theorem readUnsigned_text {written : Written} (isReal : written.IsReal) (negative : Bool)
    (start : List Char) (delimited : Delimited after) :
    readUnsigned negative start (written.text ++ after)
      = .ok (.real (Number.signed negative written.size), after) := by
  rcases written with ⟨whole, fraction, exponent⟩
  have last := noDigit_exponentThen delimited exponent
  have readLast := readExponent_exponentThen delimited exponent
  have readMiddle :=
    readFraction_fractionThen isReal.fraction last (head?_exponentThen delimited exponent)
  have readFirst := readWhole_append isReal.whole isReal.present isReal.leading
    (noDigit_fractionThen fraction last)
  have real : (fraction.isEmpty && exponent.isNone) = false := by
    cases fraction with
    | nil =>
        cases exponent with
        | none => exact absurd rfl (isReal.marked rfl)
        | some exponent => rfl
    | cons digit digits => rfl
  have digits : whole.isEmpty = false := List.isEmpty_eq_false_iff.mpr isReal.present
  have text : (Written.mk whole fraction exponent).text ++ after
      = whole ++ fractionThen fraction (exponentThen exponent after) := by
    unfold Written.text fractionThen exponentThen
    rw [List.append_assoc, List.append_assoc]
  unfold readUnsigned
  rw [text, readFirst]
  dsimp only
  rw [readMiddle]
  dsimp only
  rw [readLast]
  dsimp only
  rw [digits, real]
  rfl

end Parts

section Values

/-! ## Real numbers -/

open Float.Model (UnpackedFloat)

theorem words_eq :
    words = [
      (['n', 'u', 'l', 'l'], .null), (['t', 'r', 'u', 'e'], .bool true),
      (['f', 'a', 'l', 's', 'e'], .bool false), (['N', 'a', 'N'], .real Number.notANumber),
      (['I', 'n', 'f', 'i', 'n', 'i', 't', 'y'], .real Number.infinity),
      (['-', 'I', 'n', 'f', 'i', 'n', 'i', 't', 'y'], .real (-Number.infinity))] := by
  unfold words
  simp

/-- The word for a value is read as that value. -/
theorem readValue_word {word : List Char} {value : Json} (known : (word, value) ∈ words)
    (fuel nesting : Nat) (after : List Char) :
    readValue fuel nesting (word ++ after) = .ok (value, after) := by
  rw [words_eq] at known
  simp only [List.mem_cons, List.not_mem_nil, or_false, Prod.mk.injEq] at known
  unfold readValue
  rcases known with ⟨rfl, rfl⟩ | ⟨rfl, rfl⟩ | ⟨rfl, rfl⟩ | ⟨rfl, rfl⟩ | ⟨rfl, rfl⟩ | ⟨rfl, rfl⟩
  all_goals simp [readWord?, words_eq, afterWord?]

/-- A text that begins with a digit, perhaps after a minus sign, is read as a number. -/
theorem readValue_digit (fuel nesting : Nat) (negative : Bool) {digit : Char}
    (isDigit : digit.isDigit = true) (rest : List Char) :
    readValue fuel nesting (if negative then '-' :: digit :: rest else digit :: rest)
      = readUnsigned negative (if negative then '-' :: digit :: rest else digit :: rest)
        (digit :: rest) := by
  have other {c : Char} (no : c.isDigit = false) : digit ≠ c := by
    rintro rfl
    rw [isDigit] at no
    cases no
  have brace : digit.toNat ≠ 0x7B := by
    intro same
    exact @other (Char.ofNat 0x7B) (by decide) (by rw [<- same, Char.ofNat_toNat])
  cases negative with
  | true =>
      have wordless : readWord? ('-' :: digit :: rest) = none := by
        have infinite := Ne.symm (@other 'I' (by decide))
        simp [readWord?, words_eq, afterWord?, infinite]
      unfold readValue
      simp [wordless, readNumber]
  | false =>
      have wordless : readWord? (digit :: rest) = none := by
        simp [readWord?, words_eq, afterWord?, Ne.symm (@other 'n' (by decide)),
          Ne.symm (@other 't' (by decide)), Ne.symm (@other 'f' (by decide)),
          Ne.symm (@other 'N' (by decide)), Ne.symm (@other 'I' (by decide)),
          Ne.symm (@other '-' (by decide))]
      have unsigned : readNumber (digit :: rest)
          = readUnsigned false (digit :: rest) (digit :: rest) := by
        unfold readNumber
        split
        case h_1 same =>
          cases same
          exact absurd rfl (@other '-' (by decide))
        case h_2 => rfl
      unfold readValue
      simp [wordless, unsigned, @other '"' (by decide), @other '[' (by decide), brace]

theorem eq_notANumber {x : Float} (seen : Number.view x = .nan) : x = Number.notANumber := by
  apply Number.eq_of_parts
  rw [Number.view_eq] at seen
  cases shape : Number.parts x with
  | notANumber => rfl
  | infinity sign => rw [shape] at seen; cases seen
  | zero sign => rw [shape] at seen; cases seen
  | finite sign mantissa exponent positive => rw [shape] at seen; cases seen

theorem eq_infinity {x : Float} {negative : Bool} (seen : Number.view x = .infinite negative) :
    x = Number.signed negative Number.infinity := by
  apply Number.eq_of_parts
  rw [Number.view_eq] at seen
  cases shape : Number.parts x with
  | notANumber => rw [shape] at seen; cases seen
  | infinity sign =>
      rw [shape] at seen
      cases sign with
      | positive => cases seen; rfl
      | negative => cases seen; rfl
  | zero sign => rw [shape] at seen; cases seen
  | finite sign mantissa exponent positive => rw [shape] at seen; cases seen

theorem exists_digit {written : Written} (isReal : written.IsReal) :
    ∃ digit rest, written.text = digit :: rest ∧ digit.isDigit = true := by
  rcases written with ⟨whole, fraction, exponent⟩
  cases whole with
  | nil => exact absurd rfl isReal.present
  | cons digit digits => exact ⟨digit, _, rfl, isReal.whole digit List.mem_cons_self⟩

/-- Every real number is read back as itself, also those that are infinite and the one that is no
number. -/
theorem readsBack_real (x : Float) (depth nesting : Nat) : ReadsBack depth nesting (.real x) := by
  intro fuel after enough delimited
  unfold writeAt writeReal
  cases seen : Number.view x with
  | nan =>
      rw [eq_notANumber seen]
      exact readValue_word (by simp [words]) fuel nesting after
  | infinite negative =>
      rw [eq_infinity seen]
      cases negative with
      | false => exact readValue_word (by simp [words, Number.signed]) fuel nesting after
      | true => exact readValue_word (by simp [words, Number.signed]) fuel nesting after
  | finite negative mantissa exponent =>
      rcases Number.exists_stands seen with ⟨written, stands⟩
      rcases exists_digit stands.isReal with ⟨digit, rest, text, isDigit⟩
      have read := readUnsigned_text stands.isReal negative
        (if negative then '-' :: digit :: (rest ++ after) else digit :: (rest ++ after)) delimited
      have start : (if negative then '-' :: written.text else written.text) ++ after
          = if negative then '-' :: digit :: (rest ++ after) else digit :: (rest ++ after) := by
        rw [text]
        cases negative with
        | false => rfl
        | true => rfl
      rw [stands.number, text] at read
      dsimp only
      rw [stands.text, start, readValue_digit fuel nesting negative isDigit]
      exact read

end Values

end Json
end DegreeAudit
