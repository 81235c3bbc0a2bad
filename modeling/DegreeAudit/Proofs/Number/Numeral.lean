import DegreeAudit.Number.Reader
import DegreeAudit.Proofs.Text.Digit

namespace DegreeAudit
namespace Number

/-!
# Numerals

A numeral is digits, or digits with a point between them.  The reader of real numbers, which also
knows signs, exponents, margins and the digits of other scripts, reads a numeral as the decimal
number that it writes.
-/

/-- The digits of a numeral, and those after its point if it has one. -/
structure NumeralParts (whole fraction : List Char) : Prop where
  present : whole ≠ []
  whole : forall c, c ∈ whole -> c.isDigit = true
  fraction : forall c, c ∈ fraction -> c.isDigit = true

/-- The point and the digits after it, if there are any. -/
def fractionText (fraction : List Char) : List Char :=
  if fraction.isEmpty then [] else '.' :: fraction

/-- A text that is a numeral. -/
def IsNumeral (text : List Char) : Prop :=
  ∃ whole fraction, text = whole ++ fractionText fraction ∧ NumeralParts whole fraction

section Characters

/-! ## The characters of a numeral -/

variable {c : Char} {text : List Char}

/-- The characters of numerals. -/
def marks : List Char := ['.', '0', '1', '2', '3', '4', '5', '6', '7', '8', '9']

/-- What is true of each of these characters by itself. -/
theorem of_mem_marks (property : Char -> Prop) [DecidablePred property]
    (all : (marks.all fun mark => decide (property mark)) = true) (member : c ∈ marks) :
    property c :=
  of_decide_eq_true (List.all_eq_true.mp all c member)

theorem mem_marks_of_isDigit (digit : c.isDigit = true) : c ∈ marks := by
  have codes : forall code, code < 58 -> 48 ≤ code -> Char.ofNat code ∈ marks := by decide
  rcases Text.toNat_of_isDigit digit with ⟨least, most⟩
  rw [← Char.ofNat_toNat c]
  exact codes c.toNat (Nat.lt_succ_of_le most) least

theorem IsNumeral.mem_marks (numeral : IsNumeral text) : forall c, c ∈ text -> c ∈ marks := by
  rcases numeral with ⟨whole, fraction, rfl, parts⟩
  intro c member
  rcases List.mem_append.mp member with member | member
  · exact mem_marks_of_isDigit (parts.whole c member)
  · unfold fractionText at member
    split at member
    · cases member
    · rcases List.mem_cons.mp member with rfl | member
      · decide
      · exact mem_marks_of_isDigit (parts.fraction c member)

theorem IsNumeral.ne_nil (numeral : IsNumeral text) : text ≠ [] := by
  rcases numeral with ⟨whole, fraction, rfl, parts⟩
  intro empty
  exact parts.present (List.append_eq_nil_iff.mp empty).1

theorem IsNumeral.noBlank (numeral : IsNumeral text) :
    forall c, c ∈ text -> Text.isBlank c = false := by
  intro c member
  exact of_mem_marks (fun c => Text.isBlank c = false) (by decide) (numeral.mem_marks c member)

/-- A numeral begins with a digit. -/
theorem IsNumeral.exists_digit (numeral : IsNumeral text) :
    ∃ digit rest, text = digit :: rest ∧ digit.isDigit = true := by
  rcases numeral with ⟨whole, fraction, rfl, parts⟩
  rcases List.exists_cons_of_ne_nil parts.present with ⟨digit, digits, rfl⟩
  exact ⟨digit, digits ++ fractionText fraction, rfl, parts.whole digit List.mem_cons_self⟩

theorem noDigit_fractionText (fraction : List Char) : Text.NoDigit (fractionText fraction) := by
  intro c first
  unfold fractionText at first
  split at first
  · cases first
  · rcases Option.some.inj first with rfl
    decide

end Characters

section Reading

/-! ## Reading a numeral -/

variable {whole fraction text : List Char}

theorem dropUnderscores_of_not_mem (afterDigit : Bool) (free : '_' ∉ text) :
    dropUnderscores afterDigit text = some text := by
  induction text generalizing afterDigit with
  | nil => rfl
  | cons c rest inductionHypothesis =>
      rw [List.mem_cons, not_or] at free
      rw [dropUnderscores, if_neg (Ne.symm free.1), inductionHypothesis _ free.2]
      rfl

/-- A numeral needs no tidying. -/
theorem IsNumeral.tidied_eq (numeral : IsNumeral text) : tidied text = some text := by
  have digits {c : Char} (mark : c ∈ marks) : Text.plainDigits [c] = [c] :=
    of_mem_marks (fun c => Text.plainDigits [c] = [c]) (by decide) mark
  have plain : Text.plainDigits text = text := by
    refine (List.map_congr_left ?_).trans (List.map_id text)
    intro c member
    exact List.head_eq_of_cons_eq (digits (numeral.mem_marks c member))
  have margin : forall c, c ∈ text -> isMargin c = false := by
    intro c member
    exact of_mem_marks (fun c => isMargin c = false) (by decide) (numeral.mem_marks c member)
  have free : '_' ∉ text := by
    intro member
    exact absurd (numeral.mem_marks '_' member) (by decide)
  have left : text.dropWhile isMargin = text :=
    Text.dropWhile_eq_self_iff.mpr fun c first => margin c (List.mem_of_mem_head? first)
  have right : Text.dropEnd isMargin text = text :=
    Text.dropEnd_eq_self_iff.mpr fun c last => margin c (List.mem_of_mem_getLast? last)
  rw [tidied, left, right, plain]
  exact dropUnderscores_of_not_mem false free

theorem cutSign_of_ne {c : Char} (minus : c ≠ '-') (plus : c ≠ '+') (rest : List Char) :
    cutSign (c :: rest) = (false, c :: rest) := by
  unfold cutSign
  split
  · rename_i same
    exact absurd (List.head_eq_of_cons_eq same) minus
  · rename_i same
    exact absurd (List.head_eq_of_cons_eq same) plus
  · rfl

theorem NumeralParts.unsignedReal?_eq (parts : NumeralParts whole fraction) :
    unsignedReal? (whole ++ fractionText fraction)
      = some (realOfDecimal (Text.valueOfDigits (whole ++ fraction))
        (-Int.ofNat fraction.length)) := by
  have present : (whole ++ fraction).isEmpty = false := by simp [parts.present]
  unfold unsignedReal?
  rw [Text.takeWhile_digits parts.whole (noDigit_fractionText fraction),
    Text.dropWhile_digits parts.whole (noDigit_fractionText fraction)]
  cases fraction with
  | nil => simp [fractionText, exponentOf, parts.present]
  | cons digit digits =>
      have inside := List.takeWhile_eq_self_iff.mpr parts.fraction
      have after := List.dropWhile_eq_nil_iff.mpr parts.fraction
      simp only [fractionText, List.isEmpty_cons, Bool.false_eq_true, if_false]
      rw [inside, after, present]
      simp [exponentOf]

/-- A numeral is read as the decimal number that its digits write. -/
theorem NumeralParts.readReal?_eq (parts : NumeralParts whole fraction) :
    readReal? (whole ++ fractionText fraction)
      = some (realOfDecimal (Text.valueOfDigits (whole ++ fraction))
        (-Int.ofNat fraction.length)) := by
  have numeral : IsNumeral (whole ++ fractionText fraction) := ⟨whole, fraction, rfl, parts⟩
  have read := parts.unsignedReal?_eq
  unfold readReal?
  rw [numeral.tidied_eq]
  rcases numeral.exists_digit with ⟨digit, rest, text, isDigit⟩
  rw [text] at read ⊢
  have sign : digit ≠ '-' ∧ digit ≠ '+' :=
    of_mem_marks (fun c => c ≠ '-' ∧ c ≠ '+') (by decide) (mem_marks_of_isDigit isDigit)
  have word : digit.toLower ≠ 'i' ∧ digit.toLower ≠ 'n' :=
    of_mem_marks (fun c => c.toLower ≠ 'i' ∧ c.toLower ≠ 'n') (by decide)
      (mem_marks_of_isDigit isDigit)
  simp [cutSign_of_ne sign.1 sign.2, word, read]

/-- Digits are read as the whole number that they write, unless there are too many. -/
theorem readInt?_of_digits {digits : List Char} (present : digits ≠ [])
    (all : forall c, c ∈ digits -> c.isDigit = true) (short : digits.length ≤ mostDigits) :
    readInt? digits = some (Int.ofNat (Text.valueOfDigits digits)) := by
  have numeral : IsNumeral digits := ⟨digits, [], by simp [fractionText], present, all, nofun⟩
  have whole : (digits.isEmpty || !digits.all Char.isDigit
      || decide (mostDigits < digits.length)) = false := by
    simpa [present, short] using all
  unfold readInt?
  rw [numeral.tidied_eq]
  rcases numeral.exists_digit with ⟨digit, rest, rfl, isDigit⟩
  have sign : digit ≠ '-' ∧ digit ≠ '+' :=
    of_mem_marks (fun c => c ≠ '-' ∧ c ≠ '+') (by decide) (mem_marks_of_isDigit isDigit)
  simp only [Option.bind_eq_bind, Option.bind_some, cutSign_of_ne sign.1 sign.2]
  rw [if_neg (by rw [whole]; decide)]
  rfl

end Reading

end Number
end DegreeAudit
