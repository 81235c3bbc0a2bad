import DegreeAudit.Proofs.Text.Split
import DegreeAudit.Text.Digit
import Mathlib.Algebra.Group.Nat.Defs
import Mathlib.Data.List.Induction

namespace DegreeAudit
namespace Text

/-!
# Decimal digits

The digits of a number are read back as that number, and they do not begin with a zero unless the
number is zero.
-/

section Value

/-! ## The number that digits write -/

theorem valueOfDigits_eq (digits : List Char) :
    valueOfDigits digits = Nat.ofDigitChars 10 digits 0 :=
  Nat.ofDigitChars_eq_foldl.symm

/-- Zeros at the end multiply by a power of ten. -/
theorem valueOfDigits_append_zeros (digits : List Char) (count : Nat) :
    valueOfDigits (digits ++ List.replicate count '0') = 10 ^ count * valueOfDigits digits := by
  rw [valueOfDigits_eq, valueOfDigits_eq, Nat.ofDigitChars_append,
    Nat.ofDigitChars_replicate_zero]

/-- Zeros at the beginning are worth nothing. -/
theorem valueOfDigits_zeros_append (count : Nat) (digits : List Char) :
    valueOfDigits (List.replicate count '0' ++ digits) = valueOfDigits digits := by
  rw [valueOfDigits_eq, valueOfDigits_eq, Nat.ofDigitChars_append,
    Nat.ofDigitChars_replicate_zero, Nat.mul_zero]

theorem valueOfDigits_digitsOf (number : Nat) : valueOfDigits (digitsOf number) = number := by
  rw [valueOfDigits_eq]
  exact Nat.ofDigitChars_ten_toDigits

/-- Digits write a number that needs no more of them. -/
theorem valueOfDigits_lt {digits : List Char}
    (all : forall c, c ∈ digits -> c.isDigit = true) :
    valueOfDigits digits < 10 ^ digits.length := by
  induction digits using List.reverseRecOn with
  | nil => decide
  | append_singleton digits digit inductionHypothesis =>
      have before := inductionHypothesis fun c member => all c (List.mem_append_left _ member)
      have last := all digit (List.mem_append_right _ List.mem_cons_self)
      have small : digit.toNat - 0x30 < 10 := by
        have bounds : 48 ≤ digit.toNat ∧ digit.toNat ≤ 57 := Char.isDigit_iff_toNat.mp last
        omega
      rw [valueOfDigits, List.foldl_append, List.length_append, List.length_singleton, pow_succ]
      change 10 * valueOfDigits digits + (digit.toNat - 0x30) < _
      omega

end Value

section Digits

/-! ## The digits of a number -/

theorem isDigit_of_mem_digitsOf {number : Nat} {c : Char} (member : c ∈ digitsOf number) :
    c.isDigit = true :=
  Nat.isDigit_of_mem_toDigits (by decide) (by decide) member

theorem digitsOf_ne_nil (number : Nat) : digitsOf number ≠ [] :=
  Nat.toDigits_ne_nil

theorem ofInt_ne_nil (value : Int) : ofInt value ≠ [] := by
  cases value with
  | ofNat number => exact digitsOf_ne_nil number
  | negSucc number => exact List.cons_ne_nil _ _

/-- The digits of a number do not begin with a zero, unless it is zero. -/
theorem head?_digitsOf {number : Nat} (present : number ≠ 0) :
    (digitsOf number).head? ≠ some '0' := by
  induction number using Nat.strongRecOn with
  | ind number inductionHypothesis =>
      unfold digitsOf
      by_cases one : number < 10
      · rw [Nat.toDigits_of_lt_base one]
        have few : forall digit, digit < 10 -> digit ≠ 0 -> [digit.digitChar].head? ≠ some '0' := by
          decide
        exact few number one present
      · rw [Nat.toDigits_of_base_le (by decide) (Nat.not_lt.mp one),
          List.head?_append_of_ne_nil _ Nat.toDigits_ne_nil]
        exact inductionHypothesis (number / 10) (by omega) (by omega)

end Digits

section Span

/-! ## Digits at the beginning of a text -/

/-- A text begins with no digit. -/
def NoDigit (text : List Char) : Prop :=
  forall c, text.head? = some c -> c.isDigit = false

variable {digits after : List Char}

theorem takeWhile_digits (all : forall c, c ∈ digits -> c.isDigit = true) (ends : NoDigit after) :
    (digits ++ after).takeWhile Char.isDigit = digits :=
  takeWhile_span all ends

theorem dropWhile_digits (all : forall c, c ∈ digits -> c.isDigit = true) (ends : NoDigit after) :
    (digits ++ after).dropWhile Char.isDigit = after :=
  dropWhile_span all ends

/-- Where a digit stands there is a run of digits that ends before something else. -/
theorem exists_digits {digit : Char} (isDigit : digit.isDigit = true) (rest : List Char) :
    ∃ digits after, digit :: rest = digits ++ after ∧ digits ≠ []
      ∧ (forall c, c ∈ digits -> c.isDigit = true) ∧ NoDigit after := by
  refine ⟨digit :: rest.takeWhile Char.isDigit, rest.dropWhile Char.isDigit, ?_,
    List.cons_ne_nil _ _, ?_, ?_⟩
  · rw [List.cons_append, List.takeWhile_append_dropWhile]
  · intro c member
    rcases List.mem_cons.mp member with rfl | member
    · exact isDigit
    · exact List.mem_takeWhile_imp member
  · intro c first
    simpa [first] using List.head?_dropWhile_not Char.isDigit rest

end Span

end Text
end DegreeAudit
