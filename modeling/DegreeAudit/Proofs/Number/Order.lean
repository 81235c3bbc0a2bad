import DegreeAudit.Number.Reader
import DegreeAudit.Number.Layout

namespace DegreeAudit
namespace Number

/-!
# Numbers that are not negative

A number is compared with others by what its bits stand for.  Zero is below exactly the zeros of
either sign, the positive numbers and the positive infinity, and so below no number that is none.
-/

open Float.Model (UnpackedFloat)

/-- What the bits of a number stand for, as the comparison sees it. -/
def parts (x : Float) : UnpackedFloat :=
  x.toModel.unpack

theorem le_iff (x y : Float) : x <= y ↔ (parts x).le (parts y) = true := by
  change decide ((parts x).le (parts y) = true) = true ↔ _
  rw [decide_eq_true_eq]

theorem lt_iff (x y : Float) : x < y ↔ (parts x).lt (parts y) = true := by
  change decide ((parts x).lt (parts y) = true) = true ↔ _
  rw [decide_eq_true_eq]

theorem parts_zero : parts 0 = .zero .positive := by
  rfl

/-- A number that zero is below is a number. -/
theorem isNaN_of_nonneg {x : Float} (nonneg : 0 <= x) : x.isNaN = false := by
  rw [le_iff, parts_zero] at nonneg
  change (parts x).isNaN = false
  cases shape : parts x with
  | notANumber =>
      rw [shape] at nonneg
      exact absurd nonneg Bool.false_ne_true
  | infinity sign => rfl
  | zero sign => rfl
  | finite sign mantissa exponent positive => rfl

/-- What lies above a number that is not negative is not negative. -/
theorem nonneg_of_le {x y : Float} (nonneg : 0 <= x) (ordered : x <= y) : 0 <= y := by
  rw [le_iff, parts_zero] at nonneg ⊢
  rw [le_iff] at ordered
  generalize parts x = left, parts y = right at nonneg ordered ⊢
  -- a sign or a missing number that speaks against `y` speaks against `x` or the order already
  rcases left with (_ | _) | _ | (_ | _) | ⟨_ | _, _, _, _⟩ <;>
    rcases right with (_ | _) | _ | (_ | _) | ⟨_ | _, _, _, _⟩ <;>
    first
      | rfl
      | exact absurd nonneg Bool.false_ne_true
      | exact absurd ordered Bool.false_ne_true

theorem zero_nonneg : (0 : Float) <= 0 := by
  decide

end Number
end DegreeAudit
