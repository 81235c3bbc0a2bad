import DegreeAudit.Proofs.Number.Order
import DegreeAudit.Proofs.Number.Packing
import Mathlib.Data.EReal.Operations

namespace DegreeAudit
namespace Number

/-!
# Numbers and their values

What the bits of a number stand for is a real number or one of the two infinities, unless they stand
for none.  A comparison of two numbers is the comparison of their values, and nothing is rounded for
it; both zeros have the same value.
-/

open Float.Model (UnpackedFloat)
open Float.Model.UnpackedFloat (Sign)

/-- The real number that parts stand for; zero if they stand for none. -/
noncomputable def realOf : UnpackedFloat -> ℝ
  | .finite .positive mantissa exponent _ => mantissa * 2 ^ exponent
  | .finite .negative mantissa exponent _ => -(mantissa * 2 ^ exponent)
  | _ => 0

/-- The value of parts, which may also be infinite. -/
noncomputable def valueOf : UnpackedFloat -> EReal
  | .infinity .positive => ⊤
  | .infinity .negative => ⊥
  | unpacked => realOf unpacked

/-- The value of a number; zero for the one that is none. -/
noncomputable def exact (x : Float) : EReal :=
  valueOf (parts x)

section Values

/-! ## Values -/

variable {x : Float} {unpacked : UnpackedFloat}

theorem realOf_zero (sign : Sign) : realOf (.zero sign) = 0 := by
  rfl

theorem realOf_positive {mantissa : Nat} (exponent : Int) (positive : 0 < mantissa) :
    realOf (.finite .positive mantissa exponent positive) = mantissa * 2 ^ exponent := by
  rfl

theorem realOf_negative {mantissa : Nat} (exponent : Int) (positive : 0 < mantissa) :
    realOf (.finite .negative mantissa exponent positive) = -(mantissa * 2 ^ exponent) := by
  rfl

theorem valueOf_of_isFinite (finite : unpacked.isFinite = true) :
    valueOf unpacked = realOf unpacked := by
  cases unpacked with
  | notANumber => cases finite
  | infinity sign => cases finite
  | zero sign => rfl
  | finite sign mantissa exponent positive => rfl

/-- A finite number has a real value. -/
theorem exact_of_isFinite (finite : x.isFinite = true) : exact x = realOf (parts x) :=
  valueOf_of_isFinite finite

theorem exact_of_parts {mantissa : Nat} {exponent : Int} {positive : 0 < mantissa}
    (shape : parts x = .finite .positive mantissa exponent positive) :
    exact x = (mantissa * 2 ^ exponent : ℝ) := by
  rw [exact, shape]
  rfl

theorem isNaN_of_isFinite (finite : x.isFinite = true) : x.isNaN = false := by
  change (parts x).isFinite = true at finite
  change (parts x).isNaN = false
  cases shape : parts x with
  | notANumber =>
      rw [shape] at finite
      cases finite
  | infinity sign => rfl
  | zero sign => rfl
  | finite sign mantissa exponent positive => rfl

theorem exact_zero : exact 0 = 0 := by
  rw [exact, parts_zero]
  rfl

end Values

section Magnitudes

/-! ## Positive numbers -/

variable {mantissa other : Nat} {exponent power : Int}

theorem twice_le_of_exponent (less : exponent < power) (mantissa : Nat) :
    2 * ((mantissa : ℝ) * 2 ^ exponent) ≤ mantissa * 2 ^ power := by
  calc
    2 * ((mantissa : ℝ) * 2 ^ exponent) = mantissa * 2 ^ (exponent + 1) := by
      rw [zpow_add_one₀ two_ne_zero]
      ring
    _ ≤ mantissa * 2 ^ power := by
      gcongr
      · exact one_le_two
      · exact less

/-- A larger exponent makes a larger number: only with the least exponent may the first place of a
mantissa be left unused. -/
theorem magnitude_lt_of_exponent (first : Canonical mantissa exponent)
    (second : Canonical other power) (less : exponent < power) :
    (mantissa : ℝ) * 2 ^ exponent < other * 2 ^ power := by
  have full : leastMantissa ≤ other := by
    rcases second.full with full | bottom
    · exact full
    · rw [bottom] at less
      exact absurd less (not_lt_of_ge first.least)
  have short : (mantissa : ℝ) < 2 * leastMantissa := by exact_mod_cast first.short
  have filled : (leastMantissa : ℝ) ≤ other := by exact_mod_cast full
  calc
    (mantissa : ℝ) * 2 ^ exponent < 2 * leastMantissa * 2 ^ exponent := by gcongr
    _ = 2 * (leastMantissa * 2 ^ exponent) := mul_assoc _ _ _
    _ ≤ leastMantissa * 2 ^ power := twice_le_of_exponent less leastMantissa
    _ ≤ other * 2 ^ power := by gcongr

/-- Positive numbers are compared by their exponents first. -/
theorem compares_magnitude (first : Canonical mantissa exponent)
    (second : Canonical other power) :
    ((compare exponent power).then (compare mantissa other)).Compares
      ((mantissa : ℝ) * 2 ^ exponent) (other * 2 ^ power) := by
  rcases lt_trichotomy exponent power with less | rfl | more
  · rw [compare_lt_iff_lt.mpr less]
    exact magnitude_lt_of_exponent first second less
  · have step : (0 : ℝ) < 2 ^ exponent := zpow_pos two_pos exponent
    rw [compare_eq_iff_eq.mpr rfl]
    rcases lt_trichotomy mantissa other with less | rfl | more
    · rw [compare_lt_iff_lt.mpr less]
      exact mul_lt_mul_of_pos_right (Nat.cast_lt.mpr less) step
    · rw [compare_eq_iff_eq.mpr rfl]
      exact rfl
    · rw [compare_gt_iff_gt.mpr more]
      exact mul_lt_mul_of_pos_right (Nat.cast_lt.mpr more) step
  · rw [compare_gt_iff_gt.mpr more]
    exact magnitude_lt_of_exponent second first more

end Magnitudes

section Comparison

/-! ## Comparison -/

variable {x y z : Float} {left right : UnpackedFloat} {order : Ordering} {a b : ℝ}

theorem compares_coe (ordered : order.Compares a b) : order.Compares (a : EReal) (b : EReal) := by
  cases order with
  | lt => exact EReal.coe_lt_coe_iff.mpr ordered
  | eq => exact congrArg Real.toEReal ordered
  | gt => exact EReal.coe_lt_coe_iff.mpr ordered

theorem compares_neg (ordered : order.Compares a b) : order.swap.Compares (-a) (-b) := by
  cases order with
  | lt => exact neg_lt_neg ordered
  | eq => exact congrArg Neg.neg ordered
  | gt => exact neg_lt_neg ordered

/-- Parts whose mantissa and exponent belong together, if they have any. -/
def IsCanonical (unpacked : UnpackedFloat) : Prop :=
  forall sign mantissa exponent positive,
    unpacked = .finite sign mantissa exponent positive -> Canonical mantissa exponent

/-- Finite numbers compare as their values do. -/
theorem exists_compare_of_isFinite (first : left.isFinite = true) (second : right.isFinite = true)
    (canonicalLeft : IsCanonical left) (canonicalRight : IsCanonical right) :
    ∃ order, left.compare right = some order ∧ order.Compares (realOf left) (realOf right) := by
  have magnitude_pos {mantissa : Nat} (positive : 0 < mantissa) (exponent : Int) :
      (0 : ℝ) < mantissa * 2 ^ exponent :=
    mul_pos (Nat.cast_pos.mpr positive) (zpow_pos two_pos exponent)
  rcases left with _ | _ | _ | ⟨_ | _, mantissa, exponent, positive⟩
  case infinity => cases first
  case notANumber => cases first
  case zero =>
    rcases right with _ | _ | _ | ⟨_ | _, other, power, also⟩
    case infinity => cases second
    case notANumber => cases second
    case zero => exact ⟨.eq, rfl, rfl⟩
    case finite.negative => exact ⟨.gt, rfl, neg_neg_of_pos (magnitude_pos also power)⟩
    case finite.positive => exact ⟨.lt, rfl, magnitude_pos also power⟩
  case finite.negative =>
    have below := neg_neg_of_pos (magnitude_pos positive exponent)
    rcases right with _ | _ | _ | ⟨_ | _, other, power, also⟩
    case infinity => cases second
    case notANumber => cases second
    case zero => exact ⟨.lt, rfl, below⟩
    case finite.negative =>
      exact ⟨_, rfl, compares_neg (compares_magnitude (canonicalLeft _ _ _ _ rfl)
        (canonicalRight _ _ _ _ rfl))⟩
    case finite.positive => exact ⟨.lt, rfl, below.trans (magnitude_pos also power)⟩
  case finite.positive =>
    have above := magnitude_pos positive exponent
    rcases right with _ | _ | _ | ⟨_ | _, other, power, also⟩
    case infinity => cases second
    case notANumber => cases second
    case zero => exact ⟨.gt, rfl, above⟩
    case finite.negative =>
      exact ⟨.gt, rfl, (neg_neg_of_pos (magnitude_pos also power)).trans above⟩
    case finite.positive =>
      exact ⟨_, rfl, compares_magnitude (canonicalLeft _ _ _ _ rfl) (canonicalRight _ _ _ _ rfl)⟩

/-- The infinities are below and above everything else. -/
theorem exists_compare_parts (first : left.isNaN = false) (second : right.isNaN = false)
    (canonicalLeft : IsCanonical left) (canonicalRight : IsCanonical right) :
    ∃ order, left.compare right = some order ∧ order.Compares (valueOf left) (valueOf right) := by
  by_cases finite : left.isFinite = true
  · rw [valueOf_of_isFinite finite]
    by_cases also : right.isFinite = true
    · rcases exists_compare_of_isFinite finite also canonicalLeft canonicalRight with
        ⟨order, compared, ordered⟩
      rw [valueOf_of_isFinite also]
      exact ⟨order, compared, compares_coe ordered⟩
    · rcases right with (_ | _) | _ | _ | _
      case infinity.negative =>
        refine ⟨.gt, ?_, EReal.bot_lt_coe _⟩
        cases left <;> first | rfl | cases finite
      case infinity.positive =>
        refine ⟨.lt, ?_, EReal.coe_lt_top _⟩
        cases left <;> first | rfl | cases finite
      case notANumber => cases second
      case zero => exact absurd rfl also
      case finite => exact absurd rfl also
  · rcases left with (_ | _) | _ | _ | _
    case infinity.negative =>
      rcases right with (_ | _) | _ | _ | _
      case infinity.negative => exact ⟨.eq, rfl, rfl⟩
      case infinity.positive => exact ⟨.lt, rfl, bot_lt_top⟩
      case notANumber => cases second
      case zero => exact ⟨.lt, rfl, EReal.bot_lt_coe _⟩
      case finite => exact ⟨.lt, rfl, EReal.bot_lt_coe _⟩
    case infinity.positive =>
      rcases right with (_ | _) | _ | _ | _
      case infinity.negative => exact ⟨.gt, rfl, bot_lt_top⟩
      case infinity.positive => exact ⟨.eq, rfl, rfl⟩
      case notANumber => cases second
      case zero => exact ⟨.gt, rfl, EReal.coe_lt_top _⟩
      case finite => exact ⟨.gt, rfl, EReal.coe_lt_top _⟩
    case notANumber => cases first
    case zero => exact absurd rfl finite
    case finite => exact absurd rfl finite

/-- Two numbers compare as their values do. -/
theorem exists_compare (first : x.isNaN = false) (second : y.isNaN = false) :
    ∃ order, (parts x).compare (parts y) = some order ∧ order.Compares (exact x) (exact y) :=
  exists_compare_parts first second
    (fun _ _ _ _ shape => (canonical_of_parts shape).1)
    (fun _ _ _ _ shape => (canonical_of_parts shape).1)

theorem le_iff_exact (first : x.isNaN = false) (second : y.isNaN = false) :
    x <= y ↔ exact x ≤ exact y := by
  rcases exists_compare first second with ⟨order, compared, ordered⟩
  rw [le_iff, UnpackedFloat.le, compared, Option.any_some, Ordering.isLE_iff_ne_gt]
  exact ordered.ne_gt

theorem lt_iff_exact (first : x.isNaN = false) (second : y.isNaN = false) :
    x < y ↔ exact x < exact y := by
  rcases exists_compare first second with ⟨order, compared, ordered⟩
  rw [lt_iff, UnpackedFloat.lt, compared, beq_iff_eq, Option.some.injEq]
  exact ordered.eq_lt

/-- Numbers are equal if their values are; the two zeros are. -/
theorem beq_iff_exact (first : x.isNaN = false) (second : y.isNaN = false) :
    (x == y) = true ↔ exact x = exact y := by
  rcases exists_compare first second with ⟨order, compared, ordered⟩
  change ((parts x).compare (parts y) == some .eq) = true ↔ _
  rw [compared, beq_iff_eq, Option.some.injEq]
  exact ordered.eq_eq

theorem isNaN_of_lt (less : x < y) : x.isNaN = false ∧ y.isNaN = false := by
  rw [lt_iff] at less
  change (parts x).isNaN = false ∧ (parts y).isNaN = false
  generalize parts x = left at less ⊢
  generalize parts y = right at less ⊢
  cases left <;> cases right <;> first | exact ⟨rfl, rfl⟩ | cases less

theorem isNaN_of_le (ordered : x <= y) : x.isNaN = false ∧ y.isNaN = false := by
  rw [le_iff] at ordered
  change (parts x).isNaN = false ∧ (parts y).isNaN = false
  generalize parts x = left at ordered ⊢
  generalize parts y = right at ordered ⊢
  cases left <;> cases right <;> first | exact ⟨rfl, rfl⟩ | cases ordered

/-- Numbers that can be compared at all are ordered. -/
theorem lt_of_le_of_lt (ordered : x <= y) (less : y < z) : x < z := by
  have numbers := isNaN_of_le ordered
  have last := (isNaN_of_lt less).2
  rw [le_iff_exact numbers.1 numbers.2] at ordered
  rw [lt_iff_exact numbers.2 last] at less
  rw [lt_iff_exact numbers.1 last]
  exact ordered.trans_lt less

instance transLeLt : Trans (LE.le : Float -> Float -> Prop) (LT.lt : Float -> Float -> Prop)
    (LT.lt : Float -> Float -> Prop) :=
  ⟨lt_of_le_of_lt⟩

end Comparison

end Number
end DegreeAudit
