import DegreeAudit.Proofs.Number.Exact
import DegreeAudit.Proofs.Number.Overflow

namespace DegreeAudit
namespace Number

/-!
# Decimals and their nearest numbers

The number nearest to a value is zero if the value is no more than half of the least positive
number, infinity if it is too large, and otherwise the number in whose neighbourhood it lies.  There
is only one, and no finite number is closer to the value.  A decimal is read as the number that is
nearest to its value, however many digits it has.
-/

section Steps

/-! ## Steps

The numbers next to a number are a step away from it, or half a step below a power of two, so that
the ends of its neighbourhood are not farther from it than from them. -/

variable {mantissa other : Nat} {exponent power : Int}

/-- The smaller of two numbers has the smaller exponent, or else the smaller mantissa. -/
theorem ordered_of_lt (first : Canonical mantissa exponent) (second : Canonical other power)
    (less : (mantissa : ℝ) * 2 ^ exponent < other * 2 ^ power) :
    exponent < power ∨ exponent = power ∧ mantissa < other := by
  have compared := (compares_magnitude first second).eq_lt.mpr less
  rw [Ordering.then_eq_lt, Int.compare_eq_lt, compare_eq_iff_eq, Nat.compare_eq_lt] at compared
  exact compared

/-- The lower end of a neighbourhood is in the middle between its number and the next one below,
or farther up. -/
theorem middle_le_low (canonical : Canonical mantissa exponent) (below : Canonical other power)
    (less : (other : ℝ) * 2 ^ power < mantissa * 2 ^ exponent) :
    2 * ((other : ℝ) * 2 ^ power + mantissa * 2 ^ exponent)
      ≤ (neighbourhood mantissa exponent).1 * 2 ^ exponent := by
  have unit : (0 : ℝ) < 2 ^ exponent := zpow_pos two_pos exponent
  rw [neighbourhood_eq]
  dsimp only
  rcases ordered_of_lt below canonical less with smaller | ⟨rfl, fewer⟩
  · -- the next number below is shorter than a power of two that the number is not below
    have full : leastMantissa ≤ mantissa :=
      canonical.full.resolve_right (below.least.trans_lt smaller).ne'
    have short := below.short
    have top : 2 * ((other : ℝ) * 2 ^ power) ≤ (2 * leastMantissa - 1) * 2 ^ exponent := by
      have most : (other : ℝ) ≤ 2 * leastMantissa - 1 := by
        rw [le_sub_iff_add_le]
        exact_mod_cast short
      exact (twice_le_of_exponent smaller other).trans (mul_le_mul_of_nonneg_right most unit.le)
    have room : (2 * leastMantissa - 1 + 2 * mantissa : ℝ)
        ≤ ((if mantissa = leastMantissa ∧ leastExponent < exponent then 4 * mantissa - 1
          else 4 * mantissa - 2 : Nat) : ℝ) := by
      rw [sub_add_eq_add_sub, sub_le_iff_le_add]
      have larger := below.least.trans_lt smaller
      exact_mod_cast (by split <;> omega)
    have scaled := mul_le_mul_of_nonneg_right room unit.le
    linarith
  · have room : (2 * (other + mantissa) : ℝ)
        ≤ ((if mantissa = leastMantissa ∧ leastExponent < power then 4 * mantissa - 1
          else 4 * mantissa - 2 : Nat) : ℝ) := by
      exact_mod_cast (by split <;> omega)
    have scaled := mul_le_mul_of_nonneg_right room unit.le
    linarith

/-- The upper end of a neighbourhood is in the middle between its number and the next one above,
or farther down. -/
theorem high_le_middle (canonical : Canonical mantissa exponent) (above : Canonical other power)
    (less : (mantissa : ℝ) * 2 ^ exponent < other * 2 ^ power) :
    (neighbourhood mantissa exponent).2.2 * 2 ^ exponent
      ≤ 2 * ((mantissa : ℝ) * 2 ^ exponent + other * 2 ^ power) := by
  have unit : (0 : ℝ) < 2 ^ exponent := zpow_pos two_pos exponent
  rw [neighbourhood_eq]
  dsimp only
  rcases ordered_of_lt canonical above less with smaller | ⟨rfl, more⟩
  · have full : leastMantissa ≤ other :=
      above.full.resolve_right (canonical.least.trans_lt smaller).ne'
    have filled : (leastMantissa : ℝ) ≤ other := by exact_mod_cast full
    have bottom : 2 * (leastMantissa * (2 : ℝ) ^ exponent) ≤ other * 2 ^ power :=
      (twice_le_of_exponent smaller leastMantissa).trans
        (mul_le_mul_of_nonneg_right filled (by positivity))
    have room : ((4 * mantissa + 2 : Nat) : ℝ) ≤ 2 * mantissa + 4 * leastMantissa := by
      have short := canonical.short
      exact_mod_cast (show 4 * mantissa + 2 ≤ 2 * mantissa + 4 * leastMantissa by omega)
    have scaled := mul_le_mul_of_nonneg_right room unit.le
    linarith
  · have room : ((4 * mantissa + 2 : Nat) : ℝ) ≤ 2 * (mantissa + other) := by
      exact_mod_cast (show 4 * mantissa + 2 ≤ 2 * (mantissa + other) by omega)
    have scaled := mul_le_mul_of_nonneg_right room unit.le
    linarith

end Steps

section Nearest

/-! ## Nearest numbers -/

variable {x y : Float} {value : ℚ}

/-- A number is the one of binary64 that is nearest to a value; of two that are as near it is the
one with the even mantissa. -/
structure IsNearest (x : Float) (value : ℚ) : Prop where
  zero : value <= 2 ^ (leastExponent - 1) -> parts x = .zero .positive
  finite : forall {mantissa exponent} (canonical : Canonical mantissa exponent),
    exponent <= 971 -> Names mantissa exponent value ->
      parts x = .finite .positive mantissa exponent canonical.positive
  infinite : overflow <= value -> parts x = .infinity .positive

/-- A decimal is turned into the number that is nearest to its value. -/
theorem isNearest_realOfDecimal (digits : Nat) (scale : Int) :
    IsNearest (realOfDecimal digits scale) (digits * 10 ^ scale) where
  zero := parts_realOfDecimal_of_tiny
  finite := by
    intro mantissa exponent canonical fits names
    have present : digits ≠ 0 := by
      rintro rfl
      have half := names.half_le canonical.positive
      rw [Nat.cast_zero, zero_mul, mul_zero] at half
      exact absurd half (not_le_of_gt (zpow_pos two_pos exponent))
    exact parts_realOfDecimal present canonical fits names
  infinite := by
    intro large
    have more : (2 : ℚ) ^ (leastExponent - 1) < digits * 10 ^ scale :=
      (zpow_lt_one_of_neg₀ one_lt_two (by decide)).trans_le (one_le_overflow.trans large)
    rcases exists_names more with ⟨mantissa, exponent, canonical, names⟩
    have beyond : 971 < exponent := by
      by_contra fits
      exact absurd (names.lt_overflow canonical (not_lt.mp fits)) (not_lt_of_ge large)
    exact parts_realOfDecimal_beyond canonical names beyond

/-- Digits after a point divide by a power of ten. -/
theorem isNearest_of_places (digits places : Nat) :
    IsNearest (realOfDecimal digits (-Int.ofNat places)) (digits / 10 ^ places) := by
  rw [div_eq_mul_inv, <- zpow_natCast, <- zpow_neg]
  exact isNearest_realOfDecimal digits (-Int.ofNat places)

/-- A number that is named by a value is not farther from it than another one. -/
theorem distance_le_of_names {mantissa other : Nat} {exponent power : Int}
    (canonical : Canonical mantissa exponent) (names : Names mantissa exponent value)
    (rival : Canonical other power) :
    |(mantissa : ℝ) * 2 ^ exponent - value| ≤ |(other : ℝ) * 2 ^ power - value| := by
  have low := (@Rat.cast_le _ _ ℝ _ _ _).mpr names.low_le
  have high := (@Rat.cast_le _ _ ℝ _ _ _).mpr names.le_high
  push_cast at low high
  rcases lt_trichotomy ((other : ℝ) * 2 ^ power) (mantissa * 2 ^ exponent) with less | same | more
  · have middle := middle_le_low canonical rival less
    refine le_trans ?_ (neg_le_abs _)
    rw [abs_le]
    constructor <;> linarith
  · rw [same]
  · have middle := high_le_middle canonical rival more
    refine le_trans ?_ (le_abs_self _)
    rw [abs_le]
    constructor <;> linarith

/-- Zero is not closer to a value than a number that it names. -/
theorem distance_le_value {mantissa : Nat} {exponent : Int} (nonneg : 0 ≤ value)
    (canonical : Canonical mantissa exponent) (names : Names mantissa exponent value) :
    |(mantissa : ℝ) * 2 ^ exponent - value| ≤ value := by
  have unit : (0 : ℝ) < 2 ^ exponent := zpow_pos two_pos exponent
  have low := (@Rat.cast_le _ _ ℝ _ _ _).mpr names.low_le
  push_cast at low
  have room : (2 * mantissa : ℝ) ≤ ((neighbourhood mantissa exponent).1 : ℝ) := by
    have positive := canonical.positive
    rw [neighbourhood_eq]
    exact_mod_cast (by dsimp only; split <;> omega)
  have scaled := mul_le_mul_of_nonneg_right room unit.le
  have sized : (0 : ℝ) ≤ mantissa * 2 ^ exponent := by positivity
  have also : (0 : ℝ) ≤ value := by exact_mod_cast nonneg
  rw [abs_le]
  constructor <;> linarith

/-- No positive number is closer than zero to a value that is no more than half of the least one. -/
theorem distance_le_of_tiny {other : Nat} {power : Int}
    (tiny : value ≤ 2 ^ (leastExponent - 1)) (rival : Canonical other power) :
    (value : ℝ) ≤ |(other : ℝ) * 2 ^ power - value| := by
  have half := (@Rat.cast_le _ _ ℝ _ _ _).mpr tiny
  push_cast at half
  rw [zpow_sub_one₀ two_ne_zero] at half
  have step : (2 : ℝ) ^ leastExponent ≤ 2 ^ power := zpow_le_zpow_right₀ one_le_two rival.least
  have one : (1 : ℝ) ≤ other := by exact_mod_cast rival.positive
  have least : (2 : ℝ) ^ power ≤ other * 2 ^ power := le_mul_of_one_le_left (by positivity) one
  refine le_trans ?_ (le_abs_self _)
  linarith

/-- No finite number is closer to a value than its nearest number. -/
theorem IsNearest.distance_le (nearest : IsNearest x value) (nonneg : 0 ≤ value)
    (bounded : value < overflow) (finite : y.isFinite = true) :
    |realOf (parts x) - value| ≤ |realOf (parts y) - value| := by
  have also : (0 : ℝ) ≤ value := by exact_mod_cast nonneg
  obtain ⟨near, apart⟩ : |realOf (parts x) - value| ≤ value
      ∧ forall {other power}, Canonical other power ->
        |realOf (parts x) - value| ≤ |(other : ℝ) * 2 ^ power - value| := by
    by_cases tiny : value <= 2 ^ (leastExponent - 1)
    · rw [nearest.zero tiny, realOf_zero, zero_sub, abs_neg, abs_of_nonneg also]
      exact ⟨le_refl _, distance_le_of_tiny tiny⟩
    · rcases exists_names (not_le.mp tiny) with ⟨mantissa, exponent, canonical, names⟩
      have fits : exponent <= 971 := by
        by_contra beyond
        exact absurd (names.overflow_le canonical (not_le.mp beyond)) (not_le_of_gt bounded)
      rw [nearest.finite canonical fits names, realOf_positive]
      exact ⟨distance_le_value nonneg canonical names, distance_le_of_names canonical names⟩
  change (parts y).isFinite = true at finite
  rcases shape : parts y with _ | _ | _ | ⟨_ | _, other, power, positive⟩
  case infinity =>
    rw [shape] at finite
    cases finite
  case notANumber =>
    rw [shape] at finite
    cases finite
  case zero => rwa [realOf_zero, zero_sub, abs_neg, abs_of_nonneg also]
  case finite.negative =>
    have below : (0 : ℝ) ≤ other * 2 ^ power := by positivity
    refine near.trans (le_trans ?_ (neg_le_abs _))
    rw [realOf_negative]
    linarith
  case finite.positive =>
    rw [realOf_positive]
    exact apart (canonical_of_parts shape).1

/-- No value has two nearest numbers. -/
theorem IsNearest.unique (first : IsNearest x value) (second : IsNearest y value) : x = y := by
  apply eq_of_parts
  by_cases tiny : value <= 2 ^ (leastExponent - 1)
  · rw [first.zero tiny, second.zero tiny]
  rcases exists_names (not_le.mp tiny) with ⟨mantissa, exponent, canonical, names⟩
  by_cases fits : exponent <= 971
  · rw [first.finite canonical fits names, second.finite canonical fits names]
  · have large := names.overflow_le canonical (not_le.mp fits)
    rw [first.infinite large, second.infinite large]

end Nearest

end Number
end DegreeAudit
