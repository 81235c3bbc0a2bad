import DegreeAudit.Number.Decimal
import Mathlib.Algebra.Order.Field.Power
import Mathlib.Algebra.Order.Field.Rat
import Mathlib.Tactic.FieldSimp
import Mathlib.Tactic.Linarith
import Mathlib.Tactic.Positivity
import Mathlib.Tactic.Ring

namespace DegreeAudit
namespace Number

/-!
# Rounding to the nearest number

A quotient of whole numbers is rounded in two steps: the places that a mantissa has no room for are
cut off, two bits being kept of them, and by these bits the mantissa is rounded.  Both steps
together round the quotient itself to the nearest whole number of steps, and to the even one of two.
-/

open Float.Model (Format totalExponent UnpackedFloat)
open Float.Model.UnpackedFloat

theorem leastMantissa_eq : leastMantissa = 2 ^ 52 := by
  rfl

section Quotient

/-! ## Quotients of whole numbers -/

/-- A quotient with its whole part and the two bits that are kept of the rest. -/
def extended (dividend divisor : Nat) : ExtendedMantissa :=
  .ofMantissaAndAccuracy (dividend / divisor) (accuracyOfFraction (dividend % divisor) divisor)

theorem extended_eq {dividend divisor : Nat} (positive : 0 < divisor) :
    extended dividend divisor
      = {
          mantissa := dividend / divisor
          roundBit := decide (divisor <= 2 * (dividend % divisor))
          stickyBit :=
            decide (dividend % divisor ≠ 0 ∧ 2 * (dividend % divisor) ≠ divisor)
        } := by
  unfold extended accuracyOfFraction
  by_cases whole : dividend % divisor = 0
  · simp [whole, ExtendedMantissa.ofMantissaAndAccuracy]
    omega
  · rw [if_neg whole]
    rcases Nat.lt_trichotomy (2 * (dividend % divisor)) divisor with less | same | more
    · rw [Nat.compare_eq_lt.mpr less]
      simp [ExtendedMantissa.ofMantissaAndAccuracy, whole]
      omega
    · rw [Nat.compare_eq_eq.mpr same]
      simp [ExtendedMantissa.ofMantissaAndAccuracy, whole, same]
    · rw [Nat.compare_eq_gt.mpr more]
      simp [ExtendedMantissa.ofMantissaAndAccuracy, whole]
      omega

/-- Cutting off one place more is dividing by twice as much. -/
theorem shiftRightOne_extended {dividend divisor : Nat} (positive : 0 < divisor) :
    (extended dividend divisor).shiftRightOne = extended dividend (divisor * 2) := by
  have rest : dividend % (divisor * 2)
      = dividend % divisor + divisor * (dividend / divisor % 2) := Nat.mod_mul
  have below : dividend % divisor < divisor := Nat.mod_lt dividend positive
  rw [extended_eq positive, extended_eq (Nat.mul_pos positive (by decide))]
  unfold ExtendedMantissa.shiftRightOne
  rw [Nat.div_div_eq_div_mul, rest]
  rcases Nat.mod_two_eq_zero_or_one (dividend / divisor) with even | odd
  · rw [even]
    congr 1
    · simp
      omega
    · rw [Bool.eq_iff_iff]
      simp
      omega
  · rw [odd]
    congr 1
    · simp
      omega
    · rw [Bool.eq_iff_iff]
      simp
      omega

theorem shiftRight_extended {dividend divisor : Nat} (positive : 0 < divisor) (count : Nat) :
    extended dividend divisor >>> count = extended dividend (divisor * 2 ^ count) := by
  induction count with
  | zero =>
      rw [Nat.pow_zero, Nat.mul_one]
      rfl
  | succ count inductionHypothesis =>
      have step : extended dividend divisor >>> (count + 1)
          = (extended dividend divisor >>> count).shiftRightOne := rfl
      rw [step, inductionHypothesis, shiftRightOne_extended (by positivity), Nat.pow_succ,
        Nat.mul_assoc]

theorem roundedMantissa_extended (dividend : Nat) {divisor : Nat} (positive : 0 < divisor) :
    (extended dividend divisor).roundedMantissa = roundQuotient dividend divisor := by
  unfold extended accuracyOfFraction roundQuotient ExtendedMantissa.roundedMantissa
  dsimp only
  by_cases whole : dividend % divisor = 0
  · rw [if_pos whole, whole, if_pos (by omega)]
    rfl
  · rw [if_neg whole]
    rcases Nat.lt_trichotomy (2 * (dividend % divisor)) divisor with less | same | more
    · rw [Nat.compare_eq_lt.mpr less, if_pos less]
      rfl
    · rw [Nat.compare_eq_eq.mpr same, if_neg (by omega), if_neg (by omega)]
      rfl
    · rw [Nat.compare_eq_gt.mpr more, if_neg (by omega), if_pos more]
      rfl

end Quotient

section Exponent

/-! ## The exponent of the first place -/

/-- Where the number is below a power of two, so is its first place. -/
theorem totalExponent_le {dividend divisor : Nat} (positive : 0 < divisor) {exponent top : Int}
    (below : (dividend / divisor : ℚ) * 2 ^ exponent < 2 ^ top) (lower : exponent < top) :
    totalExponent (dividend / divisor) exponent <= top := by
  unfold totalExponent
  by_cases none : dividend / divisor = 0
  · rw [none, Nat.log2_zero]
    omega
  · obtain ⟨count, counted⟩ : ∃ count : Nat, top = exponent + count :=
      ⟨(top - exponent).toNat, by omega⟩
    have few : dividend / divisor < 2 ^ count := by
      rw [Nat.div_lt_iff_lt_mul positive]
      rw [counted, zpow_add₀ two_ne_zero, mul_comm, zpow_natCast] at below
      have quotient := lt_of_mul_lt_mul_left below (by positivity)
      rw [div_lt_iff₀ (by positivity)] at quotient
      exact_mod_cast quotient
    have := (Nat.log2_lt none).mpr few
    omega

/-- Where the number is not below a power of two, its first place is above that. -/
theorem lt_totalExponent {dividend divisor : Nat} (positive : 0 < divisor) {exponent bottom : Int}
    (above : 2 ^ bottom <= (dividend / divisor : ℚ) * 2 ^ exponent) (lower : exponent <= bottom) :
    bottom < totalExponent (dividend / divisor) exponent := by
  unfold totalExponent
  obtain ⟨count, counted⟩ : ∃ count : Nat, bottom = exponent + count :=
    ⟨(bottom - exponent).toNat, by omega⟩
  have many : 2 ^ count <= dividend / divisor := by
    rw [Nat.le_div_iff_mul_le positive]
    rw [counted, zpow_add₀ two_ne_zero, mul_comm, zpow_natCast] at above
    have quotient := le_of_mul_le_mul_right above (by positivity)
    rw [le_div_iff₀ (by positivity)] at quotient
    exact_mod_cast quotient
  have some : dividend / divisor ≠ 0 := by
    have : 0 < 2 ^ count := by positivity
    omega
  have := (Nat.le_log2 some).mpr many
  omega

theorem targetExponent_eq (total : Int) :
    Format.binary64.targetExponent total = max (total - 53) leastExponent := by
  rfl

end Exponent

/-- A mantissa and an exponent as they belong to a positive number, if that is not too large. -/
structure Canonical (mantissa : Nat) (exponent : Int) : Prop where
  positive : 0 < mantissa
  short : mantissa < 2 * leastMantissa
  least : leastExponent <= exponent
  full : leastMantissa <= mantissa ∨ exponent = leastExponent

namespace Canonical

variable {mantissa : Nat} {exponent : Int}

theorem log2_le (canonical : Canonical mantissa exponent) : mantissa.log2 <= 52 := by
  have := (Nat.log2_lt canonical.positive.ne').mpr (show mantissa < 2 ^ 53 from canonical.short)
  omega

theorem targetExponent (canonical : Canonical mantissa exponent) :
    Format.binary64.targetExponent (totalExponent mantissa exponent) = exponent := by
  have log2_le := canonical.log2_le
  rw [targetExponent_eq, totalExponent]
  rcases canonical.full with full | small
  · have := (Nat.le_log2 canonical.positive.ne').mpr (show 2 ^ 52 <= mantissa from full)
    have := canonical.least
    omega
  · omega

/-- What belongs together is not shifted again. -/
theorem shiftToTargetExponent (canonical : Canonical mantissa exponent) :
    UnpackedFloat.shiftToTargetExponent Format.binary64 mantissa exponent .exact
      = (⟨mantissa, false, false⟩, exponent) := by
  unfold UnpackedFloat.shiftToTargetExponent shiftToExponent
  dsimp only
  rw [canonical.targetExponent, Int.sub_self]
  exact congrArg (Prod.mk _) (Int.add_zero exponent)

end Canonical

/-- The number nearest to a value is `mantissa * 2 ^ exponent`: the value lies between the ends of
its neighbourhood, or at one of them if the mantissa is even. -/
@[mk_iff]
structure Names (mantissa : Nat) (exponent : Int) (value : ℚ) : Prop where
  above : ((neighbourhood mantissa exponent).1 : ℚ) * 2 ^ exponent < 4 * value
    ∨ mantissa % 2 = 0 ∧ ((neighbourhood mantissa exponent).1 : ℚ) * 2 ^ exponent = 4 * value
  below : 4 * value < ((neighbourhood mantissa exponent).2.2 : ℚ) * 2 ^ exponent
    ∨ mantissa % 2 = 0 ∧ 4 * value = ((neighbourhood mantissa exponent).2.2 : ℚ) * 2 ^ exponent

/-- The lower end of a neighbourhood is half a step away, but only a quarter of one where the
numbers below are nearer to each other. -/
theorem neighbourhood_eq (mantissa : Nat) (exponent : Int) :
    neighbourhood mantissa exponent
      = (if mantissa = leastMantissa ∧ leastExponent < exponent then 4 * mantissa - 1
          else 4 * mantissa - 2, 4 * mantissa, 4 * mantissa + 2) := by
  unfold neighbourhood
  simp only [Bool.and_eq_true, decide_eq_true_eq]
  split <;> rfl

section Round

variable {mantissa dividend divisor : Nat} {exponent start : Int}

/-- The ends of a neighbourhood for a quotient of whole steps. -/
theorem names_quotient_iff (positive : 0 < divisor) :
    Names mantissa exponent ((dividend / divisor : ℚ) * 2 ^ exponent)
      ↔ ((neighbourhood mantissa exponent).1 * divisor < 4 * dividend
          ∨ mantissa % 2 = 0 ∧ (neighbourhood mantissa exponent).1 * divisor = 4 * dividend)
        ∧ (4 * dividend < (neighbourhood mantissa exponent).2.2 * divisor
          ∨ mantissa % 2 = 0
            ∧ 4 * dividend = (neighbourhood mantissa exponent).2.2 * divisor) := by
  have scaled : (4 : ℚ) * ((dividend / divisor : ℚ) * 2 ^ exponent)
      = (4 * dividend / divisor : ℚ) * 2 ^ exponent := by ring
  have power : (0 : ℚ) < 2 ^ exponent := by positivity
  have size : (0 : ℚ) < divisor := by exact_mod_cast positive
  rw [names_iff, scaled, mul_lt_mul_iff_left₀ power, mul_left_inj' power.ne',
    mul_lt_mul_iff_left₀ power, mul_left_inj' power.ne', lt_div_iff₀ size, eq_div_iff size.ne',
    div_lt_iff₀ size, div_eq_iff size.ne']
  norm_cast

/-- A quotient within half a step of a whole number is rounded to it. -/
theorem roundQuotient_eq {whole : Nat} (positive : 0 < divisor)
    (above : 2 * (whole * divisor) < 2 * dividend + divisor
      ∨ whole % 2 = 0 ∧ 2 * (whole * divisor) = 2 * dividend + divisor)
    (below : 2 * dividend < 2 * (whole * divisor) + divisor
      ∨ whole % 2 = 0 ∧ 2 * dividend = 2 * (whole * divisor) + divisor) :
    roundQuotient dividend divisor = whole := by
  have parts := Nat.div_add_mod dividend divisor
  have rest := Nat.mod_lt dividend positive
  rw [Nat.mul_comm] at parts
  unfold roundQuotient
  dsimp only
  generalize dividend / divisor = quotient at parts ⊢
  generalize dividend % divisor = remainder at parts rest ⊢
  have most : quotient <= whole := by
    by_contra more
    have := Nat.mul_le_mul_right divisor (show whole + 1 <= quotient by omega)
    rw [Nat.add_mul] at this
    omega
  have least : whole <= quotient + 1 := by
    by_contra less
    have := Nat.mul_le_mul_right divisor (show quotient + 2 <= whole by omega)
    rw [Nat.add_mul] at this
    omega
  rcases show whole = quotient ∨ whole = quotient + 1 by omega with rfl | rfl
  · split
    · rfl
    · split
      · omega
      · omega
  · rw [Nat.add_mul] at above below
    split
    · omega
    · split
      · rfl
      · omega

/-- A quotient is cut off at the exponent of its mantissa. -/
theorem shiftToTargetExponent_quotient (positive : 0 < divisor) {count : Nat} {target : Int}
    (targeted : Format.binary64.targetExponent (totalExponent (dividend / divisor) start) = target)
    (counted : target = start + count) :
    shiftToTargetExponent Format.binary64 (dividend / divisor) start
        (accuracyOfFraction (dividend % divisor) divisor)
      = (extended dividend (divisor * 2 ^ count), target) := by
  unfold shiftToTargetExponent shiftToExponent
  dsimp only
  rw [targeted, show (target - start).toNat = count by omega, <- counted]
  exact congrArg (fun kept => (kept, target)) (shiftRight_extended positive count)

/-- There it is rounded, and it is shifted once more if that makes the mantissa too long. -/
theorem round_of_quotient (sign : Sign) (positive : 0 < divisor) {count : Nat} {target : Int}
    (targeted : Format.binary64.targetExponent (totalExponent (dividend / divisor) start) = target)
    (counted : target = start + count)
    (shifted : shiftToTargetExponent Format.binary64
        (roundQuotient dividend (divisor * 2 ^ count)) target .exact
      = (⟨mantissa, false, false⟩, exponent))
    (present : 0 < mantissa) :
    roundWithAccuracy Format.binary64 sign (dividend / divisor) start
        (accuracyOfFraction (dividend % divisor) divisor)
      = .finite sign mantissa exponent present := by
  unfold roundWithAccuracy
  rw [shiftToTargetExponent_quotient positive targeted counted]
  dsimp only
  rw [roundedMantissa_extended _ (Nat.mul_pos positive (Nat.two_pow_pos count)), shifted]
  exact dif_neg present.ne'

/-- A quotient that is no more than half of the least number is rounded to zero. -/
theorem round_of_tiny (sign : Sign) (positive : 0 < divisor)
    (tiny : (dividend / divisor : ℚ) * 2 ^ start <= 2 ^ (leastExponent - 1))
    (enough : start <= Format.binary64.targetExponent (totalExponent (dividend / divisor) start)) :
    roundWithAccuracy Format.binary64 sign (dividend / divisor) start
        (accuracyOfFraction (dividend % divisor) divisor)
      = .zero sign := by
  have size : (0 : ℚ) < divisor := by exact_mod_cast positive
  have lower : start <= leastExponent
      ∧ totalExponent (dividend / divisor) start <= leastExponent + 53 := by
    rw [targetExponent_eq] at enough
    by_cases early : start < leastExponent
    · have below : (dividend / divisor : ℚ) * 2 ^ start < 2 ^ leastExponent :=
        tiny.trans_lt (zpow_lt_zpow_right₀ one_lt_two (by omega))
      have := totalExponent_le positive below early
      omega
    · -- there is no whole step in it
      have less : (dividend / divisor : ℚ) * 2 ^ start < 1 * 2 ^ start := by
        rw [one_mul]
        exact tiny.trans_lt (zpow_lt_zpow_right₀ one_lt_two (by omega))
      have small := lt_of_mul_lt_mul_right less (by positivity)
      rw [div_lt_one size, Nat.cast_lt] at small
      have total : totalExponent (dividend / divisor) start = 1 + start := by
        rw [Nat.div_eq_of_lt small]
        unfold totalExponent
        rw [Nat.log2_zero]
        omega
      omega
  have targeted : Format.binary64.targetExponent (totalExponent (dividend / divisor) start)
      = leastExponent := by
    rw [targetExponent_eq]
    omega
  obtain ⟨count, counted⟩ : ∃ count : Nat, leastExponent = start + count :=
    ⟨(leastExponent - start).toNat, by omega⟩
  have half : 2 * dividend <= divisor * 2 ^ count := by
    rw [zpow_sub_one₀ two_ne_zero, counted, zpow_add₀ two_ne_zero, zpow_natCast,
      mul_comm ((2 : ℚ) ^ start), mul_right_comm] at tiny
    have quotient := le_of_mul_le_mul_right tiny (by positivity)
    rw [div_le_iff₀ size] at quotient
    have doubled : (2 : ℚ) * dividend <= divisor * 2 ^ count := by linarith
    exact_mod_cast doubled
  have rounded : roundQuotient dividend (divisor * 2 ^ count) = 0 := by
    have long : 0 < divisor * 2 ^ count := by positivity
    exact roundQuotient_eq long (Or.inl (by omega)) (by omega)
  unfold roundWithAccuracy
  rw [shiftToTargetExponent_quotient positive targeted counted]
  dsimp only
  rw [roundedMantissa_extended _ (Nat.mul_pos positive (Nat.two_pow_pos count)), rounded]
  rfl

theorem round_of_exponent (sign : Sign) (positive : 0 < divisor)
    (canonical : Canonical mantissa exponent)
    (names : Names mantissa exponent ((dividend / divisor : ℚ) * 2 ^ start))
    (target : Format.binary64.targetExponent (totalExponent (dividend / divisor) start) = exponent)
    (lower : start <= exponent) :
    roundWithAccuracy Format.binary64 sign (dividend / divisor) start
        (accuracyOfFraction (dividend % divisor) divisor)
      = .finite sign mantissa exponent canonical.positive := by
  obtain ⟨count, counted⟩ : ∃ count : Nat, exponent = start + count :=
    ⟨(exponent - start).toNat, by omega⟩
  have size : 0 < divisor * 2 ^ count := by positivity
  have value : (dividend / divisor : ℚ) * 2 ^ start
      = (dividend / (divisor * 2 ^ count : Nat) : ℚ) * 2 ^ exponent := by
    rw [counted, zpow_add₀ two_ne_zero, zpow_natCast]
    push_cast
    field_simp
  rw [value] at names
  rcases (names_quotient_iff size).mp names with ⟨above, below⟩
  have rounded : roundQuotient dividend (divisor * 2 ^ count) = mantissa := by
    have whole : divisor * 2 ^ count <= mantissa * (divisor * 2 ^ count) :=
      Nat.le_mul_of_pos_left _ canonical.positive
    rw [neighbourhood_eq] at above below
    apply roundQuotient_eq size
    · dsimp only at above
      split at above
      · rw [Nat.sub_mul, Nat.mul_assoc] at above
        omega
      · rw [Nat.sub_mul, Nat.mul_assoc] at above
        omega
    · dsimp only at below
      rw [Nat.add_mul, Nat.mul_assoc] at below
      omega
  apply round_of_quotient sign positive target counted
  rw [rounded]
  exact canonical.shiftToTargetExponent

theorem halved (mantissa : Nat) :
    ExtendedMantissa.ofMantissaAndAccuracy (2 * mantissa) .exact >>> 1
      = ⟨mantissa, false, false⟩ := by
  change ExtendedMantissa.mk (2 * mantissa / 2) (2 * mantissa % 2 != 0) (false || false) = _
  rw [Nat.mul_div_cancel_left mantissa two_pos, Nat.mul_mod_right]
  rfl

theorem leastMantissa_pos : 0 < leastMantissa :=
  Nat.two_pow_pos 52

/-- Just below a power of two the steps are half as long, and rounding up there gives a mantissa
with one place too many. -/
theorem round_of_carry (sign : Sign) (positive : 0 < divisor) (larger : leastExponent < exponent)
    (names : Names leastMantissa exponent ((dividend / divisor : ℚ) * 2 ^ start))
    (below : (dividend / divisor : ℚ) * 2 ^ start < leastMantissa * 2 ^ exponent)
    (target : Format.binary64.targetExponent (totalExponent (dividend / divisor) start)
      = exponent - 1)
    (lower : start <= exponent - 1) :
    roundWithAccuracy Format.binary64 sign (dividend / divisor) start
        (accuracyOfFraction (dividend % divisor) divisor)
      = .finite sign leastMantissa exponent leastMantissa_pos := by
  obtain ⟨count, counted⟩ : ∃ count : Nat, exponent - 1 = start + count :=
    ⟨(exponent - 1 - start).toNat, by omega⟩
  have size : 0 < divisor * 2 ^ count := by positivity
  have value : (dividend / divisor : ℚ) * 2 ^ start
      = (dividend / (divisor * 2 ^ count * 2 : Nat) : ℚ) * 2 ^ exponent := by
    rw [show exponent = start + count + 1 by omega, zpow_add₀ two_ne_zero, zpow_add₀ two_ne_zero,
      zpow_natCast, zpow_one]
    push_cast
    field_simp
  rw [value] at names below
  have doubled : 0 < divisor * 2 ^ count * 2 := by positivity
  rcases (names_quotient_iff doubled).mp names with ⟨above, _⟩
  have less : dividend < leastMantissa * (divisor * 2 ^ count * 2) := by
    have quotient := lt_of_mul_lt_mul_right below (by positivity)
    rw [div_lt_iff₀ (by exact_mod_cast doubled)] at quotient
    exact_mod_cast quotient
  have rounded : roundQuotient dividend (divisor * 2 ^ count) = 2 * leastMantissa := by
    rw [neighbourhood_eq, if_pos ⟨rfl, larger⟩] at above
    dsimp only at above
    have whole : divisor * 2 ^ count <= leastMantissa * (divisor * 2 ^ count) :=
      Nat.le_mul_of_pos_left _ leastMantissa_pos
    generalize leastMantissa = least at above less whole ⊢
    generalize divisor * 2 ^ count = steps at above less size whole ⊢
    rw [<- Nat.mul_assoc] at less
    rw [Nat.sub_mul, Nat.mul_assoc, <- Nat.mul_assoc least] at above
    refine roundQuotient_eq size ?_ (Or.inl ?_)
    · rw [Nat.mul_assoc 2 least]
      rcases above with above | ⟨_, above⟩
      · exact Or.inl (by omega)
      · exact Or.inr ⟨Nat.mul_mod_right 2 least, by omega⟩
    · rw [Nat.mul_assoc 2 least]
      omega
  have second : shiftToTargetExponent Format.binary64 (2 * leastMantissa) (exponent - 1) .exact
      = (⟨leastMantissa, false, false⟩, exponent) := by
    have carried : Format.binary64.targetExponent
        (totalExponent (2 * leastMantissa) (exponent - 1)) = exponent := by
      rw [targetExponent_eq, totalExponent, leastMantissa_eq, <- Nat.pow_succ',
        Nat.log2_two_pow]
      omega
    unfold shiftToTargetExponent shiftToExponent
    dsimp only
    rw [carried, show (exponent - (exponent - 1)).toNat = 1 by omega]
    exact Prod.ext (halved leastMantissa) (Int.sub_add_cancel exponent 1)
  apply round_of_quotient sign positive target counted
  rw [rounded]
  exact second

theorem Names.low_le {value : ℚ} (names : Names mantissa exponent value) :
    ((neighbourhood mantissa exponent).1 : ℚ) * 2 ^ exponent <= 4 * value := by
  rcases names.above with above | ⟨_, above⟩
  · exact above.le
  · exact above.le

theorem Names.le_high {value : ℚ} (names : Names mantissa exponent value) :
    4 * value <= ((neighbourhood mantissa exponent).2.2 : ℚ) * 2 ^ exponent := by
  rcases names.below with below | ⟨_, below⟩
  · exact below.le
  · exact below.le

/-- A neighbourhood lies below the next power of two. -/
theorem Names.lt_top {value : ℚ} (names : Names mantissa exponent value) {places : Nat}
    (short : mantissa < 2 ^ places) : value < 2 ^ ((places : Int) + exponent) := by
  have power : (0 : ℚ) < 2 ^ exponent := by positivity
  have room : ((4 * mantissa + 2 : Nat) : ℚ) < 4 * 2 ^ places := by
    exact_mod_cast (show 4 * mantissa + 2 < 4 * 2 ^ places by omega)
  have most := names.le_high
  rw [neighbourhood_eq] at most
  rw [zpow_add₀ two_ne_zero, zpow_natCast]
  have scaled := mul_lt_mul_of_pos_right room power
  linarith

/-- A neighbourhood lies above a power of two that is less than its middle. -/
theorem Names.bottom_le {value : ℚ} (names : Names mantissa exponent value) {places : Nat}
    (more : 2 ^ places < mantissa) : 2 ^ ((places : Int) + exponent) <= value := by
  have power : (0 : ℚ) < 2 ^ exponent := by positivity
  have low : 4 * 2 ^ places <= (neighbourhood mantissa exponent).1 := by
    rw [neighbourhood_eq]
    dsimp only
    split <;> omega
  have room : (4 * 2 ^ places : ℚ) <= ((neighbourhood mantissa exponent).1 : ℚ) := by
    exact_mod_cast low
  have least := names.low_le
  rw [zpow_add₀ two_ne_zero, zpow_natCast]
  have scaled := mul_le_mul_of_nonneg_right room power.le
  linarith

/-- A neighbourhood lies at least half a step above zero. -/
theorem Names.half_le {value : ℚ} (names : Names mantissa exponent value)
    (positive : 0 < mantissa) : 2 ^ exponent <= 2 * value := by
  have power : (0 : ℚ) < 2 ^ exponent := by positivity
  have low : 2 <= (neighbourhood mantissa exponent).1 := by
    rw [neighbourhood_eq]
    dsimp only
    split <;> omega
  have room : (2 : ℚ) <= ((neighbourhood mantissa exponent).1 : ℚ) := by
    exact_mod_cast low
  have least := names.low_le
  have scaled := mul_le_mul_of_nonneg_right room power.le
  linarith

/-- A number names itself. -/
theorem Canonical.names (canonical : Canonical mantissa exponent) :
    Names mantissa exponent (mantissa * 2 ^ exponent) := by
  have power : (0 : ℚ) < 2 ^ exponent := by positivity
  have positive := canonical.positive
  constructor
  · left
    rw [<- mul_assoc]
    refine mul_lt_mul_of_pos_right ?_ power
    rw [neighbourhood_eq]
    dsimp only
    exact_mod_cast (show (if mantissa = leastMantissa ∧ leastExponent < exponent
      then 4 * mantissa - 1 else 4 * mantissa - 2) < 4 * mantissa by split <;> omega)
  · left
    rw [<- mul_assoc]
    refine mul_lt_mul_of_pos_right ?_ power
    rw [neighbourhood_eq]
    exact_mod_cast (show 4 * mantissa < 4 * mantissa + 2 by omega)

/-- A quotient is rounded to the number in whose neighbourhood it lies, if it has no fewer places
than the mantissa has room for. -/
theorem round_of_names (sign : Sign) (positive : 0 < divisor)
    (canonical : Canonical mantissa exponent)
    (names : Names mantissa exponent ((dividend / divisor : ℚ) * 2 ^ start))
    (enough : start <= Format.binary64.targetExponent (totalExponent (dividend / divisor) start)) :
    roundWithAccuracy Format.binary64 sign (dividend / divisor) start
        (accuracyOfFraction (dividend % divisor) divisor)
      = .finite sign mantissa exponent canonical.positive := by
  have least := canonical.least
  have top := names.lt_top (show mantissa < 2 ^ 53 from canonical.short)
  have lower : start <= exponent := by
    by_contra higher
    rw [targetExponent_eq] at enough
    by_cases far : start < (53 : Nat) + exponent
    · have := totalExponent_le positive top far
      omega
    · have beyond : (dividend / divisor : ℚ) * 2 ^ start < 2 ^ (start + 1) :=
        top.trans_le (zpow_le_zpow_right₀ one_le_two (by omega))
      have := totalExponent_le positive beyond (by omega)
      omega
  have upper := totalExponent_le positive top (by omega)
  by_cases bottom : 2 ^ (((52 : Nat) : Int) + exponent) <= (dividend / divisor : ℚ) * 2 ^ start
  · have := lt_totalExponent positive bottom (by omega)
    refine round_of_exponent sign positive canonical names ?_ lower
    rw [targetExponent_eq]
    omega
  · by_cases subnormal : exponent = leastExponent
    · refine round_of_exponent sign positive canonical names ?_ lower
      rw [targetExponent_eq]
      omega
    · -- the value is just below the power of two that begins its binade
      have full := canonical.full.resolve_right subnormal
      obtain rfl : mantissa = leastMantissa := by
        by_contra other
        exact bottom (names.bottom_le (lt_of_le_of_ne full (Ne.symm other)))
      rw [not_le] at bottom
      have half := names.bottom_le (show 2 ^ 51 < leastMantissa from Nat.pow_lt_pow_succ one_lt_two)
      have := totalExponent_le positive bottom (by omega)
      have := lt_totalExponent positive half (by omega)
      have target : Format.binary64.targetExponent (totalExponent (dividend / divisor) start)
          = exponent - 1 := by
        rw [targetExponent_eq]
        omega
      rw [zpow_add₀ two_ne_zero, zpow_natCast] at bottom
      rw [target] at enough
      refine round_of_carry sign positive (by omega) names ?_ target enough
      exact_mod_cast bottom

end Round

end Number
end DegreeAudit
