import DegreeAudit.Number.Reader
import DegreeAudit.Proofs.Number.Packing
import Mathlib.Tactic.NormNum

namespace DegreeAudit
namespace Number

/-!
# Decimals as numbers

A decimal is turned into a number by one multiplication or division with a power of ten, which is
rounded once.  So the number is the one that the decimal names.
-/

open Float.Model (Format UnpackedFloat totalExponent)
open Float.Model.UnpackedFloat

variable {mantissa : Nat} {exponent : Int}

section Operations

/-! ## Products and quotients -/

variable {left right : Nat} {leftExponent rightExponent : Int}

/-- A product with enough places is rounded to the number that it names. -/
theorem mul_of_names (leftSign rightSign : Sign) (leftPositive : 0 < left)
    (rightPositive : 0 < right) (canonical : Canonical mantissa exponent)
    (names : Names mantissa exponent
      ((left : ℚ) * 2 ^ leftExponent * ((right : ℚ) * 2 ^ rightExponent)))
    (long : leastMantissa <= left * right) :
    UnpackedFloat.mul Format.binary64 (.finite leftSign left leftExponent leftPositive)
        (.finite rightSign right rightExponent rightPositive)
      = .finite (leftSign * rightSign) mantissa exponent canonical.positive := by
  have value : (left : ℚ) * 2 ^ leftExponent * ((right : ℚ) * 2 ^ rightExponent)
      = ((left * right : Nat) : ℚ) / (1 : Nat) * 2 ^ (leftExponent + rightExponent) := by
    rw [zpow_add₀ two_ne_zero]
    push_cast
    ring
  rw [value] at names
  have places : 52 <= (left * right).log2 :=
    (Nat.le_log2 (Nat.mul_pos leftPositive rightPositive).ne').mpr long
  have rounded := round_of_names (leftSign * rightSign) one_pos canonical names (by
    rw [targetExponent_eq, totalExponent, Nat.div_one]
    omega)
  rw [Nat.div_one, Nat.mod_one] at rounded
  exact rounded

/-- A quotient is not below the power of two that its first places give. -/
theorem pow_totalExponent_le (leftPositive : 0 < left) (rightPositive : 0 < right) :
    (2 : ℚ) ^ (totalExponent left leftExponent - totalExponent right rightExponent - 1)
      <= left / right * 2 ^ (leftExponent - rightExponent) := by
  have most : (right : ℚ) < 2 ^ (right.log2 + 1) := by
    exact_mod_cast (Nat.log2_lt rightPositive.ne').mp (Nat.lt_succ_self _)
  have least : (2 : ℚ) ^ left.log2 <= left := by
    exact_mod_cast (Nat.le_log2 leftPositive.ne').mp (le_refl _)
  have quotient : (2 : ℚ) ^ left.log2 / 2 ^ (right.log2 + 1) <= left / right :=
    div_le_div₀ (by positivity) least (by positivity) most.le
  have places : totalExponent left leftExponent - totalExponent right rightExponent - 1
      = left.log2 - (right.log2 + 1 : Nat) + (leftExponent - rightExponent) := by
    unfold totalExponent
    push_cast
    ring
  calc (2 : ℚ) ^ (totalExponent left leftExponent - totalExponent right rightExponent - 1)
      = 2 ^ left.log2 / 2 ^ (right.log2 + 1) * 2 ^ (leftExponent - rightExponent) := by
        rw [places, zpow_add₀ two_ne_zero, zpow_sub₀ two_ne_zero, zpow_natCast, zpow_natCast]
    _ <= left / right * 2 ^ (leftExponent - rightExponent) :=
        mul_le_mul_of_nonneg_right quotient (by positivity)

/-- A quotient of numbers is a quotient of whole numbers in steps that are short enough. -/
theorem exists_div_eq_round (leftSign rightSign : Sign) (leftPositive : 0 < left)
    (rightPositive : 0 < right) :
    ∃ (dividend : Nat) (start : Int),
      (left : ℚ) * 2 ^ leftExponent / ((right : ℚ) * 2 ^ rightExponent)
          = (dividend / right : ℚ) * 2 ^ start
        ∧ start <= Format.binary64.targetExponent (totalExponent (dividend / right) start)
        ∧ UnpackedFloat.div Format.binary64 (.finite leftSign left leftExponent leftPositive)
            (.finite rightSign right rightExponent rightPositive)
          = roundWithAccuracy Format.binary64 (leftSign / rightSign) (dividend / right) start
            (accuracyOfFraction (dividend % right) right) := by
  let difference := totalExponent left leftExponent - totalExponent right rightExponent
  let target := min (leftExponent - rightExponent) (Format.binary64.targetExponent difference)
  let count := (leftExponent - rightExponent - target).toNat
  have counted : leftExponent - rightExponent = target + count := by omega
  have value : (left : ℚ) * 2 ^ leftExponent / ((right : ℚ) * 2 ^ rightExponent)
      = ((left <<< count : Nat) : ℚ) / right * 2 ^ target := by
    have powers : (2 : ℚ) ^ leftExponent = 2 ^ target * 2 ^ count * 2 ^ rightExponent := by
      rw [<- zpow_natCast (2 : ℚ) count, <- zpow_add₀ two_ne_zero, <- zpow_add₀ two_ne_zero,
        <- counted, Int.sub_add_cancel]
    rw [Nat.shiftLeft_eq, powers]
    push_cast
    field_simp
  have bottom : (2 : ℚ) ^ (difference - 1)
      <= ((left <<< count : Nat) : ℚ) / right * 2 ^ target := by
    have last : ((left <<< count : Nat) : ℚ) / right * 2 ^ target
        = left / right * 2 ^ (leftExponent - rightExponent) := by
      rw [counted, zpow_add₀ two_ne_zero, zpow_natCast, Nat.shiftLeft_eq]
      push_cast
      ring
    rw [last]
    exact pow_totalExponent_le leftPositive rightPositive
  have lower : target <= max (difference - 53) leastExponent := by
    rw [<- targetExponent_eq]
    exact min_le_right _ _
  have enough (total : Int) (above : target <= difference - 1 -> difference - 1 < total) :
      target <= max (total - 53) leastExponent := by
    clear_value target difference
    by_cases early : target <= difference - 1
    · have := above early
      omega
    · omega
  refine ⟨left <<< count, target, value, ?_, rfl⟩
  rw [targetExponent_eq]
  exact enough _ (lt_totalExponent rightPositive bottom)

/-- A quotient is rounded to the number that it names. -/
theorem div_of_names (leftSign rightSign : Sign) (leftPositive : 0 < left)
    (rightPositive : 0 < right) (canonical : Canonical mantissa exponent)
    (names : Names mantissa exponent
      ((left : ℚ) * 2 ^ leftExponent / ((right : ℚ) * 2 ^ rightExponent))) :
    UnpackedFloat.div Format.binary64 (.finite leftSign left leftExponent leftPositive)
        (.finite rightSign right rightExponent rightPositive)
      = .finite (leftSign / rightSign) mantissa exponent canonical.positive := by
  rcases exists_div_eq_round leftSign rightSign leftPositive rightPositive with
    ⟨dividend, start, value, enough, rounded⟩
  rw [value] at names
  rw [rounded]
  exact round_of_names (leftSign / rightSign) rightPositive canonical names enough

/-- A quotient that is no more than half of the least number is rounded to zero. -/
theorem div_of_tiny (leftSign rightSign : Sign) (leftPositive : 0 < left)
    (rightPositive : 0 < right)
    (tiny : (left : ℚ) * 2 ^ leftExponent / ((right : ℚ) * 2 ^ rightExponent)
      <= 2 ^ (leastExponent - 1)) :
    UnpackedFloat.div Format.binary64 (.finite leftSign left leftExponent leftPositive)
        (.finite rightSign right rightExponent rightPositive)
      = .zero (leftSign / rightSign) := by
  rcases exists_div_eq_round leftSign rightSign leftPositive rightPositive with
    ⟨dividend, start, value, enough, rounded⟩
  rw [value] at tiny
  rw [rounded]
  exact round_of_tiny (leftSign / rightSign) rightPositive tiny enough

end Operations

section Slow

/-! ## Decimals by whole numbers -/

variable {digits : Nat} {scale : Int}

/-- A decimal that names a number has no power of ten beyond bounds. -/
theorem scale_le (present : digits ≠ 0) (canonical : Canonical mantissa exponent)
    (fits : exponent <= 971) (names : Names mantissa exponent (digits * 10 ^ scale)) :
    scale <= 2 ^ 11 := by
  by_contra beyond
  have top := names.lt_top (show mantissa < 2 ^ 53 from canonical.short)
  have one : (1 : ℚ) <= digits := by exact_mod_cast Nat.one_le_iff_ne_zero.mpr present
  obtain ⟨count, counted⟩ : ∃ count : Nat, scale = count := ⟨scale.toNat, by omega⟩
  have power : (2 : ℚ) ^ scale <= 10 ^ scale := by
    rw [counted, zpow_natCast, zpow_natCast]
    exact pow_le_pow_left₀ (by norm_num) (by norm_num) count
  have large : (2 : ℚ) ^ (((53 : Nat) : Int) + exponent) <= 2 ^ scale :=
    zpow_le_zpow_right₀ one_le_two (by omega)
  have tens : (10 : ℚ) ^ scale <= digits * 10 ^ scale :=
    le_mul_of_one_le_left (by positivity) one
  linarith

theorem le_scale (present : digits ≠ 0) (canonical : Canonical mantissa exponent)
    (names : Names mantissa exponent (digits * 10 ^ scale)) :
    -(2 ^ 11 + digits.log2 : Int) <= scale := by
  by_contra beyond
  have half := names.half_le canonical.positive
  have most : (digits : ℚ) < 2 ^ (digits.log2 + 1) := by
    exact_mod_cast (Nat.log2_lt present).mp (Nat.lt_succ_self _)
  obtain ⟨count, counted⟩ : ∃ count : Nat, scale = -count := ⟨(-scale).toNat, by omega⟩
  have power : (10 : ℚ) ^ scale <= 2 ^ scale := by
    rw [counted, zpow_neg, zpow_neg, zpow_natCast, zpow_natCast]
    exact inv_anti₀ (by positivity) (pow_le_pow_left₀ (by norm_num) (by norm_num) count)
  have small : (digits : ℚ) * 10 ^ scale <= 2 ^ (digits.log2 + 1) * 2 ^ scale :=
    mul_le_mul most.le power (by positivity) (by positivity)
  have joined : (2 : ℚ) ^ (digits.log2 + 1) * 2 ^ scale * 4
      = 2 ^ (((digits.log2 + 1 : Nat) : Int) + scale + 2) := by
    rw [zpow_add₀ two_ne_zero, zpow_add₀ two_ne_zero, zpow_natCast]
    norm_num
  have least := canonical.least
  unfold leastExponent at least
  have apart : (2 : ℚ) ^ (((digits.log2 + 1 : Nat) : Int) + scale + 2) <= 2 ^ exponent :=
    zpow_le_zpow_right₀ one_le_two (by push_cast; omega)
  have positive : (0 : ℚ) < 2 ^ exponent := by positivity
  linarith

theorem quotient_of_scale_neg (below : scale < 0) :
    (digits * 10 ^ scale : ℚ)
      = (digits : ℚ) * 2 ^ (0 : Int) / (((10 ^ (-scale).toNat : Nat) : ℚ) * 2 ^ (0 : Int)) := by
  obtain ⟨count, rfl⟩ : ∃ count : Nat, scale = -count := ⟨(-scale).toNat, by omega⟩
  rw [Int.neg_neg, Int.toNat_natCast, zpow_neg, zpow_natCast, zpow_zero]
  push_cast
  rw [mul_one, mul_one, div_eq_mul_inv]

/-- A decimal that is no more than half of the least number has many places after its point. -/
theorem scale_lt_of_tiny (present : digits ≠ 0)
    (tiny : (digits * 10 ^ scale : ℚ) <= 2 ^ (leastExponent - 1)) : scale < -22 := by
  by_contra above
  have one : (1 : ℚ) <= digits := by exact_mod_cast Nat.one_le_iff_ne_zero.mpr present
  have tens : (10 : ℚ) ^ (-22 : Int) <= digits * 10 ^ scale :=
    (zpow_le_zpow_right₀ (by norm_num) (by omega)).trans (le_mul_of_one_le_left (by positivity) one)
  have half : (2 : ℚ) ^ (leastExponent - 1) <= 2 ^ (-74 : Int) :=
    zpow_le_zpow_right₀ one_le_two (by decide)
  have apart : (2 : ℚ) ^ (-74 : Int) < 10 ^ (-22 : Int) := by norm_num
  linarith

/-- A decimal is turned by whole numbers into what it names, even if that is too large for a
number. -/
theorem ofScientific_of_names (present : digits ≠ 0) (canonical : Canonical mantissa exponent)
    (most : scale <= 2 ^ 11) (names : Names mantissa exponent (digits * 10 ^ scale)) :
    UnpackedFloat.ofScientific Format.binary64 digits scale
      = .finite .positive mantissa exponent canonical.positive := by
  have least := le_scale present canonical names
  unfold UnpackedFloat.ofScientific
  rw [dif_neg present, if_neg (by exact not_lt.mpr most), if_neg (by exact not_lt.mpr least)]
  by_cases whole : 0 <= scale
  · rw [if_pos whole]
    obtain ⟨count, rfl⟩ : ∃ count : Nat, scale = count := ⟨scale.toNat, by omega⟩
    have value : (digits : ℚ) * (10 : ℚ) ^ (count : Int)
        = ((digits <<< 53 : Nat) : ℚ) * 2 ^ (-53 : Int)
          * (((10 ^ (count : Int).toNat : Nat) : ℚ) * 2 ^ (0 : Int)) := by
      rw [Nat.shiftLeft_eq, Int.toNat_natCast, zpow_natCast, zpow_neg, zpow_zero]
      push_cast
      field_simp
    rw [value] at names
    have long : leastMantissa <= digits <<< 53 * 10 ^ (count : Int).toNat := by
      have one : 1 <= digits := Nat.one_le_iff_ne_zero.mpr present
      have power : 1 <= 10 ^ (count : Int).toNat := Nat.one_le_pow _ _ (by decide)
      calc leastMantissa <= 2 ^ 53 := Nat.pow_le_pow_right two_pos (by decide)
        _ = 1 * 2 ^ 53 * 1 := by rw [Nat.one_mul, Nat.mul_one]
        _ <= digits * 2 ^ 53 * 10 ^ (count : Int).toNat :=
          Nat.mul_le_mul (Nat.mul_le_mul_right _ one) power
        _ = digits <<< 53 * 10 ^ (count : Int).toNat := by rw [Nat.shiftLeft_eq]
    exact mul_of_names .positive .positive _ _ canonical names long
  · rw [if_neg whole]
    rw [quotient_of_scale_neg (by omega)] at names
    exact div_of_names .positive .positive _ _ canonical names

/-- A decimal that is no more than half of the least number is turned into zero. -/
theorem ofScientific_of_tiny (tiny : (digits * 10 ^ scale : ℚ) <= 2 ^ (leastExponent - 1)) :
    UnpackedFloat.ofScientific Format.binary64 digits scale = .zero .positive := by
  unfold UnpackedFloat.ofScientific
  by_cases none : digits = 0
  · rw [dif_pos none]
  have below := scale_lt_of_tiny none tiny
  have most : ¬ 2 ^ Format.binary64.exponentBits < scale := by
    change ¬ 2 ^ 11 < scale
    omega
  rw [dif_neg none, if_neg most]
  by_cases small : scale < -(2 ^ Format.binary64.exponentBits + digits.log2 : Int)
  · rw [if_pos small]
  · rw [if_neg small, if_neg (by omega)]
    rw [quotient_of_scale_neg (by omega)] at tiny
    exact div_of_tiny .positive .positive _ _ tiny

end Slow

section Fast

/-! ## Decimals by numbers that are exact

Where the digits and the power of ten are numbers themselves, they are multiplied or divided. -/

/-- A number is a positive value, and no place of its mantissa is unused. -/
def IsExactly (x : Float) (value : ℚ) : Prop :=
  ∃ (mantissa : Nat) (exponent : Int) (positive : 0 < mantissa),
    parts x = .finite .positive mantissa exponent positive ∧ leastMantissa <= mantissa
      ∧ (mantissa : ℚ) * 2 ^ exponent = value

/-- A whole number is shifted to fill the mantissa. -/
theorem canonical_shiftLeft {number places : Nat} (present : number ≠ 0)
    (counted : number.log2 + places = 52) : Canonical (number <<< places) (-places) := by
  rw [Nat.shiftLeft_eq]
  constructor
  · exact Nat.mul_pos (Nat.pos_of_ne_zero present) (Nat.two_pow_pos places)
  · rw [leastMantissa_eq, <- Nat.pow_succ', show Nat.succ 52 = number.log2 + 1 + places by omega,
      Nat.pow_add]
    exact Nat.mul_lt_mul_of_pos_right Nat.lt_log2_self (Nat.two_pow_pos places)
  · unfold leastExponent
    omega
  · left
    rw [leastMantissa_eq, <- counted, Nat.pow_add]
    exact Nat.mul_le_mul_right _ (Nat.log2_self_le present)

theorem ofUInt64_toUInt64 {number places : Nat} (present : number ≠ 0)
    (counted : number.log2 + places = 52) :
    UnpackedFloat.ofUInt64 Format.binary64 number.toUInt64
      = .finite .positive (number <<< places) (-places)
        (canonical_shiftLeft present counted).positive := by
  have canonical := canonical_shiftLeft present counted
  have itself := canonical.names
  rw [<- div_one ((number <<< places : Nat) : ℚ), <- Nat.cast_one] at itself
  have rounded := round_of_names .positive one_pos canonical itself
    (by rw [Nat.div_one, canonical.targetExponent])
  rw [Nat.div_one, Nat.mod_one] at rounded
  have short : number < 2 ^ 53 := (Nat.log2_lt present).mp (by omega)
  have small : number.toUInt64.toNat = number := by
    rw [Nat.toUInt64_eq, UInt64.toNat_ofNat']
    omega
  have sign : compare (number : Int) 0 = .gt := by
    rw [Int.compare_eq_gt]
    omega
  have target : Format.binary64.targetExponent (totalExponent number 0) = -places := by
    rw [targetExponent_eq, totalExponent]
    unfold leastExponent
    omega
  unfold UnpackedFloat.ofUInt64 UnpackedFloat.ofNat UnpackedFloat.ofInt UnpackedFloat.normalize
  rw [small, sign]
  unfold Float.Model.UnpackedFloat.round decreaseExponent
  dsimp only
  rw [Int.toNat_natCast, target, show ((0 : Int) - -places).toNat = places by omega, Int.zero_sub]
  exact rounded

/-- A whole number without more places than a mantissa has is a number. -/
theorem isExactly_toFloat {number : Nat} (present : number ≠ 0) (short : number < 2 ^ 53) :
    IsExactly number.toUInt64.toFloat number := by
  have most := (Nat.log2_lt present).mpr short
  obtain ⟨places, counted⟩ : ∃ places : Nat, number.log2 + places = 52 :=
    ⟨52 - number.log2, by omega⟩
  have canonical := canonical_shiftLeft present counted
  refine ⟨number <<< places, -places, canonical.positive, ?_, ?_, ?_⟩
  · change UnpackedFloat.unpack Format.binary64 (UnpackedFloat.pack Format.binary64
      (UnpackedFloat.ofUInt64 Format.binary64 number.toUInt64)) = _
    rw [ofUInt64_toUInt64 present counted]
    exact parts_pack canonical (by omega) .positive
  · rcases canonical.full with full | bottom
    · exact full
    · unfold leastExponent at bottom
      omega
  · rw [Nat.shiftLeft_eq, zpow_neg, zpow_natCast]
    push_cast
    field_simp

/-- Whether a number is a power of ten and no place of its mantissa is unused. -/
def isTenTo (count : Nat) (x : Float) : Bool :=
  match parts x with
  | .finite .positive mantissa exponent _ =>
      decide (leastMantissa <= mantissa)
        && decide (mantissa * 2 ^ exponent.toNat = 10 ^ count * 2 ^ (-exponent).toNat)
  | _ => false

/-- The first powers of ten are numbers. -/
theorem isTenTo_table : forall count : Fin 23,
    isTenTo count Float.exactlyRepresentablePowersOfTen[count] = true := by
  decide

theorem isExactly_of_isTenTo {count : Nat} {x : Float} (power : isTenTo count x = true) :
    IsExactly x (10 ^ count) := by
  unfold isTenTo at power
  split at power
  case h_1 mantissa exponent positive shape =>
    simp only [Bool.and_eq_true, decide_eq_true_eq] at power
    rcases power with ⟨full, same⟩
    refine ⟨mantissa, exponent, positive, shape, full, ?_⟩
    have quotient : (2 : ℚ) ^ exponent = 2 ^ exponent.toNat / 2 ^ (-exponent).toNat := by
      rw [<- zpow_natCast, <- zpow_natCast, <- zpow_sub₀ two_ne_zero]
      congr 1
      omega
    rw [quotient, <- mul_div_assoc, div_eq_iff (by positivity)]
    exact_mod_cast same
  case h_2 => cases power

variable {digits : Nat} {scale : Int} {x y : Float}

theorem parts_mul_of_names {left right : ℚ} (first : IsExactly x left) (second : IsExactly y right)
    (canonical : Canonical mantissa exponent) (fits : exponent <= 971)
    (names : Names mantissa exponent (left * right)) :
    parts (x * y) = .finite .positive mantissa exponent canonical.positive := by
  rcases first with ⟨factor, power, positive, shape, full, rfl⟩
  rcases second with ⟨other, step, also, form, _, rfl⟩
  have long : leastMantissa <= factor * other :=
    full.trans (Nat.le_mul_of_pos_right factor also)
  have product := mul_of_names .positive .positive positive also canonical names long
  rw [<- shape, <- form] at product
  change UnpackedFloat.unpack Format.binary64 (UnpackedFloat.pack Format.binary64
    (UnpackedFloat.mul Format.binary64 (parts x) (parts y))) = _
  rw [product]
  exact parts_pack canonical fits .positive

theorem parts_div_of_names {left right : ℚ} (first : IsExactly x left) (second : IsExactly y right)
    (canonical : Canonical mantissa exponent) (fits : exponent <= 971)
    (names : Names mantissa exponent (left / right)) :
    parts (x / y) = .finite .positive mantissa exponent canonical.positive := by
  rcases first with ⟨dividend, power, positive, shape, _, rfl⟩
  rcases second with ⟨divisor, step, also, form, _, rfl⟩
  have quotient := div_of_names .positive .positive positive also canonical names
  rw [<- shape, <- form] at quotient
  change UnpackedFloat.unpack Format.binary64 (UnpackedFloat.pack Format.binary64
    (UnpackedFloat.div Format.binary64 (parts x) (parts y))) = _
  rw [quotient]
  exact parts_pack canonical fits .positive

/-- Other decimals are turned into numbers by whole numbers. -/
theorem parts_realOfDecimal_slow (bounds : ¬ (digits < 2 ^ 53 ∧ scale.natAbs <= 22)) :
    parts (realOfDecimal digits scale)
      = UnpackedFloat.unpack Format.binary64 (UnpackedFloat.pack Format.binary64
        (UnpackedFloat.ofScientific Format.binary64 digits scale)) := by
  have signed : (if decide (scale < 0) then Int.negOfNat scale.natAbs
      else Int.ofNat scale.natAbs) = scale := by
    by_cases below : scale < 0
    · rw [decide_eq_true below, if_pos rfl, Int.negOfNat_eq, Int.ofNat_eq_natCast]
      omega
    · rw [decide_eq_false below, if_neg Bool.false_ne_true, Int.ofNat_eq_natCast]
      omega
  unfold realOfDecimal Float.ofScientific
  rw [dif_neg bounds, signed]
  rfl

theorem unpack_pack_zero :
    UnpackedFloat.unpack Format.binary64 (UnpackedFloat.pack Format.binary64 (.zero .positive))
      = .zero .positive := by
  rfl

/-- No digits are zero, whatever power of ten they are multiplied or divided by. -/
theorem parts_realOfDecimal_zero (few : scale.natAbs <= 22) :
    parts (realOfDecimal 0 scale) = .zero .positive := by
  unfold realOfDecimal Float.ofScientific
  rw [dif_pos ⟨by decide, few⟩]
  have listed : scale.natAbs < Float.exactlyRepresentablePowersOfTen.size :=
    Nat.lt_succ_of_le few
  obtain ⟨mantissa, exponent, positive, shape⟩ : ∃ mantissa exponent positive,
      parts Float.exactlyRepresentablePowersOfTen[scale.natAbs]
        = .finite .positive mantissa exponent positive := by
    rcases isExactly_of_isTenTo (isTenTo_table ⟨scale.natAbs, Nat.lt_succ_of_le few⟩) with
      ⟨mantissa, exponent, positive, shape, _⟩
    exact ⟨mantissa, exponent, positive, shape⟩
  have zero : parts (Nat.toUInt64 0).toFloat = .zero .positive := rfl
  cases decide (scale < 0) with
  | true =>
      change UnpackedFloat.unpack Format.binary64 (UnpackedFloat.pack Format.binary64
        (UnpackedFloat.div Format.binary64 (parts _) (parts _))) = _
      rw [zero, shape]
      exact unpack_pack_zero
  | false =>
      change UnpackedFloat.unpack Format.binary64 (UnpackedFloat.pack Format.binary64
        (UnpackedFloat.mul Format.binary64 (parts _) (parts _))) = _
      rw [zero, shape]
      exact unpack_pack_zero

/-- A decimal is turned into the number that it names. -/
theorem parts_realOfDecimal (present : digits ≠ 0) (canonical : Canonical mantissa exponent)
    (fits : exponent <= 971) (names : Names mantissa exponent (digits * 10 ^ scale)) :
    parts (realOfDecimal digits scale)
      = .finite .positive mantissa exponent canonical.positive := by
  by_cases bounds : digits < 2 ^ 53 ∧ scale.natAbs <= 22
  · -- the digits and the power of ten are both exact, and the result is rounded once
    unfold realOfDecimal Float.ofScientific
    rw [dif_pos bounds]
    rcases bounds with ⟨short, few⟩
    have number := isExactly_toFloat present short
    have power := isExactly_of_isTenTo (isTenTo_table ⟨scale.natAbs, Nat.lt_succ_of_le few⟩)
    by_cases below : scale < 0
    · rw [decide_eq_true below]
      obtain ⟨count, rfl⟩ : ∃ count : Nat, scale = -count := ⟨(-scale).toNat, by omega⟩
      rw [zpow_neg, zpow_natCast, <- div_eq_mul_inv, show count = (-(count : Int)).natAbs by omega]
        at names
      exact parts_div_of_names number power canonical fits names
    · rw [decide_eq_false below]
      obtain ⟨count, rfl⟩ : ∃ count : Nat, scale = count := ⟨scale.toNat, by omega⟩
      rw [zpow_natCast, <- Int.natAbs_natCast count] at names
      exact parts_mul_of_names number power canonical fits names
  · rw [parts_realOfDecimal_slow bounds,
      ofScientific_of_names present canonical (scale_le present canonical fits names) names]
    exact parts_pack canonical fits .positive

/-- A decimal that is no more than half of the least number is turned into zero. -/
theorem parts_realOfDecimal_of_tiny
    (tiny : (digits * 10 ^ scale : ℚ) <= 2 ^ (leastExponent - 1)) :
    parts (realOfDecimal digits scale) = .zero .positive := by
  by_cases bounds : digits < 2 ^ 53 ∧ scale.natAbs <= 22
  · obtain rfl : digits = 0 := by
      by_contra present
      have := scale_lt_of_tiny present tiny
      omega
    exact parts_realOfDecimal_zero bounds.2
  · rw [parts_realOfDecimal_slow bounds, ofScientific_of_tiny tiny, unpack_pack_zero]

end Fast

end Number
end DegreeAudit
