import DegreeAudit.Proofs.Number.Nearest

namespace DegreeAudit
namespace Number

/-!
# Whole numbers beyond the largest real one

The largest real number is `(2 ^ 53 - 1) * 2 ^ 971`.  What lies half a step or more above it is
rounded up to a power of two for which there is no exponent, so that it has no nearest number.
-/

open Float.Model (Format UnpackedFloat)

/-- The least whole number that is rounded up beyond the largest real number. -/
def overflow : Nat := (2 ^ 54 - 1) * 2 ^ 970

/-- A whole number has no nearest real number. -/
def IsTooLarge (number : Int) : Prop :=
  overflow <= number.natAbs

instance (number : Int) : Decidable (IsTooLarge number) :=
  inferInstanceAs (Decidable (overflow <= number.natAbs))

section Named

/-! ## What is too large to be named -/

variable {mantissa : Nat} {exponent : Int} {value : ℚ}

/-- The largest step between numbers, in steps of half the length. -/
theorem two_zpow_last : (2 : ℚ) ^ (971 : Int) = 2 * 2 ^ (970 : Nat) := by
  rw [<- zpow_natCast, <- zpow_one_add₀ two_ne_zero]
  rfl

theorem overflow_eq : (overflow : ℚ) = 18014398509481983 * 2 ^ (970 : Nat) := by
  rw [overflow, Nat.cast_mul, Nat.cast_pow]
  rfl

theorem one_le_overflow : (1 : ℚ) <= overflow := by
  rw [overflow_eq]
  exact one_le_mul_of_one_le_of_one_le (by norm_num) (one_le_pow₀ one_le_two)

/-- A number whose exponent fits is not named by what is too large. -/
theorem Names.lt_overflow (names : Names mantissa exponent value)
    (canonical : Canonical mantissa exponent) (fits : exponent <= 971) : value < overflow := by
  have step : (2 : ℚ) ^ exponent <= 2 * 2 ^ (970 : Nat) :=
    two_zpow_last ▸ zpow_le_zpow_right₀ one_le_two fits
  have unit : (0 : ℚ) < 2 ^ (970 : Nat) := by positivity
  have power : (0 : ℚ) <= 2 ^ exponent := by positivity
  have short : mantissa < 9007199254740992 := canonical.short
  have below := names.below
  rw [neighbourhood_eq] at below
  rw [overflow_eq]
  generalize (2 : ℚ) ^ (970 : Nat) = half at step unit ⊢
  rcases below with below | ⟨even, below⟩
  · have high : ((4 * mantissa + 2 : Nat) : ℚ) <= 36028797018963966 := by
      exact_mod_cast (show 4 * mantissa + 2 <= 36028797018963966 by omega)
    have most := mul_le_mul high step power (by norm_num)
    linarith
  -- the largest mantissa is odd, so that a value at the upper end belongs to another one
  · have high : ((4 * mantissa + 2 : Nat) : ℚ) <= 36028797018963962 := by
      exact_mod_cast (show 4 * mantissa + 2 <= 36028797018963962 by omega)
    have most := mul_le_mul high step power (by norm_num)
    linarith

/-- A number whose exponent does not fit is only named by what is too large. -/
theorem Names.overflow_le (names : Names mantissa exponent value)
    (canonical : Canonical mantissa exponent) (beyond : 971 < exponent) : overflow <= value := by
  have step : 2 * (2 * 2 ^ (970 : Nat)) <= (2 : ℚ) ^ exponent := by
    rw [<- two_zpow_last, <- zpow_one_add₀ two_ne_zero]
    exact zpow_le_zpow_right₀ one_le_two (by omega)
  have unit : (0 : ℚ) < 2 ^ (970 : Nat) := by positivity
  have full : 4503599627370496 <= mantissa :=
    canonical.full.resolve_right (by unfold leastExponent; omega)
  have low : (18014398509481983 : ℚ) <= ((neighbourhood mantissa exponent).1 : ℚ) := by
    rw [neighbourhood_eq, leastMantissa_eq]
    dsimp only
    exact_mod_cast (show 18014398509481983 <= if mantissa = 2 ^ 52 ∧ leastExponent < exponent
      then 4 * mantissa - 1 else 4 * mantissa - 2 by unfold leastExponent; split <;> omega)
  have above := names.low_le
  rw [overflow_eq]
  generalize (2 : ℚ) ^ (970 : Nat) = half at step unit ⊢
  have least := mul_le_mul low step (by linarith) (Nat.cast_nonneg _)
  linarith

end Named

section Infinite

/-! ## Which whole numbers have no nearest number -/

variable {mantissa digits : Nat} {exponent scale : Int}

theorem isInf_eq (x : Float) : x.isInf = (parts x).isInf := by
  rfl

/-- What has an exponent that does not fit is packed as infinity. -/
theorem pack_beyond (canonical : Canonical mantissa exponent) (beyond : 971 < exponent) :
    UnpackedFloat.pack Format.binary64 (.finite .positive mantissa exponent canonical.positive)
      = UnpackedFloat.packedInfinity Format.binary64 .positive := by
  apply if_pos
  change 2 ^ 11 <= (exponent + 1023 + 52).toNat + 1
  omega

/-- A decimal that is named by a number beyond the largest one is turned into infinity. -/
theorem parts_realOfDecimal_beyond (canonical : Canonical mantissa exponent)
    (names : Names mantissa exponent (digits * 10 ^ scale)) (beyond : 971 < exponent) :
    parts (realOfDecimal digits scale) = .infinity .positive := by
  have large := names.overflow_le canonical beyond
  have long : ¬ (digits < 2 ^ 53 ∧ scale.natAbs <= 22) := by
    rintro ⟨short, few⟩
    have digits_le : (digits : ℚ) <= 2 ^ 53 := by exact_mod_cast short.le
    have power_le : (10 : ℚ) ^ scale <= 10 ^ (22 : Int) :=
      zpow_le_zpow_right₀ (by norm_num) (by omega)
    have most := mul_le_mul digits_le power_le (by positivity) (by positivity)
    have apart : (2 : ℚ) ^ 53 * 10 ^ (22 : Int) < overflow := by
      have unit : (2 : ℚ) ^ 76 <= 2 ^ (970 : Nat) := pow_le_pow_right₀ one_le_two (by decide)
      rw [overflow_eq]
      generalize (2 : ℚ) ^ (970 : Nat) = half at unit ⊢
      norm_num at unit ⊢
      linarith
    linarith
  have present : digits ≠ 0 := by
    rintro rfl
    rw [Nat.cast_zero, zero_mul] at large
    exact absurd (one_le_overflow.trans large) (not_le_of_gt one_pos)
  rw [parts_realOfDecimal_slow long]
  by_cases most : scale <= 2 ^ 11
  · rw [ofScientific_of_names present canonical most names, pack_beyond canonical beyond]
    rfl
  · unfold UnpackedFloat.ofScientific
    rw [dif_neg present, if_pos (by exact not_le.mp most)]
    rfl

/-- A whole number without a sign is turned into infinity just if it is too large. -/
theorem isInf_ofNat_iff (number : Nat) :
    (Float.ofNat number).isInf = true ↔ overflow <= number := by
  change (realOfDecimal number 0).isInf = true ↔ _
  rw [isInf_eq]
  rcases eq_or_ne number 0 with rfl | present
  · decide +kernel
  have value : (number : ℚ) * 10 ^ (0 : Int) = number := by rw [zpow_zero, mul_one]
  have one : (1 : ℚ) <= number := by exact_mod_cast Nat.pos_of_ne_zero present
  have large : (2 : ℚ) ^ (leastExponent - 1) < number :=
    (zpow_lt_one_of_neg₀ one_lt_two (by decide)).trans_le one
  rcases exists_names large with ⟨mantissa, exponent, canonical, names⟩
  by_cases fits : exponent <= 971
  · have less := names.lt_overflow canonical fits
    rw [parts_realOfDecimal present canonical fits (value.symm ▸ names)]
    exact iff_of_false Bool.false_ne_true (Nat.not_le_of_lt (by exact_mod_cast less))
  · have more := names.overflow_le canonical (not_le.mp fits)
    rw [parts_realOfDecimal_beyond canonical (value.symm ▸ names) (not_le.mp fits)]
    exact iff_of_true rfl (by exact_mod_cast more)

theorem isInf_neg (x : Float) : x.neg.isInf = x.isInf := by
  change (UnpackedFloat.unpack Format.binary64 (UnpackedFloat.pack Format.binary64
    (UnpackedFloat.neg (parts x)))).isInf = (parts x).isInf
  cases shape : parts x with
  | notANumber => rfl
  | infinity sign => cases sign <;> rfl
  | zero sign => cases sign <;> rfl
  | finite sign mantissa exponent positive =>
      rcases canonical_of_parts shape with ⟨canonical, fits⟩
      have same := congrArg UnpackedFloat.isInf (unpack_pack canonical fits (-sign))
      exact same

/-- A whole number has no nearest number just if it is too large. -/
theorem realOfInt?_eq_none_iff (number : Int) : realOfInt? number = none ↔ IsTooLarge number := by
  unfold realOfInt? IsTooLarge
  dsimp only
  cases number with
  | ofNat size =>
      rw [show Float.ofInt (Int.ofNat size) = Float.ofNat size from rfl]
      simp [<- isInf_ofNat_iff]
  | negSucc size =>
      rw [show Float.ofInt (Int.negSucc size) = (Float.ofNat (size + 1)).neg from rfl, isInf_neg]
      simp [<- isInf_ofNat_iff]

end Infinite

end Number
end DegreeAudit
