import DegreeAudit.Proofs.Number.Rounding
import Mathlib.Tactic.NormNum

namespace DegreeAudit
namespace Number

/-!
# The shortest decimal

A length is taken only if one of its decimals lies in the neighbourhood of the number.  Where none
does up to seventeen digits, the nearest decimal of that length lies in it all the same: a step of
its last place is too short to lead out of the neighbourhood.
-/

variable {mantissa : Nat} {exponent : Int}

/-- The value of a decimal. -/
def Decimal.value (decimal : Decimal) : ℚ :=
  decimal.digits * 10 ^ decimal.scale

section Scaled

/-! ## Quotients for scaled numbers -/

theorem pow_toNat_neg {base : ℚ} (positive : 0 < base) (power : Int) :
    base ^ power * base ^ (-power).toNat = base ^ power.toNat := by
  rw [<- zpow_natCast, <- zpow_natCast, <- zpow_add₀ positive.ne']
  congr 1
  omega

/-- By what a scaled number and its decimals are multiplied to make whole numbers of them. -/
def stretch (power scale : Int) : ℚ :=
  2 ^ (-power).toNat * 10 ^ (-scale).toNat

theorem stretch_pos (power scale : Int) : 0 < stretch power scale := by
  unfold stretch
  positivity

variable (number : Nat) (power scale : Int)

theorem scaledBy_eq :
    scaledBy number power scale
      = (number * 2 ^ power.toNat * 10 ^ (-scale).toNat,
        2 ^ (-power).toNat * 10 ^ scale.toNat) := by
  rfl

theorem scaledBy_fst :
    ((scaledBy number power scale).1 : ℚ) = number * 2 ^ power * stretch power scale := by
  have twos := pow_toNat_neg two_pos power
  rw [scaledBy_eq, stretch]
  push_cast
  rw [<- twos]
  ring

theorem scaledBy_snd :
    ((scaledBy number power scale).2 : ℚ) = 10 ^ scale * stretch power scale := by
  have tens := pow_toNat_neg (show (0 : ℚ) < 10 by norm_num) scale
  rw [scaledBy_eq, stretch]
  push_cast
  rw [<- tens]
  ring

theorem scaledBy_pos : 0 < (scaledBy number power scale).2 :=
  Nat.mul_pos (Nat.two_pow_pos _) (Nat.pow_pos (by decide))

end Scaled

section Lengths

/-! ## Decimals of one length -/

/-- Digits are compared in whole numbers with the end of a neighbourhood, which is in quarters of a
step. -/
theorem scaledBy_order (number digits : Nat) (exponent scale : Int) :
    let scaled := (scaledBy number (exponent - 2) scale).1
    let point := digits * (scaledBy number (exponent - 2) scale).2
    (scaled < point ↔ (number : ℚ) * 2 ^ exponent < 4 * (digits * 10 ^ scale))
      ∧ (point < scaled ↔ 4 * ((digits : ℚ) * 10 ^ scale) < number * 2 ^ exponent)
      ∧ (scaled = point ↔ (number : ℚ) * 2 ^ exponent = 4 * (digits * 10 ^ scale)) := by
  intro scaled point
  have size : 0 < stretch (exponent - 2) scale / 4 :=
    div_pos (stretch_pos _ _) (by norm_num)
  have left : (scaled : ℚ) = number * 2 ^ exponent * (stretch (exponent - 2) scale / 4) := by
    rw [scaledBy_fst, zpow_sub₀ two_ne_zero]
    ring
  have right : (point : ℚ) = 4 * (digits * 10 ^ scale) * (stretch (exponent - 2) scale / 4) := by
    rw [Nat.cast_mul, scaledBy_snd]
    ring
  refine ⟨?_, ?_, ?_⟩
  · rw [<- @Nat.cast_lt ℚ, left, right, mul_lt_mul_iff_left₀ size]
  · rw [<- @Nat.cast_lt ℚ, left, right, mul_lt_mul_iff_left₀ size]
  · rw [<- @Nat.cast_inj ℚ, left, right, mul_left_inj' size.ne']

/-- The test for the digits of a decimal. -/
def namesAt (mantissa : Nat) (exponent scale : Int) (digits : Nat) : Bool :=
  let (low, _, high) := neighbourhood mantissa exponent
  let (lowEnd, divisor) := scaledBy low (exponent - 2) scale
  let (highEnd, _) := scaledBy high (exponent - 2) scale
  let even := mantissa % 2 == 0
  let point := digits * divisor
  (lowEnd < point || (even && lowEnd == point)) && (point < highEnd || (even && point == highEnd))

theorem names_of_namesAt {scale : Int} {digits : Nat}
    (passed : namesAt mantissa exponent scale digits = true) :
    Names mantissa exponent (digits * 10 ^ scale) := by
  unfold namesAt at passed
  simp only [Bool.and_eq_true, Bool.or_eq_true, decide_eq_true_eq, beq_iff_eq] at passed
  rcases passed with ⟨above, below⟩
  rcases scaledBy_order (neighbourhood mantissa exponent).1 digits exponent scale with
    ⟨low, _, lowEnd⟩
  rcases scaledBy_order (neighbourhood mantissa exponent).2.2 digits exponent scale with
    ⟨_, high, highEnd⟩
  exact ⟨above.imp low.mp (And.imp_right lowEnd.mp),
    below.imp high.mp (And.imp_right fun same => (highEnd.mp same.symm).symm)⟩

/-- A decimal of some length that is taken names the number. -/
theorem names_of_nearestWithin {count : Nat} {decimal : Decimal}
    (found : nearestWithin mantissa exponent count = some decimal) :
    Names mantissa exponent decimal.value := by
  -- whatever the two digits are that are tried, each of them is tested
  obtain ⟨scale, nearest, other, tests⟩ : ∃ (scale : Int) (nearest other : Nat),
      nearestWithin mantissa exponent count
        = if namesAt mantissa exponent scale nearest then some ⟨nearest, scale⟩
          else if namesAt mantissa exponent scale other then some ⟨other, scale⟩
          else none := ⟨_, _, _, rfl⟩
  rw [tests] at found
  split at found
  case isTrue passed =>
    cases found
    exact names_of_namesAt passed
  case isFalse =>
    split at found
    case isTrue passed =>
      cases found
      exact names_of_namesAt passed
    case isFalse => cases found

end Lengths

section Digits

/-! ## The place of the first digit -/

theorem pow_digitCount_le {number : Nat} (positive : 0 < number) :
    10 ^ (digitCount number - 1) <= number := by
  by_contra less
  rcases Nat.eq_zero_or_pos (digitCount number - 1) with none | some
  · rw [none] at less
    omega
  · have := (Nat.length_toDigits_le_iff (by decide) some).mpr (not_le.mp less)
    unfold digitCount at this some
    omega

theorem lt_pow_digitCount (number : Nat) : number < 10 ^ digitCount number :=
  (Nat.length_toDigits_le_iff (by decide) Nat.length_toDigits_pos).mp (le_refl _)

/-- The first digit of a quotient stands at a power of ten that is not above the quotient. -/
theorem pow_leading_le {dividend divisor : Nat} (first : 0 < dividend) (second : 0 < divisor) :
    (10 : ℚ) ^ (if divisor <= dividend then Int.ofNat (digitCount (dividend / divisor)) - 1
        else if divisor <= dividend * 10 ^ (digitCount (divisor / dividend) - 1) then
          1 - Int.ofNat (digitCount (divisor / dividend))
        else -Int.ofNat (digitCount (divisor / dividend)))
      <= dividend / divisor := by
  have size : (0 : ℚ) < divisor := by exact_mod_cast second
  rw [le_div_iff₀ size]
  split
  case isTrue whole =>
    have quotient : 0 < dividend / divisor := Nat.div_pos whole second
    have counted : 0 < digitCount (dividend / divisor) := Nat.length_toDigits_pos
    have least := (Nat.le_div_iff_mul_le second).mp (pow_digitCount_le quotient)
    rw [show Int.ofNat (digitCount (dividend / divisor)) - 1
      = ((digitCount (dividend / divisor) - 1 : Nat) : Int) by
        rw [Int.ofNat_eq_natCast]; omega, zpow_natCast]
    exact_mod_cast least
  case isFalse =>
    have counted : 0 < digitCount (divisor / dividend) := Nat.length_toDigits_pos
    split
    case isTrue enough =>
      rw [show 1 - Int.ofNat (digitCount (divisor / dividend))
        = -((digitCount (divisor / dividend) - 1 : Nat) : Int) by
          rw [Int.ofNat_eq_natCast]; omega, zpow_neg, zpow_natCast, inv_mul_le_iff₀ (by positivity),
        mul_comm]
      exact_mod_cast enough
    case isFalse =>
      have most := (Nat.div_lt_iff_lt_mul first).mp (lt_pow_digitCount (divisor / dividend))
      rw [zpow_neg, Int.ofNat_eq_natCast, zpow_natCast, inv_mul_le_iff₀ (by positivity)]
      exact_mod_cast most.le

/-- A number is not less than its first digit's power of ten. -/
theorem pow_leadingScale_le (positive : 0 < mantissa) :
    (10 : ℚ) ^ leadingScale mantissa exponent <= mantissa * 2 ^ exponent := by
  have fst := scaledBy_fst mantissa exponent 0
  have snd := scaledBy_snd mantissa exponent 0
  have size := stretch_pos exponent 0
  rw [zpow_zero, one_mul] at snd
  have value : (mantissa : ℚ) * 2 ^ exponent
      = (scaledBy mantissa exponent 0).1 / (scaledBy mantissa exponent 0).2 := by
    rw [fst, snd, mul_div_cancel_right₀ _ size.ne']
  have present : 0 < (scaledBy mantissa exponent 0).1 :=
    Nat.mul_pos (Nat.mul_pos positive (Nat.two_pow_pos _)) (Nat.pow_pos (by decide))
  rw [value]
  exact pow_leading_le present (scaledBy_pos mantissa exponent 0)

/-- A rounded quotient is at most half away from the quotient. -/
theorem roundQuotient_near (dividend : Nat) {divisor : Nat} (positive : 0 < divisor) :
    2 * dividend <= 2 * (roundQuotient dividend divisor * divisor) + divisor
      ∧ 2 * (roundQuotient dividend divisor * divisor) <= 2 * dividend + divisor := by
  have parts := Nat.div_add_mod dividend divisor
  have rest := Nat.mod_lt dividend positive
  rw [Nat.mul_comm] at parts
  unfold roundQuotient
  dsimp only
  split
  · omega
  · split
    · rw [Nat.add_mul]
      omega
    · rcases Nat.mod_two_eq_zero_or_one (dividend / divisor) with even | odd
      · rw [even, Nat.add_zero]
        omega
      · rw [odd, Nat.add_mul]
        omega

/-- In the last place of seventeen digits a step is shorter than one between the numbers. -/
theorem pow_scale_le (positive : 0 < mantissa) {scale : Int}
    (places : scale = leadingScale mantissa exponent - 16) :
    (10 : ℚ) ^ scale * 10 ^ 16 <= mantissa * 2 ^ exponent := by
  have leading := @pow_leadingScale_le mantissa exponent positive
  rw [show leadingScale mantissa exponent = scale + (16 : Nat) by omega,
    zpow_add₀ (by norm_num), zpow_natCast] at leading
  exact leading

/-- The decimal with a fixed last place is at most half a step of that place away. -/
theorem roundedAt_near (mantissa : Nat) (exponent scale : Int) :
    2 * ((mantissa : ℚ) * 2 ^ exponent)
        <= 2 * (roundedAt mantissa exponent scale).value + 10 ^ scale
      ∧ 2 * (roundedAt mantissa exponent scale).value
        <= 2 * (mantissa * 2 ^ exponent) + 10 ^ scale := by
  have size := stretch_pos exponent scale
  rcases roundQuotient_near (scaledBy mantissa exponent scale).1
    (scaledBy_pos mantissa exponent scale) with ⟨above, below⟩
  have value : (roundedAt mantissa exponent scale).value
      = (roundQuotient (scaledBy mantissa exponent scale).1
        (scaledBy mantissa exponent scale).2 : ℚ) * 10 ^ scale := rfl
  rw [value]
  generalize roundQuotient _ _ = digits at above below ⊢
  rw [<- @Nat.cast_le ℚ] at above below
  push_cast at above below
  rw [scaledBy_fst, scaledBy_snd] at above below
  constructor
  · refine le_of_mul_le_mul_right ?_ size
    linarith
  · refine le_of_mul_le_mul_right ?_ size
    linarith

/-- Seventeen digits lie in the neighbourhood. -/
theorem names_roundedAt (canonical : Canonical mantissa exponent) {scale : Int}
    (places : scale = leadingScale mantissa exponent - 16) :
    Names mantissa exponent (roundedAt mantissa exponent scale).value := by
  have short := pow_scale_le canonical.positive places
  rcases roundedAt_near mantissa exponent scale with ⟨above, below⟩
  generalize (roundedAt mantissa exponent scale).value = value at above below ⊢
  have power : (0 : ℚ) < 2 ^ exponent := by positivity
  have most : (mantissa : ℚ) * 2 ^ exponent < 9007199254740992 * 2 ^ exponent :=
    mul_lt_mul_of_pos_right (by exact_mod_cast canonical.short) power
  have positive := canonical.positive
  constructor
  · rw [neighbourhood_eq]
    left
    dsimp only
    split
    -- here the lower end is only a quarter of a step away, but the mantissa is the least one
    case isTrue least =>
      rcases least with ⟨rfl, _⟩
      have low : ((4 * leastMantissa - 1 : Nat) : ℚ) = 4 * leastMantissa - 1 := by
        rw [Nat.cast_sub (by omega)]
        push_cast
        rfl
      have numeral : (leastMantissa : ℚ) = 4503599627370496 := by
        rw [leastMantissa_eq]
        norm_num
      rw [low]
      rw [numeral] at above short ⊢
      linarith
    case isFalse =>
      have low : ((4 * mantissa - 2 : Nat) : ℚ) = 4 * mantissa - 2 := by
        rw [Nat.cast_sub (by omega)]
        push_cast
        rfl
      rw [low, sub_mul, mul_assoc]
      linarith
  · rw [neighbourhood_eq]
    left
    dsimp only
    push_cast
    rw [add_mul, mul_assoc 4]
    linarith

theorem names_shortestFrom (canonical : Canonical mantissa exponent) (attempts count : Nat) :
    Names mantissa exponent (shortestFrom mantissa exponent attempts count).value := by
  induction attempts generalizing count with
  | zero => exact names_roundedAt canonical rfl
  | succ attempts inductionHypothesis =>
      unfold shortestFrom
      split
      case h_1 decimal found => exact names_of_nearestWithin found
      case h_2 => exact inductionHypothesis (count + 1)

/-- The shortest decimal names the number. -/
theorem names_shortest (canonical : Canonical mantissa exponent) :
    Names mantissa exponent (shortest mantissa exponent).value :=
  names_shortestFrom canonical 17 1

theorem digits_ne_zero {decimal : Decimal} (canonical : Canonical mantissa exponent)
    (names : Names mantissa exponent decimal.value) : decimal.digits ≠ 0 := by
  intro none
  have half := names.half_le canonical.positive
  have power : (0 : ℚ) < 2 ^ exponent := by positivity
  rw [Decimal.value, none, Nat.cast_zero, zero_mul] at half
  linarith

end Digits

end Number
end DegreeAudit
