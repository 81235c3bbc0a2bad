import DegreeAudit.Proofs.Number.Numeral
import DegreeAudit.Proofs.Number.Scientific
import DegreeAudit.Proofs.Number.Shortest
import Mathlib.Data.Int.Log
import Mathlib.Data.Rat.Floor

namespace DegreeAudit
namespace Number

/-!
# The nearest number

Every positive value that is not too small has a nearest number, if exponents may be as large as
they need, and nearest numbers stand in the order of the values.  So a decimal between two numbers
is read as a number between them.
-/

open Float.Model (Format UnpackedFloat)

section Quotients

/-! ## What a quotient names -/

variable {mantissa dividend divisor : Nat} {exponent : Int}

/-- A quotient between two whole numbers in equal distance is rounded to the even one. -/
theorem even_roundQuotient (positive : 0 < divisor)
    (tie : 2 * dividend = 2 * (roundQuotient dividend divisor * divisor) + divisor
      ∨ 2 * (roundQuotient dividend divisor * divisor) = 2 * dividend + divisor) :
    roundQuotient dividend divisor % 2 = 0 := by
  have parts := Nat.div_add_mod dividend divisor
  have rest := Nat.mod_lt dividend positive
  rw [Nat.mul_comm] at parts
  revert tie
  unfold roundQuotient
  dsimp only
  split
  · omega
  · split
    · rw [Nat.add_mul]
      omega
    · omega

/-- The nearest mantissa names the quotient. -/
theorem names_nearest (positive : 0 < divisor) (present : 0 < mantissa)
    (full : leastExponent < exponent -> leastMantissa * divisor <= dividend)
    (above : 2 * (mantissa * divisor) < 2 * dividend + divisor
      ∨ mantissa % 2 = 0 ∧ 2 * (mantissa * divisor) = 2 * dividend + divisor)
    (below : 2 * dividend < 2 * (mantissa * divisor) + divisor
      ∨ mantissa % 2 = 0 ∧ 2 * dividend = 2 * (mantissa * divisor) + divisor) :
    Names mantissa exponent ((dividend / divisor : ℚ) * 2 ^ exponent) := by
  have one : divisor <= mantissa * divisor := Nat.le_mul_of_pos_left _ present
  rw [names_quotient_iff positive, neighbourhood_eq]
  dsimp only
  constructor
  · split
    case isTrue least =>
      rcases least with ⟨rfl, larger⟩
      have := full larger
      left
      rw [Nat.sub_mul, Nat.mul_assoc]
      omega
    case isFalse =>
      rw [Nat.sub_mul, Nat.mul_assoc]
      omega
  · rw [Nat.add_mul, Nat.mul_assoc]
    omega

/-- A quotient that is rounded to one place more than a mantissa has is named by a power of two. -/
theorem names_carried (positive : 0 < divisor) (lower : leastExponent <= exponent)
    (less : dividend < 2 * leastMantissa * divisor)
    (above : 2 * (2 * leastMantissa * divisor) <= 2 * dividend + divisor) :
    Names leastMantissa (exponent + 1) ((dividend / divisor : ℚ) * 2 ^ exponent) := by
  have even : leastMantissa % 2 = 0 := by decide
  have halved : (dividend / divisor : ℚ) * 2 ^ exponent
      = (dividend / (divisor * 2 : Nat) : ℚ) * 2 ^ (exponent + 1) := by
    rw [zpow_add_one₀ two_ne_zero]
    push_cast
    field_simp
  rw [Nat.mul_assoc] at less above
  rw [halved, names_quotient_iff (Nat.mul_pos positive two_pos), neighbourhood_eq,
    if_pos ⟨rfl, Int.lt_add_one_of_le lower⟩]
  dsimp only
  constructor
  · rw [Nat.sub_mul, Nat.mul_assoc 4, <- Nat.mul_assoc leastMantissa]
    omega
  · left
    rw [Nat.add_mul, Nat.mul_assoc 4, <- Nat.mul_assoc leastMantissa]
    omega

/-- A quotient with as many places as a mantissa has a nearest number. -/
theorem exists_names_of_quotient (positive : 0 < divisor) (lower : leastExponent <= exponent)
    (full : leastMantissa * divisor <= dividend)
    (short : dividend < 2 * leastMantissa * divisor) :
    ∃ (mantissa : Nat) (power : Int), Canonical mantissa power
      ∧ Names mantissa power ((dividend / divisor : ℚ) * 2 ^ exponent) := by
  have near := roundQuotient_near dividend positive
  have even := @even_roundQuotient dividend _ positive
  generalize roundQuotient dividend divisor = nearest at near even
  have least : leastMantissa <= nearest := by
    by_contra less
    have step := Nat.mul_le_mul_right divisor (Nat.lt_of_not_le less)
    rw [Nat.succ_mul] at step
    omega
  have most : nearest <= 2 * leastMantissa := by
    by_contra more
    have step := Nat.mul_le_mul_right divisor (Nat.lt_of_not_le more)
    rw [Nat.succ_mul] at step
    omega
  by_cases fits : nearest < 2 * leastMantissa
  · have present : 0 < nearest := leastMantissa_pos.trans_le least
    exact ⟨nearest, exponent, ⟨present, fits, lower, Or.inl least⟩,
      names_nearest positive present (fun _ => full) (by omega) (by omega)⟩
  · obtain rfl : nearest = 2 * leastMantissa := by omega
    have smaller : leastMantissa < 2 * leastMantissa := by
      have := leastMantissa_pos
      omega
    exact ⟨leastMantissa, exponent + 1,
      ⟨leastMantissa_pos, smaller, lower.trans (Int.le_add_one (le_refl _)), Or.inl (le_refl _)⟩,
      names_carried positive lower short near.2⟩

theorem leastMantissa_zpow (exponent : Int) :
    (leastMantissa : ℚ) * 2 ^ exponent = 2 ^ (52 + exponent) := by
  rw [zpow_add₀ two_ne_zero, leastMantissa_eq]
  norm_cast

/-- A value is a quotient of whole numbers in steps of any length. -/
theorem exists_quotient {value : ℚ} (nonneg : 0 <= value) (exponent : Int) :
    ∃ dividend divisor : Nat, 0 < divisor
      ∧ value = (dividend / divisor : ℚ) * 2 ^ exponent := by
  have power : (0 : ℚ) < 2 ^ exponent := zpow_pos two_pos _
  let steps := value / 2 ^ exponent
  have whole : ((steps.num.toNat : Int) : ℚ) = steps.num := by
    rw [Int.toNat_of_nonneg (Rat.num_nonneg.mpr (div_nonneg nonneg power.le))]
  refine ⟨steps.num.toNat, steps.den, steps.den_pos, ?_⟩
  rw [Int.cast_natCast] at whole
  rw [whole, Rat.num_div_den, div_mul_cancel₀ _ power.ne']

/-- A value that is not too small has a nearest number. -/
theorem exists_names_of_normal {value : ℚ} (normal : leastMantissa * 2 ^ leastExponent <= value) :
    ∃ (mantissa : Nat) (exponent : Int), Canonical mantissa exponent
      ∧ Names mantissa exponent value := by
  rw [leastMantissa_zpow] at normal
  have positive : 0 < value := (zpow_pos two_pos _).trans_le normal
  obtain ⟨top, first, next⟩ : ∃ top : Int, (2 : ℚ) ^ top <= value ∧ value < 2 ^ (top + 1) :=
    ⟨Int.log 2 value, by exact_mod_cast Int.zpow_log_le_self (by decide) positive,
      by exact_mod_cast Int.lt_zpow_succ_log_self (by decide) value⟩
  have lower : leastExponent <= top - 52 := by
    have := (zpow_lt_zpow_iff_right₀ one_lt_two).mp (normal.trans_lt next)
    omega
  have power : (0 : ℚ) < 2 ^ (top - 52) := zpow_pos two_pos _
  obtain ⟨dividend, divisor, size, scaled⟩ := exists_quotient positive.le (top - 52)
  have divisorSize : (0 : ℚ) < divisor := by exact_mod_cast size
  have full : leastMantissa * divisor <= dividend := by
    have bound : leastMantissa * 2 ^ (top - 52) <= (dividend / divisor : ℚ) * 2 ^ (top - 52) := by
      rw [leastMantissa_zpow, <- scaled, show 52 + (top - 52) = top by omega]
      exact first
    rw [mul_le_mul_iff_left₀ power, le_div_iff₀ divisorSize] at bound
    exact_mod_cast bound
  have short : dividend < 2 * leastMantissa * divisor := by
    have bound : (dividend / divisor : ℚ) * 2 ^ (top - 52)
        < 2 * leastMantissa * 2 ^ (top - 52) := by
      rw [mul_assoc, leastMantissa_zpow, <- scaled, show 52 + (top - 52) = top by omega,
        <- zpow_one_add₀ two_ne_zero, add_comm]
      exact next
    rw [mul_lt_mul_iff_left₀ power, div_lt_iff₀ divisorSize] at bound
    exact_mod_cast bound
  rw [scaled]
  exact exists_names_of_quotient size lower full short

/-- A value that is more than half of the least number has a nearest number. -/
theorem exists_names {value : ℚ} (large : 2 ^ (leastExponent - 1) < value) :
    ∃ (mantissa : Nat) (exponent : Int), Canonical mantissa exponent
      ∧ Names mantissa exponent value := by
  by_cases normal : leastMantissa * 2 ^ leastExponent <= value
  · exact exists_names_of_normal normal
  -- below, the numbers are apart by the least of them
  have power : (0 : ℚ) < 2 ^ leastExponent := zpow_pos two_pos _
  have positive : 0 < value := (zpow_pos two_pos _).trans large
  obtain ⟨dividend, divisor, size, rfl⟩ := exists_quotient positive.le leastExponent
  have divisorSize : (0 : ℚ) < divisor := by exact_mod_cast size
  have short : dividend < leastMantissa * divisor := by
    rw [not_le, mul_lt_mul_iff_left₀ power, div_lt_iff₀ divisorSize] at normal
    exact_mod_cast normal
  have half : divisor < 2 * dividend := by
    rw [zpow_sub_one₀ two_ne_zero, mul_comm, mul_lt_mul_iff_left₀ power, lt_div_iff₀ divisorSize]
      at large
    have doubled : (divisor : ℚ) < 2 * dividend := by linarith
    exact_mod_cast doubled
  have near := roundQuotient_near dividend size
  have even := @even_roundQuotient dividend _ size
  generalize roundQuotient dividend divisor = nearest at near even
  have present : 0 < nearest := by
    rw [Nat.pos_iff_ne_zero]
    rintro rfl
    omega
  have fits : nearest < 2 * leastMantissa := by
    by_contra more
    have step := Nat.mul_le_mul_right divisor (Nat.le_of_not_lt more)
    have room := Nat.mul_le_mul_right divisor (Nat.succ_le_of_lt leastMantissa_pos)
    rw [Nat.mul_assoc] at step
    omega
  exact ⟨nearest, leastExponent, ⟨present, fits, le_refl _, Or.inr rfl⟩,
    names_nearest size present (fun larger => absurd larger (lt_irrefl _)) (by omega) (by omega)⟩

end Quotients

section Order

/-! ## The order of nearest numbers -/

variable {mantissa other : Nat} {exponent power : Int} {value : ℚ}

/-- Numbers with the same steps are compared by their counts of steps. -/
theorem mul_two_pow_le {fewer more count : Nat}
    (ordered : (fewer : ℚ) * 2 ^ (power + count) <= more * 2 ^ power) :
    fewer * 2 ^ count <= more := by
  rw [add_comm, zpow_add₀ two_ne_zero, zpow_natCast, <- mul_assoc] at ordered
  exact_mod_cast le_of_mul_le_mul_right ordered (zpow_pos two_pos power)

/-- The number nearest to a value is not above a number that the value is not above. -/
theorem Names.not_above (names : Names mantissa exponent value)
    (canonical : Canonical mantissa exponent) (bound : Canonical other power)
    (most : value <= other * 2 ^ power) :
    exponent < power ∨ exponent = power ∧ mantissa <= other := by
  by_contra! above
  obtain ⟨count, rfl⟩ : ∃ count : Nat, exponent = power + count :=
    ⟨(exponent - power).toNat, by omega⟩
  have ordered : ((neighbourhood mantissa (power + count)).1 : ℚ) * 2 ^ (power + count)
      <= (4 * other : Nat) * 2 ^ power := by
    push_cast
    linarith [names.low_le]
  have steps := mul_two_pow_le ordered
  rw [neighbourhood_eq] at steps
  dsimp only at steps
  have short := bound.short
  cases count with
  | zero =>
      have := above.2 (by omega)
      split at steps <;> omega
  | succ count =>
      have full := canonical.full
      have least := bound.least
      have doubled : (4 * leastMantissa - 1) * 2 <= 4 * other := by
        refine (Nat.mul_le_mul ?_ ?_).trans steps
        · split <;> omega
        · exact Nat.le_self_pow (Nat.succ_ne_zero count) 2
      omega

/-- The number nearest to a value is not below a number that the value is not below. -/
theorem Names.not_below (names : Names mantissa exponent value)
    (canonical : Canonical mantissa exponent) (bound : Canonical other power)
    (least : other * 2 ^ power <= value) :
    power < exponent ∨ power = exponent ∧ other <= mantissa := by
  by_contra! below
  obtain ⟨count, rfl⟩ : ∃ count : Nat, power = exponent + count :=
    ⟨(power - exponent).toNat, by omega⟩
  have ordered : ((4 * other : Nat) : ℚ) * 2 ^ (exponent + count)
      <= (neighbourhood mantissa exponent).2.2 * 2 ^ exponent := by
    push_cast
    linarith [names.le_high]
  have steps := mul_two_pow_le ordered
  rw [neighbourhood_eq] at steps
  dsimp only at steps
  have short := canonical.short
  cases count with
  | zero =>
      have := below.2 (by omega)
      omega
  | succ count =>
      have full := bound.full
      have lower := canonical.least
      have doubled : 4 * leastMantissa * 2 <= 4 * mantissa + 2 := by
        refine (Nat.mul_le_mul ?_ ?_).trans steps
        · omega
        · exact Nat.le_self_pow (Nat.succ_ne_zero count) 2
      omega

end Order

section Between

/-! ## Decimals between numbers -/

variable {x y low high : Float} {mantissa other digits : Nat} {exponent power scale : Int}

/-- Positive numbers are compared by their exponents first. -/
theorem le_of_parts {positive : 0 < mantissa} {also : 0 < other}
    (first : parts x = .finite .positive mantissa exponent positive)
    (second : parts y = .finite .positive other power also)
    (ordered : exponent < power ∨ exponent = power ∧ mantissa <= other) : x <= y := by
  rw [le_iff, first, second]
  change ((compare exponent power).then (compare mantissa other)).isLE = true
  rcases ordered with less | ⟨rfl, less⟩
  · rw [Int.compare_eq_lt.mpr less]
    rfl
  · rw [compare_eq_iff_eq.mpr rfl]
    exact Nat.isLE_compare.mpr less

/-- A decimal between two numbers that use all places of their mantissas is read as a number
between them. -/
theorem realOfDecimal_between {least most : ℚ} (first : IsExactly low least)
    (last : IsExactly high most) (above : least <= digits * 10 ^ scale)
    (below : digits * 10 ^ scale <= most) :
    low <= realOfDecimal digits scale ∧ realOfDecimal digits scale <= high := by
  rcases first with ⟨bottom, step, _, bottomParts, full, rfl⟩
  rcases last with ⟨top, stride, _, topParts, _, rfl⟩
  rcases canonical_of_parts bottomParts with ⟨bottomCanonical, _⟩
  rcases canonical_of_parts topParts with ⟨topCanonical, fits⟩
  have normal : (leastMantissa : ℚ) * 2 ^ leastExponent <= digits * 10 ^ scale := by
    refine le_trans (mul_le_mul ?_ ?_ ?_ ?_) above
    · exact_mod_cast full
    · exact zpow_le_zpow_right₀ one_le_two bottomCanonical.least
    · positivity
    · positivity
  have present : digits ≠ 0 := by
    rintro rfl
    rw [Nat.cast_zero, zero_mul, leastMantissa_zpow] at normal
    exact absurd normal (not_le_of_gt (zpow_pos two_pos _))
  rcases exists_names_of_normal normal with ⟨mantissa, exponent, canonical, names⟩
  have notAbove := names.not_above canonical topCanonical below
  have notBelow := names.not_below canonical bottomCanonical above
  have shape := parts_realOfDecimal present canonical (by omega) names
  exact ⟨le_of_parts bottomParts shape notBelow, le_of_parts shape topParts notAbove⟩

end Between

section Numerals

/-! ## Numerals between numbers -/

variable {whole fraction text : List Char}

/-- The number that a numeral writes, before it is rounded to a real one. -/
def writtenValue (text : List Char) : ℚ :=
  let fraction := (text.dropWhile Char.isDigit).tail
  Text.valueOfDigits (text.takeWhile Char.isDigit ++ fraction) / 10 ^ fraction.length

theorem NumeralParts.writtenValue_eq (parts : NumeralParts whole fraction) :
    writtenValue (whole ++ fractionText fraction)
      = (Text.valueOfDigits (whole ++ fraction) : ℚ) * 10 ^ (-Int.ofNat fraction.length) := by
  have after : (fractionText fraction).tail = fraction := by
    cases fraction <;> rfl
  unfold writtenValue
  rw [Text.takeWhile_digits parts.whole (noDigit_fractionText fraction),
    Text.dropWhile_digits parts.whole (noDigit_fractionText fraction)]
  dsimp only
  rw [after, Int.ofNat_eq_natCast, zpow_neg, zpow_natCast, div_eq_mul_inv]

/-- A numeral that writes a number between two real ones is read as a number between them. -/
theorem IsNumeral.readReal?_between {low high : Float} {least most : ℚ} (numeral : IsNumeral text)
    (first : IsExactly low least) (last : IsExactly high most) (above : least <= writtenValue text)
    (below : writtenValue text <= most) :
    ∃ number, readReal? text = some number ∧ low <= number ∧ number <= high := by
  rcases numeral with ⟨whole, fraction, rfl, parts⟩
  rw [parts.writtenValue_eq] at above below
  exact ⟨_, parts.readReal?_eq, realOfDecimal_between first last above below⟩

end Numerals

end Number
end DegreeAudit
