import DegreeAudit.Proofs.Number.Layout
import DegreeAudit.Proofs.Number.Scientific
import DegreeAudit.Proofs.Number.Shortest

namespace DegreeAudit
namespace Number

/-!
# The exact text of a number

However a number is set out, its text is made of digits, perhaps a point with more digits, and
perhaps an exponent.  These parts stand for the same decimal in every layout.
-/

/-- Whole digits, the digits after the point and the power of ten that the text of a number
gives. -/
structure Written where
  whole : List Char
  fraction : List Char
  exponent : Option Int

namespace Written

/-- The text of the parts. -/
def text (written : Written) : List Char :=
  written.whole ++ (if written.fraction.isEmpty then [] else '.' :: written.fraction)
    ++ (written.exponent.map exponentText).getD []

/-- All digits of the parts, with the power of ten of the last of them. -/
def decimal (written : Written) : Decimal :=
  ⟨Text.valueOfDigits (written.whole ++ written.fraction),
    written.exponent.getD 0 - Int.ofNat written.fraction.length⟩

/-- The parts are read as those of a real number: a point or an exponent shows that it is one, and
the whole digits do not begin with a zero that is not needed. -/
structure IsReal (written : Written) : Prop where
  whole : forall c, c ∈ written.whole -> c.isDigit = true
  fraction : forall c, c ∈ written.fraction -> c.isDigit = true
  present : written.whole ≠ []
  leading : written.whole.head? = some '0' -> written.whole = ['0']
  marked : written.fraction = [] -> written.exponent ≠ none

end Written

section Layouts

/-! ## Layouts -/

variable {digits : List Char} {leading : Int}

/-- The parts of the text of a number whose first digit stands at the power `leading` of ten. -/
def exactParts (digits : List Char) (leading : Int) : Written :=
  if -4 <= leading ∧ leading <= 15 then
    if leading < 0 then ⟨['0'], List.replicate (leading.natAbs - 1) '0' ++ digits, none⟩
    else if leading.toNat + 1 < digits.length then
      ⟨digits.take (leading.toNat + 1), digits.drop (leading.toNat + 1), none⟩
    else ⟨digits ++ List.replicate (leading.toNat + 1 - digits.length) '0', ['0'], none⟩
  else ⟨digits.take 1, digits.drop 1, some leading⟩

theorem Written.text_of_fraction {whole fraction : List Char} (some : fraction ≠ []) :
    (Written.mk whole fraction none).text = whole ++ '.' :: fraction := by
  unfold text
  rw [if_neg (by rw [List.isEmpty_iff]; exact some)]
  exact List.append_nil _

/-- The exact text is that of its parts. -/
theorem text_exactParts (present : digits ≠ []) :
    (exactParts digits leading).text = exactLayout.text digits leading := by
  unfold exactParts RealLayout.text exactLayout
  simp only [Bool.and_eq_true, decide_eq_true_eq]
  split
  case isTrue =>
    split
    case isTrue below =>
      rw [Written.text_of_fraction (List.append_ne_nil_of_right_ne_nil _ present)]
      rfl
    case isFalse above =>
      split
      case isTrue longer =>
        have tail : digits.drop (leading.toNat + 1) ≠ [] := by
          rw [Ne, List.drop_eq_nil_iff]
          omega
        rw [Written.text_of_fraction tail, if_neg (by rw [List.isEmpty_iff]; exact tail),
          Nat.sub_eq_zero_of_le longer.le, List.replicate_zero, List.append_nil]
      case isFalse shorter =>
        have all : digits.take (leading.toNat + 1) = digits :=
          List.take_of_length_le (Nat.not_lt.mp shorter)
        have tail : digits.drop (leading.toNat + 1) = [] :=
          List.drop_of_length_le (Nat.not_lt.mp shorter)
        rw [Written.text_of_fraction (List.cons_ne_nil _ _), all, tail]
        rfl
  case isFalse => rfl

/-- The parts stand for the digits, the first of them at its power of ten. -/
theorem value_exactParts (present : digits ≠ []) :
    (exactParts digits leading).decimal.value
      = Text.valueOfDigits digits * 10 ^ (leading + 1 - Int.ofNat digits.length) := by
  have some : 0 < digits.length := List.length_pos_iff.mpr present
  unfold exactParts
  split
  case isTrue =>
    split
    case isTrue below =>
      obtain ⟨count, counted⟩ : ∃ count : Nat, leading = -(count + 1) :=
        ⟨leading.natAbs - 1, by omega⟩
      have zeros : leading.natAbs - 1 = count := by omega
      have joined : ['0'] ++ (List.replicate count '0' ++ digits)
          = List.replicate (count + 1) '0' ++ digits := rfl
      unfold Written.decimal Decimal.value
      rw [zeros, joined, Text.valueOfDigits_zeros_append, List.length_append,
        List.length_replicate, counted]
      congr 2
      simp
      omega
    case isFalse above =>
      obtain ⟨count, rfl⟩ : ∃ count : Nat, leading = count := ⟨leading.toNat, by omega⟩
      rw [Int.toNat_natCast]
      split
      case isTrue longer =>
        unfold Written.decimal Decimal.value
        rw [List.take_append_drop, List.length_drop]
        congr 2
        simp
        omega
      case isFalse shorter =>
        obtain ⟨zeros, counted⟩ : ∃ zeros : Nat, count + 1 = digits.length + zeros :=
          ⟨count + 1 - digits.length, by omega⟩
        have joined : digits ++ List.replicate zeros '0' ++ ['0']
            = digits ++ List.replicate (zeros + 1) '0' := by
          rw [List.append_assoc, List.replicate_succ']
        have power : (count : Int) + 1 - Int.ofNat digits.length = zeros := by
          rw [Int.ofNat_eq_natCast]
          omega
        unfold Written.decimal Decimal.value
        rw [counted, Nat.add_sub_cancel_left, joined, Text.valueOfDigits_append_zeros, power,
          zpow_natCast]
        push_cast
        rw [pow_succ, Option.getD_none]
        norm_num
        ring
  case isFalse =>
    unfold Written.decimal Decimal.value
    rw [List.take_append_drop, List.length_drop]
    congr 2
    simp
    omega

/-- The parts are those of a real number. -/
theorem isReal_exactParts (present : digits ≠ [])
    (all : forall c, c ∈ digits -> c.isDigit = true) (first : digits.head? ≠ some '0') :
    (exactParts digits leading).IsReal := by
  have zeros (count : Nat) : forall c, c ∈ List.replicate count '0' -> c.isDigit = true := by
    intro c member
    rw [(List.mem_replicate.mp member).2]
    decide
  have front (count : Nat) : digits.take (count + 1) ≠ [] := by
    rw [Ne, List.take_eq_nil_iff, not_or]
    exact ⟨Nat.succ_ne_zero count, present⟩
  have start (count : Nat) : (digits.take (count + 1)).head? = digits.head? := by
    rw [List.head?_take, if_neg (Nat.succ_ne_zero count)]
  unfold exactParts
  split
  case isTrue =>
    split
    case isTrue below =>
      refine ⟨?_, ?_, List.cons_ne_nil _ _, fun _ => rfl, ?_⟩
      · exact zeros 1
      · exact List.forall_mem_append.mpr ⟨zeros _, all⟩
      · intro none
        exact absurd (List.append_eq_nil_iff.mp none).2 present
    case isFalse above =>
      split
      case isTrue longer =>
        refine ⟨?_, ?_, front _, ?_, ?_⟩
        · intro c member
          exact all c (List.mem_of_mem_take member)
        · intro c member
          exact all c (List.mem_of_mem_drop member)
        · intro zero
          rw [start] at zero
          exact absurd zero first
        · intro none
          exact absurd (List.drop_eq_nil_iff.mp none) (Nat.not_le.mpr longer)
      case isFalse shorter =>
        refine ⟨?_, ?_, List.append_ne_nil_of_left_ne_nil present _, ?_, ?_⟩
        · exact List.forall_mem_append.mpr ⟨all, zeros _⟩
        · exact zeros 1
        · intro zero
          rw [List.head?_append_of_ne_nil _ present] at zero
          exact absurd zero first
        · intro none
          cases none
  case isFalse =>
    refine ⟨?_, ?_, front 0, ?_, ?_⟩
    · intro c member
      exact all c (List.mem_of_mem_take member)
    · intro c member
      exact all c (List.mem_of_mem_drop member)
    · intro zero
      rw [start] at zero
      exact absurd zero first
    · intro _ none
      cases none

end Layouts

section Finite

/-! ## Finite numbers -/

open Float.Model (Format UnpackedFloat)
open Float.Model.UnpackedFloat

variable {x : Float} {mantissa : Nat} {exponent : Int}

/-- A number with its sign. -/
def signed (negative : Bool) (size : Float) : Float :=
  if negative then -size else size

/-- The number that the parts of a text stand for. -/
def Written.size (written : Written) : Float :=
  realOfDecimal written.decimal.digits written.decimal.scale

/-- A text is the exact text of a number and stands for that number. -/
structure Written.Stands (written : Written) (negative : Bool) (x : Float) : Prop where
  isReal : written.IsReal
  text : exactText x = if negative then '-' :: written.text else written.text
  number : signed negative written.size = x

theorem parts_signed_finite {size : Float} (canonical : Canonical mantissa exponent)
    (fits : exponent <= 971)
    (shape : parts size = .finite .positive mantissa exponent canonical.positive) (sign : Sign) :
    parts (signed (sign == .negative) size)
      = .finite sign mantissa exponent canonical.positive := by
  cases sign with
  | positive => exact shape
  | negative =>
      change UnpackedFloat.unpack Format.binary64 (UnpackedFloat.pack Format.binary64
        (parts size).neg) = _
      rw [shape]
      exact parts_pack canonical fits .negative

theorem isReal_zero : (Written.mk ['0'] ['0'] none).IsReal := by
  have zero (c : Char) (member : c ∈ ['0']) : c.isDigit = true := by
    rw [List.mem_singleton.mp member]
    rfl
  refine ⟨zero, zero, List.cons_ne_nil _ _, fun _ => rfl, ?_⟩
  intro none
  exact absurd none (List.cons_ne_nil _ _)

theorem stands_zero {sign : Sign} (shape : parts x = .zero sign) :
    (Written.mk ['0'] ['0'] none).Stands (sign == .negative) x := by
  refine ⟨isReal_zero, ?_, ?_⟩
  · unfold exactText RealLayout.write
    rw [view_eq, shape]
    rfl
  · apply eq_of_parts
    rw [shape]
    cases sign with
    | positive => rfl
    | negative => rfl

/-- A decimal is set out as itself. -/
theorem value_significant {decimal : Decimal} (present : decimal.digits ≠ 0) :
    (exactParts (significant decimal.digits)
        (Int.ofNat (digitCount decimal.digits) - 1 + decimal.scale)).decimal.value
      = decimal.value := by
  rcases exists_significant present with ⟨count, digits⟩
  have number := Text.valueOfDigits_digitsOf decimal.digits
  have length := congrArg List.length digits
  rw [digits, Text.valueOfDigits_append_zeros] at number
  rw [List.length_append, List.length_replicate] at length
  have scale : Int.ofNat (digitCount decimal.digits) - 1 + decimal.scale + 1
      - Int.ofNat (significant decimal.digits).length = count + decimal.scale := by
    unfold digitCount
    unfold Text.digitsOf at length
    rw [length, Int.ofNat_eq_natCast, Int.ofNat_eq_natCast]
    push_cast
    ring
  have value : (decimal.digits : ℚ)
      = 10 ^ count * Text.valueOfDigits (significant decimal.digits) := by
    exact_mod_cast number.symm
  rw [value_exactParts (significant_ne_nil _), scale, Decimal.value, value,
    zpow_add₀ (by norm_num), zpow_natCast]
  ring

theorem stands_finite {sign : Sign} {positive : 0 < mantissa}
    (shape : parts x = .finite sign mantissa exponent positive) :
    (exactParts (significant (shortest mantissa exponent).digits)
        (Int.ofNat (digitCount (shortest mantissa exponent).digits) - 1
          + (shortest mantissa exponent).scale)).Stands (sign == .negative) x := by
  rcases canonical_of_parts shape with ⟨canonical, fits⟩
  have names := names_shortest canonical
  have present := digits_ne_zero canonical names
  rw [<- value_significant present] at names
  constructor
  · exact isReal_exactParts (significant_ne_nil _)
      (fun c member => isDigit_of_mem_significant present member) (head?_significant present)
  · unfold exactText RealLayout.write
    rw [view_eq, shape, text_exactParts (significant_ne_nil _)]
    dsimp only [View.ofParts]
    rw [if_neg positive.ne']
  · have size := parts_realOfDecimal (digits_ne_zero canonical names) canonical fits names
    apply eq_of_parts
    rw [shape]
    exact parts_signed_finite canonical fits size sign

/-- Every finite number has a text that stands for it. -/
theorem exists_stands {negative : Bool} (finite : view x = .finite negative mantissa exponent) :
    ∃ written : Written, written.Stands negative x := by
  rw [view_eq] at finite
  cases shape : parts x with
  | notANumber => rw [shape] at finite; cases finite
  | infinity sign => rw [shape] at finite; cases finite
  | zero sign =>
      rw [shape] at finite
      cases finite
      exact ⟨_, stands_zero shape⟩
  | finite sign mantissa' exponent' positive =>
      rw [shape] at finite
      cases finite
      exact ⟨_, stands_finite shape⟩

end Finite

end Number
end DegreeAudit
