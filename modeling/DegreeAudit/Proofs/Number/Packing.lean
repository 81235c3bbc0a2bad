import DegreeAudit.Proofs.Number.Order
import DegreeAudit.Proofs.Number.Rounding

namespace DegreeAudit
namespace Number

/-!
# Numbers and their bits

The parts of a number, in which it is calculated with, say the same as its view, which is read off
its bits.  A number is known by its view, and every mantissa and exponent that belong together are
those of a number.
-/

open Float.Model (Format UnpackedFloat)
open Float.Model.UnpackedFloat

section Bits

/-! ## The three fields -/

theorem toNat_packComponents (sign : Sign) (exponent : BitVec 11) (mantissa : BitVec 52) :
    (packComponents Format.binary64 sign exponent mantissa).toNat
      = (sign.toBitVec.toNat * 2 ^ 11 + exponent.toNat) * 2 ^ 52 + mantissa.toNat := by
  change ((sign.toBitVec ++ exponent) ++ mantissa).toNat = _
  rw [BitVec.toNat_append, BitVec.toNat_append, <- Nat.shiftLeft_add_eq_or_of_lt mantissa.isLt,
    <- Nat.shiftLeft_add_eq_or_of_lt exponent.isLt, Nat.shiftLeft_eq, Nat.shiftLeft_eq]

variable (bits : BitVec 64)

theorem toNat_unpackMantissa :
    (@unpackMantissa Format.binary64 bits).toNat = bits.toNat % 2 ^ 52 := by
  rfl

theorem toNat_unpackExponent :
    (@unpackExponent Format.binary64 bits).toNat = bits.toNat / 2 ^ 52 % 2 ^ 11 := by
  rw [<- Nat.shiftRight_eq_div_pow]
  rfl

theorem toNat_unpackSign :
    (@unpackSign Format.binary64 bits).toNat = bits.toNat / 2 ^ 63 := by
  have toNat : (@unpackSign Format.binary64 bits).toNat = bits.toNat / 2 ^ 63 % 2 ^ 1 := by
    rw [<- Nat.shiftRight_eq_div_pow]
    rfl
  have size : bits.toNat < 2 ^ 64 := bits.isLt
  omega

theorem toBitVec_ofBitVec (bit : BitVec 1) : (Sign.ofBitVec bit).toBitVec = bit := by
  revert bit
  decide

/-- The three fields together are the bits. -/
theorem packComponents_unpack :
    packComponents Format.binary64 (Sign.ofBitVec (@unpackSign Format.binary64 bits))
      (@unpackExponent Format.binary64 bits) (@unpackMantissa Format.binary64 bits) = bits := by
  apply BitVec.toNat_inj.mp
  rw [toNat_packComponents, toBitVec_ofBitVec, toNat_unpackSign, toNat_unpackExponent,
    toNat_unpackMantissa]
  omega

theorem unpackSign_packComponents (sign : Sign) (exponent : BitVec 11) (mantissa : BitVec 52) :
    Sign.ofBitVec (@unpackSign Format.binary64
      (packComponents Format.binary64 sign exponent mantissa)) = sign := by
  have field : @unpackSign Format.binary64 (packComponents Format.binary64 sign exponent mantissa)
      = sign.toBitVec := by
    apply BitVec.toNat_inj.mp
    have := exponent.isLt
    have := mantissa.isLt
    rw [toNat_unpackSign, toNat_packComponents]
    omega
  rw [field]
  cases sign <;> rfl

theorem toNat_append_one (mantissa : BitVec 52) :
    (1#1 ++ mantissa).toNat = leastMantissa + mantissa.toNat := by
  rw [BitVec.toNat_append, <- Nat.shiftLeft_add_eq_or_of_lt mantissa.isLt, Nat.shiftLeft_eq]
  rfl

end Bits

section Finite

/-! ## Finite numbers -/

variable {mantissa : Nat} {exponent : Int}

/-- The field of the exponent; it is zero for a mantissa that is short for lack of exponents. -/
def exponentField (mantissa : Nat) (exponent : Int) : Nat :=
  if leastMantissa <= mantissa then (exponent + 1075).toNat else 0

theorem pack_finite (canonical : Canonical mantissa exponent) (fits : exponent <= 971)
    (sign : Sign) :
    UnpackedFloat.pack Format.binary64 (.finite sign mantissa exponent canonical.positive)
      = packComponents Format.binary64 sign (BitVec.ofNat 11 (exponentField mantissa exponent))
        (BitVec.ofNat 52 mantissa) := by
  have biased : (exponent + Format.binary64.exponentBias
      + Format.binary64.mantissaBitsWithoutImplicit).toNat = (exponent + 1075).toNat := by
    congr 1
    change exponent + 1023 + 52 = exponent + 1075
    omega
  have small : ¬ 2 ^ Format.binary64.exponentBits <= (exponent + 1075).toNat + 1 := by
    change ¬ 2 ^ 11 <= _
    omega
  have places : mantissa.log2 + 1 = Format.binary64.mantissaBits ↔ leastMantissa <= mantissa := by
    have := canonical.log2_le
    change mantissa.log2 + 1 = 53 ↔ 2 ^ 52 <= mantissa
    rw [<- Nat.le_log2 canonical.positive.ne']
    omega
  unfold UnpackedFloat.pack exponentField
  dsimp only
  rw [biased, if_neg small]
  by_cases full : leastMantissa <= mantissa
  · rw [if_pos (places.mpr full), if_pos full]
  · rw [if_neg (fun same => full (places.mp same)), if_neg full]

theorem finite_eq {sign : Sign} {mantissa other : Nat} {exponent next : Int}
    (mantissas : mantissa = other) (exponents : exponent = next) (positive : 0 < mantissa)
    (positive' : 0 < other) :
    UnpackedFloat.finite sign mantissa exponent positive
      = UnpackedFloat.finite sign other next positive' := by
  subst mantissas exponents
  rfl

theorem unpack_packComponents (sign : Sign) {exponent : BitVec 11} (inner : exponent ≠ -1#11)
    (mantissa : BitVec 52) :
    UnpackedFloat.unpack Format.binary64 (packComponents Format.binary64 sign exponent mantissa)
      = if exponent = 0#11 then
          if present : mantissa = 0#52 then .zero sign
          else .finite sign mantissa.toNat leastExponent
            (by simpa [BitVec.toNat_pos, BitVec.pos_iff_ne_zero])
        else .finite sign (leastMantissa + mantissa.toNat) (exponent.toNat - 1075)
          (Nat.add_pos_left leastMantissa_pos _) := by
  have mantissas : @unpackMantissa Format.binary64
      (packComponents Format.binary64 sign exponent mantissa) = mantissa :=
    unpackMantissa_packComponents
  have exponents : @unpackExponent Format.binary64
      (packComponents Format.binary64 sign exponent mantissa) = exponent :=
    unpackExponent_packComponents
  have signs := unpackSign_packComponents sign exponent mantissa
  generalize packComponents Format.binary64 sign exponent mantissa = bits
    at mantissas exponents signs ⊢
  subst mantissas exponents signs
  have bias : ((Format.binary64.exponentBias : Nat) : Int) + ((52 : Nat) : Int) = 1075 := rfl
  unfold UnpackedFloat.unpack
  dsimp only
  rw [if_neg inner]
  by_cases first : @unpackExponent Format.binary64 bits = 0#11
  · rw [if_pos first, if_pos first]
    by_cases none : @unpackMantissa Format.binary64 bits = 0#52
    · rw [dif_pos none, dif_pos none]
    · rw [dif_neg none, dif_neg none]
      exact finite_eq rfl (by rw [first, bias]; rfl) _ _
  · rw [if_neg first, if_neg first]
    exact finite_eq (toNat_append_one _) (by rw [bias]) _ _

/-- What is packed of a finite number is unpacked again. -/
theorem unpack_pack (canonical : Canonical mantissa exponent) (fits : exponent <= 971)
    (sign : Sign) :
    UnpackedFloat.unpack Format.binary64
        (UnpackedFloat.pack Format.binary64 (.finite sign mantissa exponent canonical.positive))
      = .finite sign mantissa exponent canonical.positive := by
  have least := canonical.least
  unfold leastExponent at least
  have bound : exponentField mantissa exponent < 2 ^ 11 - 1 := by
    unfold exponentField
    split <;> omega
  have field : (BitVec.ofNat 11 (exponentField mantissa exponent)).toNat
      = exponentField mantissa exponent := by
    rw [BitVec.toNat_ofNat, Nat.mod_eq_of_lt (by omega)]
  have inner : BitVec.ofNat 11 (exponentField mantissa exponent) ≠ -1#11 := by
    intro last
    rw [last] at field
    exact absurd field.symm bound.ne
  rw [pack_finite canonical fits, unpack_packComponents sign inner]
  by_cases full : leastMantissa <= mantissa
  · have large : exponentField mantissa exponent = (exponent + 1075).toNat := if_pos full
    have fraction : leastMantissa + mantissa % 2 ^ 52 = mantissa := by
      have short := canonical.short
      rw [leastMantissa_eq] at full short ⊢
      omega
    rw [if_neg]
    · refine finite_eq ?_ ?_ _ _
      · rw [BitVec.toNat_ofNat, fraction]
      · rw [field, large]
        omega
    · intro first
      rw [first, large] at field
      change 0 = _ at field
      omega
  · have small : exponentField mantissa exponent = 0 := if_neg full
    have fraction : mantissa % 2 ^ 52 = mantissa :=
      Nat.mod_eq_of_lt (Nat.lt_of_not_le full)
    rw [small, if_pos rfl, dif_neg]
    · refine finite_eq ?_ (canonical.full.resolve_left full).symm _ _
      rw [BitVec.toNat_ofNat, fraction]
    · intro none
      have := congrArg BitVec.toNat none
      rw [BitVec.toNat_ofNat, fraction] at this
      exact canonical.positive.ne' this

theorem pack_unpack_packComponents (sign : Sign) {exponent : BitVec 11}
    (inner : exponent ≠ -1#11) (mantissa : BitVec 52) :
    UnpackedFloat.pack Format.binary64 (UnpackedFloat.unpack Format.binary64
        (packComponents Format.binary64 sign exponent mantissa))
      = packComponents Format.binary64 sign exponent mantissa := by
  have size : mantissa.toNat < leastMantissa := mantissa.isLt
  rw [unpack_packComponents sign inner]
  by_cases first : exponent = 0#11
  · rw [if_pos first]
    by_cases none : mantissa = 0#52
    · rw [dif_pos none, first, none]
      rfl
    · rw [dif_neg none]
      have positive : 0 < mantissa.toNat := by
        simpa [BitVec.toNat_pos, BitVec.pos_iff_ne_zero] using none
      have canonical : Canonical mantissa.toNat leastExponent :=
        ⟨positive, by omega, le_refl _, Or.inr rfl⟩
      rw [pack_finite canonical (by decide), exponentField, if_neg (by omega), first]
      rw [BitVec.ofNat_toNat, BitVec.setWidth_eq]
  · rw [if_neg first]
    have later : exponent.toNat ≠ 0 := fun zero => first (BitVec.toNat_inj.mp zero)
    have before : exponent.toNat ≠ 2 ^ 11 - 1 := fun most => inner (BitVec.toNat_inj.mp most)
    have below := exponent.isLt
    have canonical : Canonical (leastMantissa + mantissa.toNat) (exponent.toNat - 1075) :=
      ⟨by omega, by omega, by unfold leastExponent; omega, Or.inl (Nat.le_add_right _ _)⟩
    rw [pack_finite canonical (by omega), exponentField, if_pos (Nat.le_add_right _ _)]
    have fraction : BitVec.ofNat 52 (leastMantissa + mantissa.toNat) = mantissa := by
      apply BitVec.toNat_inj.mp
      rw [BitVec.toNat_ofNat]
      rw [leastMantissa_eq] at size ⊢
      omega
    rw [fraction, Int.sub_add_cancel, Int.toNat_natCast, BitVec.ofNat_toNat, BitVec.setWidth_eq]

/-- The bits of a number are packed of its parts. -/
theorem pack_unpack {bits : BitVec 64} (valid : Format.binary64.Valid bits) :
    UnpackedFloat.pack Format.binary64 (UnpackedFloat.unpack Format.binary64 bits) = bits := by
  have whole := packComponents_unpack bits
  by_cases last : @unpackExponent Format.binary64 bits = -1#11
  · unfold UnpackedFloat.unpack
    dsimp only
    rw [if_pos last]
    rw [last] at whole
    by_cases infinite : @unpackMantissa Format.binary64 bits = 0#52
    · rw [if_pos infinite]
      rw [infinite] at whole
      exact whole
    · rw [if_neg infinite]
      exact (valid.eq_packedNaN last infinite).symm
  · rw [<- whole]
    exact pack_unpack_packComponents _ last _

end Finite

section Parts

/-! ## Parts and views -/

/-- A number is known by its parts. -/
theorem eq_of_parts {x y : Float} (same : parts x = parts y) : x = y := by
  rcases x with ⟨⟨left, leftValid⟩⟩
  rcases y with ⟨⟨right, rightValid⟩⟩
  have bits : left.toBitVec = right.toBitVec := by
    rw [<- pack_unpack leftValid, <- pack_unpack rightValid]
    exact congrArg (UnpackedFloat.pack Format.binary64) same
  obtain rfl : left = right := UInt64.toBitVec_inj.mp bits
  rfl

/-- A mantissa and an exponent that belong together are those of a number. -/
theorem parts_pack {mantissa : Nat} {exponent : Int} (canonical : Canonical mantissa exponent)
    (fits : exponent <= 971) (sign : Sign) :
    parts (.ofModel (.pack (.finite sign mantissa exponent canonical.positive)))
      = .finite sign mantissa exponent canonical.positive :=
  unpack_pack canonical fits sign

/-- How parts are seen. -/
def View.ofParts : UnpackedFloat -> View
  | .notANumber => .nan
  | .infinity sign => .infinite (sign == .negative)
  | .zero sign => .finite (sign == .negative) 0 leastExponent
  | .finite sign mantissa exponent _ => .finite (sign == .negative) mantissa exponent

theorem isNegative_unpackSign (bits : BitVec 64) :
    (Sign.ofBitVec (@unpackSign Format.binary64 bits) == .negative)
      = decide (2 ^ 63 <= bits.toNat) := by
  have size : bits.toNat < 2 ^ 64 := bits.isLt
  have field := toNat_unpackSign bits
  unfold Sign.ofBitVec
  by_cases positive : @unpackSign Format.binary64 bits = 0#1
  · rw [if_pos positive]
    rw [positive] at field
    change 0 = _ at field
    exact (decide_eq_false (by omega)).symm
  · rw [if_neg positive]
    have : (@unpackSign Format.binary64 bits).toNat ≠ 0 := fun zero =>
      positive (BitVec.toNat_inj.mp zero)
    exact (decide_eq_true (by omega)).symm

theorem view_fields (x : Float) :
    view x
      = if x.toBits.toNat / 2 ^ 52 % 2 ^ 11 = 2 ^ 11 - 1 then
          if x.toBits.toNat % 2 ^ 52 = 0 then .infinite (decide (2 ^ 63 <= x.toBits.toNat))
          else .nan
        else if x.toBits.toNat / 2 ^ 52 % 2 ^ 11 = 0 then
          .finite (decide (2 ^ 63 <= x.toBits.toNat)) (x.toBits.toNat % 2 ^ 52) leastExponent
        else
          .finite (decide (2 ^ 63 <= x.toBits.toNat)) (leastMantissa + x.toBits.toNat % 2 ^ 52)
            (leastExponent + (Int.ofNat (x.toBits.toNat / 2 ^ 52 % 2 ^ 11) - 1)) := by
  rfl

/-- A number is seen as it is calculated with. -/
theorem view_eq (x : Float) : view x = View.ofParts (parts x) := by
  have sign := isNegative_unpackSign x.toModel.toBits.toBitVec
  have last : x.toBits.toNat / 2 ^ 52 % 2 ^ 11 = 2 ^ 11 - 1
      ↔ @unpackExponent Format.binary64 x.toModel.toBits.toBitVec = -1#11 := by
    rw [<- BitVec.toNat_inj, toNat_unpackExponent]
    rfl
  have first : x.toBits.toNat / 2 ^ 52 % 2 ^ 11 = 0
      ↔ @unpackExponent Format.binary64 x.toModel.toBits.toBitVec = 0#11 := by
    rw [<- BitVec.toNat_inj, toNat_unpackExponent]
    rfl
  have none : x.toBits.toNat % 2 ^ 52 = 0
      ↔ @unpackMantissa Format.binary64 x.toModel.toBits.toBitVec = 0#52 := by
    rw [<- BitVec.toNat_inj, toNat_unpackMantissa]
    rfl
  have exponent : leastExponent + (Int.ofNat (x.toBits.toNat / 2 ^ 52 % 2 ^ 11) - 1)
      = (@unpackExponent Format.binary64 x.toModel.toBits.toBitVec).toNat
        - (((Format.binary64.exponentBias : Nat) : Int) + ((52 : Nat) : Int)) := by
    rw [toNat_unpackExponent]
    change -1074 + (((x.toBits.toNat / 2 ^ 52 % 2 ^ 11 : Nat) : Int) - 1)
      = ((x.toBits.toNat / 2 ^ 52 % 2 ^ 11 : Nat) : Int) - (1023 + 52)
    omega
  unfold parts Float.Model.unpack UnpackedFloat.unpack
  dsimp only
  rw [view_fields]
  by_cases special : x.toBits.toNat / 2 ^ 52 % 2 ^ 11 = 2 ^ 11 - 1
  · rw [if_pos special, if_pos (last.mp special)]
    by_cases infinite : x.toBits.toNat % 2 ^ 52 = 0
    · rw [if_pos infinite, if_pos (none.mp infinite)]
      exact congrArg View.infinite sign.symm
    · rw [if_neg infinite, if_neg (fun same => infinite (none.mpr same))]
      rfl
  · rw [if_neg special, if_neg (fun same => special (last.mpr same))]
    by_cases small : x.toBits.toNat / 2 ^ 52 % 2 ^ 11 = 0
    · rw [if_pos small, if_pos (first.mp small)]
      by_cases zero : x.toBits.toNat % 2 ^ 52 = 0
      · rw [dif_pos (none.mp zero), zero]
        exact congrArg (fun negative => View.finite negative 0 leastExponent) sign.symm
      · rw [dif_neg (fun same => zero (none.mpr same)), first.mp small]
        exact congrArg (fun negative => View.finite negative _ leastExponent) sign.symm
    · rw [if_neg small, if_neg (fun same => small (first.mpr same)), exponent]
      have whole := toNat_append_one (@unpackMantissa Format.binary64 x.toModel.toBits.toBitVec)
      change _ = View.finite _ (BitVec.toNat (1#1 ++ _)) _
      rw [whole]
      exact congrArg (fun negative => View.finite negative _ _) sign.symm

/-- The mantissa and the exponent of a number belong together. -/
theorem canonical_of_parts {x : Float} {sign : Sign} {mantissa : Nat} {exponent : Int}
    {positive : 0 < mantissa} (shape : parts x = .finite sign mantissa exponent positive) :
    Canonical mantissa exponent ∧ exponent <= 971 := by
  have seen := view_eq x
  rw [shape] at seen
  rw [view_fields] at seen
  change _ = View.finite _ mantissa exponent at seen
  split at seen
  · split at seen
    · cases seen
    · cases seen
  · split at seen
    · rcases View.finite.inj seen with ⟨-, rfl, rfl⟩
      refine ⟨⟨positive, ?_, le_refl _, Or.inr rfl⟩, by decide⟩
      rw [leastMantissa_eq]
      omega
    · rcases View.finite.inj seen with ⟨-, rfl, rfl⟩
      simp only [Int.ofNat_eq_natCast]
      refine ⟨⟨positive, ?_, by omega, Or.inl (Nat.le_add_right _ _)⟩, ?_⟩
      · rw [leastMantissa_eq]
        omega
      · unfold leastExponent
        omega

end Parts

end Number
end DegreeAudit
