import DegreeAudit.Encoding.Utf8

namespace DegreeAudit
namespace Encoding
namespace Utf8

/-!
# Bytes that are decoded again

The bytes of a text are decoded to that text.  Every character is decoded by itself, since its
first byte says how many bytes follow.
-/

theorem toNat_ofNat_of_lt {number : Nat} (small : number < 256) :
    (UInt8.ofNat number).toNat = number :=
  Nat.mod_eq_of_lt small

theorem leadOf_two {share : Nat} (least : 2 <= share) (most : share < 32) :
    leadOf (0xC0 + share) = some (1, share, 0x80, 0xBF) := by
  unfold leadOf
  rw [if_neg (by omega), if_neg (by omega), if_pos (by omega), Nat.add_sub_cancel_left]

theorem leadOf_three {share : Nat} (most : share < 16) :
    leadOf (0xE0 + share)
      = some (2, share, if 0xE0 + share = 0xE0 then 0xA0 else 0x80,
          if 0xE0 + share = 0xED then 0x9F else 0xBF) := by
  unfold leadOf
  rw [if_neg (by omega), if_neg (by omega), if_neg (by omega), if_pos (by omega),
    Nat.add_sub_cancel_left]

theorem leadOf_four {share : Nat} (most : share < 5) :
    leadOf (0xF0 + share)
      = some (3, share, if 0xF0 + share = 0xF0 then 0x90 else 0x80,
          if 0xF0 + share = 0xF4 then 0x8F else 0xBF) := by
  unfold leadOf
  rw [if_neg (by omega), if_neg (by omega), if_neg (by omega), if_neg (by omega),
    if_pos (by omega), Nat.add_sub_cancel_left]

/-- A byte that may follow adds six bits to the code. -/
theorem continueWith_ofNat {count code least greatest taken number : Nat} {bytes : List UInt8}
    (small : number < 256) (fits : least <= number ∧ number <= greatest) :
    continueWith (count + 1) code least greatest taken (UInt8.ofNat number :: bytes)
      = continueWith count (code * 64 + number % 64) 0x80 0xBF (taken + 1) bytes := by
  rw [continueWith, toNat_ofNat_of_lt small, if_pos (by simpa using fits)]

/-- A first byte and the bytes that complete its code give the character of the code. -/
theorem decodeChar_ofNat {first count code least greatest : Nat} {c : Char}
    {following rest : List UInt8} (small : first < 256)
    (lead : leadOf first = some (count, code, least, greatest))
    (complete : continueWith count code least greatest 1 following = .complete c.toNat rest) :
    decodeChar (UInt8.ofNat first) following = .ok (c, rest) := by
  unfold decodeChar
  rw [toNat_ofNat_of_lt small, lead]
  dsimp only
  rw [complete]
  dsimp only
  rw [Char.ofNat_toNat]

/-- A character is decoded from its bytes, whatever follows them. -/
theorem decodeChar_encodeChar (c : Char) (rest : List UInt8) :
    ∃ byte following, encodeChar c ++ rest = byte :: following
      ∧ decodeChar byte following = .ok (c, rest) := by
  have valid : c.toNat < 0xD800 ∨ 0xDFFF < c.toNat ∧ c.toNat < 0x110000 := c.valid
  unfold encodeChar
  dsimp only
  by_cases one : c.toNat < 0x80
  · rw [if_pos one, List.cons_append]
    exact ⟨_, _, rfl, decodeChar_ofNat (by omega) (if_pos one) rfl⟩
  by_cases two : c.toNat < 0x800
  · rw [if_neg one, if_pos two]
    simp only [List.cons_append, List.nil_append]
    refine ⟨_, _, rfl, decodeChar_ofNat (by omega) (leadOf_two (by omega) (by omega)) ?_⟩
    have whole : c.toNat / 64 * 64 + (0x80 + c.toNat % 64) % 64 = c.toNat := by omega
    rw [continueWith_ofNat (by omega) (by omega), whole]
    rfl
  by_cases three : c.toNat < 0x10000
  · rw [if_neg one, if_neg two, if_pos three]
    simp only [List.cons_append, List.nil_append]
    refine ⟨_, _, rfl, decodeChar_ofNat (by omega) (leadOf_three (by omega)) ?_⟩
    have whole : (c.toNat / 4096 * 64 + (0x80 + c.toNat / 64 % 64) % 64) * 64
        + (0x80 + c.toNat % 64) % 64 = c.toNat := by omega
    rw [continueWith_ofNat (by omega) (by constructor <;> split <;> omega),
      continueWith_ofNat (by omega) (by omega), whole]
    rfl
  · rw [if_neg one, if_neg two, if_neg three]
    simp only [List.cons_append, List.nil_append]
    refine ⟨_, _, rfl, decodeChar_ofNat (by omega) (leadOf_four (by omega)) ?_⟩
    have whole : ((c.toNat / 262144 * 64 + (0x80 + c.toNat / 4096 % 64) % 64) * 64
        + (0x80 + c.toNat / 64 % 64) % 64) * 64 + (0x80 + c.toNat % 64) % 64 = c.toNat := by
      omega
    rw [continueWith_ofNat (by omega) (by constructor <;> split <;> omega),
      continueWith_ofNat (by omega) (by omega), continueWith_ofNat (by omega) (by omega), whole]
    rfl

theorem decodeFrom_encode (offset : Nat) (text : List Char) :
    decodeFrom false offset (encode text) = .ok text := by
  induction text generalizing offset with
  | nil =>
      unfold encode decodeFrom
      rfl
  | cons c text inductionHypothesis =>
      rcases decodeChar_encodeChar c (encode text) with ⟨byte, following, bytes, decoded⟩
      have next : decodeNext false byte following = .ok (c, encode text) := decoded
      have split : encode (c :: text) = byte :: following := bytes
      rw [split]
      unfold decodeFrom
      split
      · rename_i failed
        rw [next] at failed
        cases failed
      · rename_i first rest succeeded
        rw [next] at succeeded
        rcases Prod.mk.inj (Except.ok.inj succeeded) with ⟨rfl, rfl⟩
        rw [inductionHypothesis]

/-- The bytes of a text are decoded to that text. -/
theorem decode_encode (text : List Char) : decode (encode text) = .ok text :=
  decodeFrom_encode 0 text

end Utf8
end Encoding
end DegreeAudit
