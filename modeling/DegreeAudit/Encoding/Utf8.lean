import DegreeAudit.Encoding.Fault

namespace DegreeAudit
namespace Encoding

/-!
Text as bytes in UTF-8. Decoding stops at the first bytes that are not text: a byte that begins no
character, a character broken off by a byte that does not continue it, or a character that the
content ends in. Forms that are longer than needed and codes beyond the last are broken off at
their second byte, and so are halves of surrogate pairs where they are not admitted.
-/

namespace Utf8

/-- The bytes of a character. -/
def encodeChar (c : Char) : List UInt8 :=
  let code := c.toNat
  let byte (n : Nat) : UInt8 := UInt8.ofNat n
  if code < 0x80 then [byte code]
  else if code < 0x800 then [byte (0xC0 + code / 64), byte (0x80 + code % 64)]
  else if code < 0x10000 then
    [byte (0xE0 + code / 4096), byte (0x80 + code / 64 % 64), byte (0x80 + code % 64)]
  else
    [
      byte (0xF0 + code / 262144), byte (0x80 + code / 4096 % 64), byte (0x80 + code / 64 % 64),
      byte (0x80 + code % 64)
    ]

/-- The bytes of a text. -/
def encode (text : List Char) : List UInt8 :=
  text.flatMap encodeChar

/-- How many bytes follow the first byte of a character, its share of the code, and the least and
the greatest second byte. -/
def leadOf (byte : Nat) : Option (Nat × Nat × Nat × Nat) :=
  if byte < 0x80 then some (0, byte, 0x80, 0xBF)
  else if byte < 0xC2 then none
  else if byte < 0xE0 then some (1, byte - 0xC0, 0x80, 0xBF)
  else if byte < 0xF0 then
    some (2, byte - 0xE0, if byte = 0xE0 then 0xA0 else 0x80, if byte = 0xED then 0x9F else 0xBF)
  else if byte < 0xF5 then
    some (3, byte - 0xF0, if byte = 0xF0 then 0x90 else 0x80, if byte = 0xF4 then 0x8F else 0xBF)
  else none

/-- What following bytes make of the share of a code. -/
inductive Continued where
  | complete (code : Nat) (rest : List UInt8)
  | broken (taken : Nat)
  | ended

/-- Reads `count` following bytes, of which the next lies between `least` and `greatest`, after
`taken` bytes of the character. -/
def continueWith : (count : Nat) -> (code least greatest taken : Nat) -> List UInt8 -> Continued
  | 0, code, _, _, _, bytes => .complete code bytes
  | _ + 1, _, _, _, _, [] => .ended
  | count + 1, code, least, greatest, taken, byte :: bytes =>
      if least <= byte.toNat && byte.toNat <= greatest then
        continueWith count (code * 64 + byte.toNat % 64) 0x80 0xBF (taken + 1) bytes
      else .broken taken

/-- The bytes after half a surrogate pair, if the bytes begin with one. -/
def afterHalf? (byte : UInt8) : List UInt8 -> Option (List UInt8)
  | second :: third :: rest =>
      if byte = 0xED && 0xA0 <= second && second <= 0xBF && 0x80 <= third && third <= 0xBF then
        some rest
      else none
  | _ => none

/-- The first character of some bytes and the bytes after it. -/
def decodeChar (byte : UInt8) (bytes : List UInt8) : Except Fault (Char × List UInt8) :=
  match leadOf byte.toNat with
  | none => .error ⟨"utf-8", byte, 0, 1, "invalid start byte"⟩
  | some (count, code, least, greatest) =>
      match continueWith count code least greatest 1 bytes with
      | .complete code rest => .ok (Char.ofNat code, rest)
      | .broken taken => .error ⟨"utf-8", byte, 0, taken, "invalid continuation byte"⟩
      | .ended => .error ⟨"utf-8", byte, 0, bytes.length + 1, "unexpected end of data"⟩

theorem length_of_continueWith {count code least greatest taken total : Nat}
    {bytes rest : List UInt8}
    (complete : continueWith count code least greatest taken bytes = .complete total rest) :
    rest.length <= bytes.length := by
  fun_induction continueWith count code least greatest taken bytes with
  | case1 => simp_all
  | case2 => simp_all
  | case3 count code least greatest taken byte bytes fits ih =>
      have shorter := ih complete
      simp only [List.length_cons]
      omega
  | case4 => simp_all

theorem length_of_decodeChar {byte : UInt8} {bytes rest : List UInt8} {c : Char}
    (decoded : decodeChar byte bytes = .ok (c, rest)) : rest.length <= bytes.length := by
  unfold decodeChar at decoded
  split at decoded
  · simp at decoded
  · split at decoded
    · rename_i complete
      simp only [Except.ok.injEq, Prod.mk.injEq] at decoded
      exact decoded.2 ▸ length_of_continueWith complete
    · simp at decoded
    · simp at decoded

/-- The first character, which may be half a surrogate pair if these are admitted. -/
def decodeNext (halves : Bool) (byte : UInt8) (bytes : List UInt8) :
    Except Fault (Char × List UInt8) :=
  match if halves then afterHalf? byte bytes else none with
  | some rest => .ok (replacement, rest)
  | none => decodeChar byte bytes

theorem length_of_decodeNext {halves : Bool} {byte : UInt8} {bytes rest : List UInt8} {c : Char}
    (decoded : decodeNext halves byte bytes = .ok (c, rest)) : rest.length <= bytes.length := by
  unfold decodeNext at decoded
  split at decoded
  · rename_i half
    simp only [Except.ok.injEq, Prod.mk.injEq] at decoded
    cases halves with
    | false => simp at half
    | true =>
        unfold afterHalf? at half
        grind
  · exact length_of_decodeChar decoded

/-- The text that bytes hold, the first of which stands at `offset` in the content; halves of
surrogate pairs are admitted or not. -/
def decodeFrom (halves : Bool) (offset : Nat) (bytes : List UInt8) :
    Except Fault (List Char) :=
  match bytes with
  | [] => .ok []
  | byte :: following =>
      match _decoded : decodeNext halves byte following with
      | .error fault => .error (fault.shift offset)
      | .ok (c, rest) =>
          match decodeFrom halves (offset + (following.length + 1 - rest.length)) rest with
          | .error fault => .error fault
          | .ok text => .ok (c :: text)
termination_by bytes.length
decreasing_by
  have shorter := length_of_decodeNext _decoded
  simp only [List.length_cons]
  omega

/-- The text that bytes hold. -/
def decode (bytes : List UInt8) : Except Fault (List Char) :=
  decodeFrom false 0 bytes

/-- The text that bytes hold, with the replacement character for halves of surrogate pairs. -/
def decodeWithHalves (bytes : List UInt8) : Except Fault (List Char) :=
  decodeFrom true 0 bytes

end Utf8
end Encoding
end DegreeAudit
