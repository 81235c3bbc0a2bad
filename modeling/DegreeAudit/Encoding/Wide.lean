import DegreeAudit.Encoding.Fault

namespace DegreeAudit
namespace Encoding

/-!
Text as bytes in UTF-16 and UTF-32, with the low byte or the high byte of a unit first. Half a
surrogate pair has no character of its own and is read as the replacement character.
-/

/-- Which byte of a unit comes first. -/
inductive ByteOrder where
  | lowFirst
  | highFirst
  deriving DecidableEq, Repr

/-- The end of the name of an encoding. -/
def ByteOrder.suffix : ByteOrder -> String
  | .lowFirst => "-le"
  | .highFirst => "-be"

/-- The value of the bytes of a unit. -/
def ByteOrder.unit (order : ByteOrder) (bytes : List UInt8) : Nat :=
  let fromHigh := match order with
    | .lowFirst => bytes.reverse
    | .highFirst => bytes
  fromHigh.foldl (fun value byte => value * 256 + byte.toNat) 0

namespace Utf16

/-- The units of bytes, of which the first stands at `offset`; the last byte of an odd count is
at fault. -/
def unitsFrom (order : ByteOrder) (offset : Nat) : List UInt8 -> Except Fault (List Nat)
  | [] => .ok []
  | [byte] => .error ⟨"utf-16" ++ order.suffix, byte, offset, 1, "truncated data"⟩
  | first :: second :: rest =>
      match unitsFrom order (offset + 2) rest with
      | .error fault => .error fault
      | .ok units => .ok (order.unit [first, second] :: units)

/-- Whether a unit is the first of a pair. -/
def isHigh (unit : Nat) : Bool := 0xD800 <= unit && unit < 0xDC00

/-- Whether a unit is the second of a pair. -/
def isLow (unit : Nat) : Bool := 0xDC00 <= unit && unit < 0xE000

/-- The code of a pair. -/
def pairCode (high low : Nat) : Nat := 0x10000 + (high - 0xD800) * 1024 + (low - 0xDC00)

/-- The characters of units. -/
def charsOf : List Nat -> List Char
  | [] => []
  | high :: low :: rest =>
      if isHigh high && isLow low then charOf (pairCode high low) :: charsOf rest
      else charOf high :: charsOf (low :: rest)
  | [unit] => [charOf unit]

/-- The text that bytes hold after the first `offset` bytes of the content. -/
def decode (order : ByteOrder) (offset : Nat) (bytes : List UInt8) : Except Fault (List Char) :=
  (unitsFrom order offset bytes).map charsOf

end Utf16

namespace Utf32

/-- The text that bytes hold, of which the first stands at `offset`. -/
def decode (order : ByteOrder) (offset : Nat) : List UInt8 -> Except Fault (List Char)
  | [] => .ok []
  | a :: b :: c :: d :: rest =>
      let code := order.unit [a, b, c, d]
      if 0x110000 <= code then
        .error ⟨"utf-32" ++ order.suffix, a, offset, 4, "code point not in range(0x110000)"⟩
      else
        match decode order (offset + 4) rest with
        | .error fault => .error fault
        | .ok text => .ok (charOf code :: text)
  | byte :: rest =>
      .error ⟨"utf-32" ++ order.suffix, byte, offset, rest.length + 1, "truncated data"⟩

end Utf32
end Encoding
end DegreeAudit
