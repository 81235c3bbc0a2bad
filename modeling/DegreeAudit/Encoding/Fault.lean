import DegreeAudit.Text.Digit
import DegreeAudit.Text.Quoted

namespace DegreeAudit
namespace Encoding

/-!
What can be wrong with bytes that are to be text: which bytes, counted from the start of the
content, and why.
-/

/-- A stretch of bytes that is not text in an encoding. -/
structure Fault where
  encoding : String
  firstByte : UInt8
  start : Nat
  size : Nat
  reason : String
  deriving DecidableEq, Repr

/-- The message about a stretch of bytes. -/
def Fault.message (fault : Fault) : String :=
  let number (n : Nat) := String.ofList (Text.digitsOf n)
  let bytes :=
    if fault.size = 1 then
      "byte 0x" ++ String.ofList (Text.hexCode 2 fault.firstByte.toNat) ++ " in position "
        ++ number fault.start
    else
      "bytes in position " ++ number fault.start ++ "-" ++ number (fault.start + fault.size - 1)
  Text.quote fault.encoding ++ " codec can't decode " ++ bytes ++ ": " ++ fault.reason

/-- The character that stands for half a surrogate pair, which has no character of its own. -/
def replacement : Char := Char.ofNat 0xFFFD

/-- The character of a code. -/
def charOf (code : Nat) : Char :=
  if Nat.isValidChar code then Char.ofNat code else replacement

/-- The fault further on in the content. -/
def Fault.shift (offset : Nat) (fault : Fault) : Fault :=
  { fault with start := fault.start + offset }

end Encoding
end DegreeAudit
