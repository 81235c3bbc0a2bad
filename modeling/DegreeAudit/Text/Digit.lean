import DegreeAudit.Text.Blank

namespace DegreeAudit
namespace Text

/-!
Decimal digits. The digits of every script are known, after version 14 of the Unicode character
database; they stand in runs of ten from the zero upwards. Where only the digits `0` to `9` are
meant, the core test on characters is used.
-/

/-- The code points of the zeros of all scripts, in ascending order. -/
def zeroCodes : List Nat :=
  [
    0x30, 0x660, 0x6F0, 0x7C0, 0x966, 0x9E6, 0xA66, 0xAE6, 0xB66, 0xBE6, 0xC66, 0xCE6, 0xD66,
    0xDE6, 0xE50, 0xED0, 0xF20, 0x1040, 0x1090, 0x17E0, 0x1810, 0x1946, 0x19D0, 0x1A80, 0x1A90,
    0x1B50, 0x1BB0, 0x1C40, 0x1C50, 0xA620, 0xA8D0, 0xA900, 0xA9D0, 0xA9F0, 0xAA50, 0xABF0,
    0xFF10, 0x104A0, 0x10D30, 0x11066, 0x110F0, 0x11136, 0x111D0, 0x112F0, 0x11450, 0x114D0,
    0x11650, 0x116C0, 0x11730, 0x118E0, 0x11950, 0x11C50, 0x11D50, 0x11DA0, 0x16A60, 0x16AC0,
    0x16B50, 0x1D7CE, 0x1D7D8, 0x1D7E2, 0x1D7EC, 0x1D7F6, 0x1E140, 0x1E2F0, 0x1E950, 0x1FBF0
  ]

/-- The value of a code point that stands in the run of ten above one of the zeros. -/
def digitAbove : List Nat -> Nat -> Option Nat
  | [], _ => none
  | least :: others, code =>
      if code < least then none
      else if code < least + 10 then some (code - least)
      else digitAbove others code

/-- The value of a decimal digit of any script. -/
def digitValue? (c : Char) : Option Nat :=
  digitAbove zeroCodes c.toNat

/-- Whether a character is a decimal digit of some script. -/
def isDecimalDigit (c : Char) : Bool :=
  (digitValue? c).isSome

/-- The digit `0` to `9` of a value below ten. -/
def digitChar (value : Nat) : Char :=
  Char.ofNat (0x30 + value)

/-- The number that the digits `0` to `9` of a text write, read from the left. -/
def valueOfDigits (digits : List Char) : Nat :=
  digits.foldl (fun value digit => 10 * value + (digit.toNat - 0x30)) 0

/-- The text with every decimal digit written as one of `0` to `9`. -/
def plainDigits (text : List Char) : List Char :=
  text.map fun c =>
    match digitValue? c with
    | some value => digitChar value
    | none => c

/-- The decimal digits of a number. -/
def digitsOf (number : Nat) : List Char :=
  Nat.toDigits 10 number

/-- A whole number in decimal notation. -/
def ofInt : Int -> List Char
  | .ofNat number => digitsOf number
  | .negSucc number => '-' :: digitsOf (number + 1)

end Text
end DegreeAudit
