import DegreeAudit.Text.CodeRange
import DegreeAudit.Text.PrintableTable

namespace DegreeAudit
namespace Text

/-!
A text between quotation marks, as messages show it. Single marks are used unless the text holds
a single mark and no double one. The mark and the backslash are written after a backslash, and
every character that is not printable is written by its code.
-/

/-- A digit of the hexadecimal notation. -/
def hexDigit (value : Nat) : Char :=
  if value < 10 then Char.ofNat (0x30 + value) else Char.ofNat (0x61 + (value - 10))

/-- A code in hexadecimal notation, filled up with zeros to a width. -/
def hexCode : (width : Nat) -> Nat -> List Char
  | 0, _ => []
  | width + 1, code => hexCode width (code / 16) ++ [hexDigit (code % 16)]

/-- Whether a character is shown as it is. -/
def isPrintable (c : Char) : Bool :=
  !inRanges unprintableRanges c.toNat

/-- The single quotation mark. -/
def singleMark : Char :=
  Char.ofNat 0x27

/-- The quotation mark a text is shown between. -/
def quoteMark (text : List Char) : Char :=
  if text.contains singleMark && !text.contains '"' then '"' else singleMark

/-- A character by its code, with as many digits as it needs out of two, four and eight. -/
def codeEscape (c : Char) : List Char :=
  if c.toNat <= 0xFF then ['\\', 'x'] ++ hexCode 2 c.toNat
  else if c.toNat <= 0xFFFF then ['\\', 'u'] ++ hexCode 4 c.toNat
  else ['\\', 'U'] ++ hexCode 8 c.toNat

/-- A character of a quoted text. -/
def quotedChar (mark c : Char) : List Char :=
  if c = mark || c = '\\' then ['\\', c]
  else if c = '\t' then ['\\', 't']
  else if c = '\n' then ['\\', 'n']
  else if c = '\r' then ['\\', 'r']
  else if isPrintable c then [c]
  else codeEscape c

/-- A text between quotation marks. -/
def quoted (text : List Char) : List Char :=
  let mark := quoteMark text
  mark :: text.flatMap (quotedChar mark) ++ [mark]

/-- A text between quotation marks. -/
def quote (text : String) : String :=
  String.ofList (quoted text.toList)

end Text
end DegreeAudit
