import DegreeAudit.Encoding.Fault
import DegreeAudit.Number.Reader

namespace DegreeAudit
namespace Json

/-!
Why a text is not a document. Most faults have a place: a line and a column, both from one, and an
offset from zero, all in characters.
-/

/-- What a document is missing or has too much of. -/
inductive Reason where
  | byteOrderMark
  | value
  | name
  | colon
  | comma
  | stringEnd
  | controlCharacter
  | escape
  | codeEscape
  | extraData
  deriving DecidableEq, Repr

/-- The values that hold others. -/
inductive Container where
  | list
  | object
  deriving DecidableEq, Repr

/-- A place in a text. -/
structure Place where
  line : Nat
  column : Nat
  offset : Nat
  deriving DecidableEq, Repr

/-- Why a text or some bytes are not a document. -/
inductive Fault where
  | malformed (reason : Reason) (place : Place)
  | tooManyDigits (count : Nat)
  | tooDeep (container : Container)
  | notText (fault : Encoding.Fault)
  deriving DecidableEq, Repr

/-- The wording of a reason. -/
def Reason.message : Reason -> String
  | .byteOrderMark => "Unexpected UTF-8 BOM (decode using utf-8-sig)"
  | .value => "Expecting value"
  | .name => "Expecting property name enclosed in double quotes"
  | .colon => "Expecting ':' delimiter"
  | .comma => "Expecting ',' delimiter"
  | .stringEnd => "Unterminated string starting at"
  | .controlCharacter => "Invalid control character at"
  | .escape => "Invalid \\escape"
  | .codeEscape => "Invalid \\uXXXX escape"
  | .extraData => "Extra data"

/-- A number in a message. -/
def number (n : Nat) : String :=
  String.ofList (Text.digitsOf n)

/-- The wording of a fault. -/
def Fault.message : Fault -> String
  | .malformed reason place =>
      reason.message ++ ": line " ++ number place.line ++ " column " ++ number place.column
        ++ " (char " ++ number place.offset ++ ")"
  | .tooManyDigits count => Number.tooManyDigitsMessage count
  | .tooDeep .list =>
      "maximum recursion depth exceeded while decoding a JSON array from a unicode string"
  | .tooDeep .object =>
      "maximum recursion depth exceeded while decoding a JSON object from a unicode string"
  | .notText fault => fault.message

/-- The place of the character at an offset. -/
def placeOf (text : List Char) (offset : Nat) : Place :=
  let before := text.take offset
  {
    line := before.count '\n' + 1
    column := (before.reverse.takeWhile (fun c => c != '\n')).length + 1
    offset
  }

end Json
end DegreeAudit
