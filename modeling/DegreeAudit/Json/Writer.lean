import DegreeAudit.Json.Basic
import DegreeAudit.Number.Layout
import DegreeAudit.Text.Quoted

namespace DegreeAudit
namespace Json

/-!
Writing a document: every item and entry on a line of its own, indented by two spaces for every
container around it. Only what has to be escaped in a string is escaped.
-/

/-- A character of a string. -/
def writeChar (c : Char) : List Char :=
  if c = '"' then ['\\', '"']
  else if c = '\\' then ['\\', '\\']
  else if c = '\n' then ['\\', 'n']
  else if c = '\r' then ['\\', 'r']
  else if c = '\t' then ['\\', 't']
  else if c = Char.ofNat 8 then ['\\', 'b']
  else if c = Char.ofNat 12 then ['\\', 'f']
  else if c.toNat < 0x20 then ['\\', 'u'] ++ Text.hexCode 4 c.toNat
  else [c]

/-- A string. -/
def writeText (text : String) : List Char :=
  '"' :: text.toList.flatMap writeChar ++ ['"']

/-- A real number: the shortest text that names it, or a word. -/
def writeReal (x : Float) : List Char :=
  match Number.view x with
  | .nan => "NaN".toList
  | .infinite true => "-Infinity".toList
  | .infinite false => "Infinity".toList
  | .finite .. => Number.exactText x

/-- A new line inside `depth` containers. -/
def newLine (depth : Nat) : List Char :=
  '\n' :: List.replicate (2 * depth) ' '

mutual

/-- A value inside `depth` containers. -/
def writeAt (depth : Nat) : Json -> List Char
  | .null => "null".toList
  | .bool true => "true".toList
  | .bool false => "false".toList
  | .int value => Text.ofInt value
  | .real value => writeReal value
  | .string value => writeText value
  | .list [] => ['[', ']']
  | .list (item :: items) =>
      '[' :: writeItems (depth + 1) (item :: items) ++ newLine depth ++ [']']
  | .object [] => [Char.ofNat 0x7B, Char.ofNat 0x7D]
  | .object (entry :: entries) =>
      Char.ofNat 0x7B :: writeEntries (depth + 1) (entry :: entries) ++ newLine depth
        ++ [Char.ofNat 0x7D]

/-- Items, each on a new line, with a comma after all but the last. -/
def writeItems (depth : Nat) : List Json -> List Char
  | [] => []
  | [item] => newLine depth ++ writeAt depth item
  | item :: items => newLine depth ++ writeAt depth item ++ ',' :: writeItems depth items

/-- Entries, each on a new line, with a comma after all but the last. -/
def writeEntries (depth : Nat) : List (String × Json) -> List Char
  | [] => []
  | [(key, value)] => newLine depth ++ writeText key ++ [':', ' '] ++ writeAt depth value
  | (key, value) :: entries =>
      newLine depth ++ writeText key ++ [':', ' '] ++ writeAt depth value
        ++ ',' :: writeEntries depth entries

end

/-- The text of a document. -/
def write (value : Json) : List Char :=
  writeAt 0 value

end Json
end DegreeAudit
