import DegreeAudit.Json.Basic
import DegreeAudit.Number.Layout
import DegreeAudit.Number.Reader
import DegreeAudit.Text.Quoted

namespace DegreeAudit
namespace Json

/-!
Values of a document as plain text, the way they stand in messages and where a text is expected
and something else is given. A text stands for itself; inside a list or an object it is quoted. A
whole number with too many digits is not written, and a value that holds one has no text.
-/

mutual

/-- A value inside a message. -/
def shown? : Json -> Option (List Char)
  | .null => some "None".toList
  | .bool true => some "True".toList
  | .bool false => some "False".toList
  | .int value =>
      if Number.mostDigits < Number.digitCount value.natAbs then none
      else some (Text.ofInt value)
  | .real value => some (Number.exactText value)
  | .string value => some (Text.quoted value.toList)
  | .list items => do
      let inside <- shownItems? items
      some ('[' :: inside ++ [']'])
  | .object entries => do
      let inside <- shownEntries? entries
      some (Char.ofNat 0x7B :: inside ++ [Char.ofNat 0x7D])

/-- The items of a list, with a comma and a space between them. -/
def shownItems? : List Json -> Option (List Char)
  | [] => some []
  | [item] => shown? item
  | item :: items => do
      let first <- shown? item
      let rest <- shownItems? items
      some (first ++ [',', ' '] ++ rest)

/-- The entries of an object, with a comma and a space between them. -/
def shownEntries? : List (String × Json) -> Option (List Char)
  | [] => some []
  | [(key, value)] => do
      let shown <- shown? value
      some (Text.quoted key.toList ++ [':', ' '] ++ shown)
  | (key, value) :: entries => do
      let shown <- shown? value
      let rest <- shownEntries? entries
      some (Text.quoted key.toList ++ [':', ' '] ++ shown ++ [',', ' '] ++ rest)

end

/-- A value inside a message. -/
def display? (value : Json) : Option String :=
  value.shown?.map String.ofList

/-- A value where a text is expected. -/
def asText? : Json -> Option String
  | .string value => some value
  | value => value.display?

end Json
end DegreeAudit
