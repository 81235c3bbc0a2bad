import DegreeAudit.Json.Display
import DegreeAudit.Number.Reader
import DegreeAudit.Text.Split

namespace DegreeAudit
namespace Json

/-!
Taking a document apart: the value of a key, the items of a list, a real number, a text, a list of
codes. Documents are written by hand, so a value may stand where it does not belong; each way to
take a value apart says which values it accepts and what it finds wrong with the others.
-/

/-- What is wrong with a value that is to be taken apart. -/
inductive Mismatch where
  /-- An object has no entry for a key that it needs. -/
  | missingKey (key : String)
  /-- A text stands for a real number and is none. -/
  | notReal (text : String)
  /-- A value of another kind is needed. -/
  | wrongKind
  /-- An object is needed to look for an entry that may be absent. -/
  | notObject
  /-- A whole number is beyond the largest real number. -/
  | tooLarge
  /-- A text is needed of a whole number with too many digits. -/
  | tooManyDigits
  deriving DecidableEq, Repr

/-- The wording for a text that is no real number. -/
def unreadableReal (text : String) : String :=
  "could not convert string to float: " ++ Text.quote text

/-- The wording of a mismatch. -/
def Mismatch.message : Mismatch -> String
  | .missingKey key => "KeyError(" ++ Text.quote key ++ ")"
  | .notReal text => "ValueError(" ++ Text.quote (unreadableReal text) ++ ")"
  | .wrongKind => "TypeError(...)"
  | .notObject => "AttributeError(...)"
  | .tooLarge => "int too large to convert to float"
  | .tooManyDigits => "ValueError(" ++ Text.quote Number.notWrittenMessage ++ ")"

/-- The value of a key that has to be there. -/
def need (key : String) : Json -> Except Mismatch Json
  | .object entries =>
      match lookup key entries with
      | some value => .ok value
      | none => .error (.missingKey key)
  | _ => .error .wrongKind

/-- The value of a key that may be absent. -/
def find? (key : String) : Json -> Except Mismatch (Option Json)
  | .object entries => .ok (lookup key entries)
  | _ => .error .notObject

/-- Whether a key is present; a text is searched for the key and a list for an item that is it. -/
def has (key : String) : Json -> Except Mismatch Bool
  | .object entries => .ok (lookup key entries).isSome
  | .string value => .ok (Text.occursIn key.toList value.toList)
  | .list items =>
      .ok (items.any fun item =>
        match item with
        | .string value => value == key
        | _ => false)
  | _ => .error .wrongKind

/-- The values that a value runs through: the items of a list, the keys of an object, the
characters of a text. -/
def elements : Json -> Except Mismatch (List Json)
  | .list items => .ok items
  | .object entries => .ok (entries.map fun entry => .string entry.1)
  | .string value => .ok (value.toList.map fun c => .string (String.singleton c))
  | _ => .error .wrongKind

/-- A real number; a text is read as one, and true and false count as one and zero. -/
def toReal : Json -> Except Mismatch Float
  | .bool value => .ok (if value then 1 else 0)
  | .int value =>
      match Number.realOfInt? value with
      | some number => .ok number
      | none => .error .tooLarge
  | .real value => .ok value
  | .string value =>
      match Number.readReal? value.toList with
      | some number => .ok number
      | none => .error (.notReal value)
  | _ => .error .wrongKind

/-- A text, which is made of any value that can be written. -/
def toText (value : Json) : Except Mismatch String :=
  match value.asText? with
  | some text => .ok text
  | none => .error .tooManyDigits

/-- A list of codes; a text is the one code of the list, and null is no code. -/
def toCodes : Json -> Except Mismatch (List String)
  | .null => .ok []
  | .string value => .ok [value]
  | value => do
      let items <- value.elements
      items.mapM toText

/-- The codes under a key, none if it is absent. -/
def codesAt (key : String) (value : Json) : Except Mismatch (List String) := do
  match <- value.find? key with
  | some codes => codes.toCodes
  | none => pure []

/-- The real number under a key that has to be there. -/
def realAt (key : String) (value : Json) : Except Mismatch Float := do
  (<- value.need key).toReal

/-- The real number under a key, zero if it is absent. -/
def realOrZero (key : String) (value : Json) : Except Mismatch Float := do
  match <- value.find? key with
  | some value => value.toReal
  | none => pure 0

end Json
end DegreeAudit
