import DegreeAudit.Json.Field

namespace DegreeAudit

/-!
Words on a page with the boxes around them. Coordinates grow to the right and downwards and may be
of any type `κ`; those of documents are real numbers.
-/

/-- Where something begins: its upper and its left edge. -/
structure Place (κ : Type) where
  top : κ
  left : κ
  deriving DecidableEq, Repr

/-- A word and the box around it. -/
structure Word (κ : Type) where
  text : String
  left : κ
  right : κ
  top : κ
  bottom : κ
  deriving DecidableEq, Repr

/-- A word as it stands in a document, and where it begins. -/
structure PlacedWord extends Place Float where
  entry : Json

namespace Place

variable {κ : Type} [LT κ] [DecidableLT κ] [LE κ] [DecidableLE κ]

/-- Whether a place comes before another, or may: from the top down, and from left to right at the
same height. -/
def comesBefore (a b : Place κ) : Bool :=
  if a.top < b.top then true
  else if b.top < a.top then false
  else a.left <= b.left

end Place

namespace Word

/-- Where a word begins. -/
def place {κ : Type} (word : Word κ) : Place κ :=
  { top := word.top, left := word.left }

/-- A coordinate under a key, or a fallback where none can be read. -/
def readCoordinate (key : String) (fallback : Float) (word : Json) :
    Except Json.Mismatch Float := do
  match <- word.find? key with
  | none => pure fallback
  | some value =>
      match value.toReal with
      | .ok number => pure number
      | .error .tooLarge => throw .tooLarge
      | .error _ => pure fallback

/-- The height of a word whose bottom is not given. -/
def usualHeight : Float := 8.0

/-- The text of a word in a document, without the blanks around it. -/
def readText (word : Json) : Except Json.Mismatch (List Char) := do
  let text <-
    match Json.something? (<- word.find? "text") with
    | some value => value.toText
    | none => pure ""
  pure (Text.trim text.toList)

end Word

namespace PlacedWord

/-- A word of a document with the place where it begins. -/
def ofEntry (entry : Json) : Except Json.Mismatch PlacedWord := do
  let top <- Word.readCoordinate "top" 0 entry
  let left <- Word.readCoordinate "x0" 0 entry
  pure { top, left, entry }

/-- Whether a word comes before another, or may. -/
def comesBefore (a b : PlacedWord) : Bool :=
  a.toPlace.comesBefore b.toPlace

/-- The whole of a word; nothing if its text is blank. A word that gives no right end has no
width. -/
def read? (word : PlacedWord) : Except Json.Mismatch (Option (Word Float)) := do
  let text <- Word.readText word.entry
  if text.isEmpty then pure none
  else
    let right <- Word.readCoordinate "x1" word.left word.entry
    let bottom <- Word.readCoordinate "bottom" (word.top + Word.usualHeight) word.entry
    pure (some { text := String.ofList text, left := word.left, right, top := word.top, bottom })

end PlacedWord
end DegreeAudit
