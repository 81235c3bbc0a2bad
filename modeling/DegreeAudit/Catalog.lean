import DegreeAudit.Course
import DegreeAudit.Json.Field
import DegreeAudit.Slice
import DegreeAudit.Text.Split

namespace DegreeAudit

/-!
The catalog of courses that are offered. A course is found by its code in any spelling, and
searched for by a part of its code or name in any case.
-/

/-- A course that is offered. -/
structure CatalogEntry where
  code : String
  name : String
  credits : Float
  deriving DecidableEq, Repr

/-- The courses that are offered, in the order of the catalog. -/
structure Catalog where
  entries : List CatalogEntry
  deriving DecidableEq, Repr

namespace Catalog

/-- The course of a code, the last one if there are several. -/
def find? (catalog : Catalog) (code : String) : Option CatalogEntry :=
  catalog.entries.reverse.find? fun entry => normalizeCode entry.code == normalizeCode code

/-- The least length of a text that is searched for. -/
def leastQueryLength : Nat := 2

/-- Whether the code or the name of a course holds a text, which is in lower case. -/
def matchesQuery (query : List Char) (entry : CatalogEntry) : Bool :=
  Text.occursIn query (Text.lower entry.code.toList)
    || Text.occursIn query (Text.lower entry.name.toList)

/-- All courses whose code or name holds a text, unless the text is too short. -/
def matching (catalog : Catalog) (query : String) : List CatalogEntry :=
  let query := Text.lower (Text.trim query.toList)
  if query.length < leastQueryLength then [] else catalog.entries.filter (matchesQuery query)

/-- The first courses found for a text. -/
def search (catalog : Catalog) (query : String) (limit : Int) : List CatalogEntry :=
  takeFirst limit (catalog.matching query)

/-- A course of the catalog as it stands in a document. -/
def readEntry (item : Json) : Except Json.Mismatch CatalogEntry := do
  let code <- (<- item.need "code").toText
  let name <- ((<- item.find? "name").getD (.string "")).toText
  let credits <- item.realOrZero "credits"
  pure { code, name, credits }

/-- The wording of what is wrong with a document. -/
def mismatchMessage : Json.Mismatch -> String
  | .tooLarge => Json.Mismatch.tooLarge.message
  | mismatch => "invalid course catalog: " ++ mismatch.message

/-- The catalog that a document gives. -/
def ofDocument (document : Json) : Except Json.Mismatch Catalog := do
  let items <- document.elements
  pure ⟨<- items.mapM readEntry⟩

end Catalog
end DegreeAudit
