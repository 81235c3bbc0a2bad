import DegreeAudit.Text.Blank
import DegreeAudit.Text.LetterCase

namespace DegreeAudit

/-- How a student has declared the track. -/
inductive TrackType where
  | major
  | minor
  deriving DecidableEq, Repr

namespace TrackType

/-- Both declarations. -/
def all : List TrackType := [major, minor]

/-- The name of a declaration in documents and commands. -/
def id : TrackType -> String
  | major => "major"
  | minor => "minor"

/-- The declaration of a name. -/
def ofId? (name : String) : Option TrackType :=
  all.find? fun trackType => trackType.id == name

/-- The declaration that a text names, in any case and with blanks around it or without. -/
def read? (text : String) : Option TrackType :=
  ofId? (String.ofList (Text.lower (Text.trim text.toList)))

theorem ofId?_id (trackType : TrackType) : ofId? trackType.id = some trackType := by
  cases trackType <;> decide

end TrackType
end DegreeAudit
