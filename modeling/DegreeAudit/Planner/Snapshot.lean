import DegreeAudit.Json.Reader
import DegreeAudit.Json.Writer
import DegreeAudit.Planner.Operations

namespace DegreeAudit

/-!
The state of the planner as a document, and back. Writing loses nothing. Reading is lenient: what
is absent or says nothing is taken from another state or filled in, and entries that are no courses
are remarked upon and passed over. It fails where a whole number is too large for credits or has too
many digits for a text.
-/

namespace Snapshot

/-- A course in a document. -/
def courseDocument (course : Course Float) : Json :=
  .object [
    ("id", .string course.id),
    ("code", .string course.code),
    ("name", .string course.name),
    ("credits", .real course.credits),
    ("bucket", .string course.bucket.id)
  ]

/-- A state as a document. -/
def document (state : PlannerState) : Json :=
  .object [
    ("cohortId", .string state.cohortId),
    ("trackId", .string state.trackId),
    ("trackType", .string state.trackType.id),
    ("courses", .list (state.courses.map courseDocument))
  ]

/-- The text of a state. -/
def text (state : PlannerState) : String :=
  String.ofList (document state).write

/-- Why a document is not a state. -/
inductive Reason where
  | notJson (fault : Json.Fault)
  | notObject
  | noCourseList
  deriving DecidableEq, Repr

/-- The wording of a reason. -/
def Reason.message : Reason -> String
  | .notJson fault => "not valid JSON: " ++ fault.message
  | .notObject => "snapshot must be a JSON object"
  | .noCourseList => "snapshot has no course list"

/-- The value of a key as a text, unless it says nothing or has no text. -/
def givenText? (key : String) (entries : List (String × Json)) : Option String :=
  (Json.something? (Json.lookup key entries)).bind Json.asText?

/-- The value of a key as a text, unless it says nothing. -/
def textAt? (key : String) (entries : List (String × Json)) :
    Except Planner.Failure (Option String) :=
  match Json.something? (Json.lookup key entries) with
  | none => .ok none
  | some value =>
      match value.asText? with
      | some text => .ok (some text)
      | none => .error .tooManyDigits

/-- The course that entries give, and its id if they give one. What is no bucket, for want of a text
as well, leaves the bucket to be suggested. -/
def readCourse (track : Option Track) (entries : List (String × Json)) :
    Except Planner.Failure (CourseData Float × Option String) := do
  let code := (<- textAt? "code" entries).getD Planner.defaultCode
  let name := (<- textAt? "name" entries).getD Planner.defaultName
  let bucket :=
    match (givenText? "bucket" entries).bind Bucket.read? with
    | some bucket => bucket
    | none => classify code name track
  let credits <- Planner.creditsOf ((Json.lookup "credits" entries).getD .null)
  let id <- textAt? "id" entries
  pure ({ code, name, credits, bucket }, id)

/-- The remark on an item that is no course. It names the item, so there is none about an item
without a text. -/
def ignoredItem? (item : Json) : Option Notice :=
  item.display?.map .entryIgnored

/-- What reading a list of courses leaves behind. -/
structure CoursesRead where
  courses : Except Planner.Failure (List (Course Float))
  ids : IdSupply
  notices : List Notice

/-- The courses of a list; a course without an id takes the next of the supply. -/
def readCourses (track : Option Track) (ids : IdSupply) : List Json -> CoursesRead
  | [] => { courses := .ok [], ids, notices := [] }
  | .object entries :: items =>
      match readCourse track entries with
      | .error failure => { courses := .error failure, ids, notices := [] }
      | .ok (data, given) =>
          let course := data.withId (given.getD ids.next)
          let others := readCourses track (if given.isSome then ids else ids.rest) items
          { others with courses := others.courses.map fun courses => course :: courses }
  | item :: items =>
      let others := readCourses track ids items
      { others with notices := (ignoredItem? item).toList ++ others.notices }

/-- What reading a state leaves behind: the state, or the reason why there is none. -/
structure StateRead where
  result : Except Planner.Failure (Except Reason PlannerState)
  ids : IdSupply
  notices : List Notice

/-- How the track is declared, if that is the text of a value. -/
def readTrackType? (value : Json) : Option TrackType :=
  value.asText?.bind TrackType.read?

/-- The state without courses that entries give, completed from another. -/
def readChoices (entries : List (String × Json)) (base : PlannerState) :
    Except Planner.Failure PlannerState := do
  let cohortId := (<- textAt? "cohortId" entries).getD base.cohortId
  let trackId := (<- textAt? "trackId" entries).getD base.trackId
  let trackType :=
    (readTrackType? ((Json.lookup "trackType" entries).getD .null)).getD base.trackType
  pure { cohortId, trackId, trackType, courses := [] }

/-- The state without courses that entries give, and its track. -/
def readActive (requirements : Option (Requirements Float)) (entries : List (String × Json))
    (base : PlannerState) : Except Planner.Failure (PlannerState × Option Track) := do
  let state <- readChoices entries base
  let track <- Planner.activeTrack requirements state
  pure (state, track)

/-- The state that entries give with the items of their course list. -/
def ofEntries (requirements : Option (Requirements Float)) (base : PlannerState) (ids : IdSupply)
    (entries : List (String × Json)) (items : List Json) : StateRead :=
  match readActive requirements entries base with
  | .error failure => { result := .error failure, ids, notices := [] }
  | .ok (state, track) =>
      let read := readCourses track ids items
      {
        result := read.courses.map fun courses => .ok { state with courses }
        ids := read.ids
        notices := read.notices
      }

/-- The state of a document. -/
def ofDocument (requirements : Option (Requirements Float)) (base : PlannerState)
    (ids : IdSupply) (document : Json) : StateRead :=
  match document with
  | .object entries =>
      match Json.lookup "courses" entries with
      | some (.list items) => ofEntries requirements base ids entries items
      | _ => { result := .ok (.error .noCourseList), ids, notices := [] }
  | _ => { result := .ok (.error .notObject), ids, notices := [] }

/-- What a state may be read from. -/
inductive Source where
  | text (content : List Char)
  | bytes (content : List UInt8)
  | value (document : Json)

/-- The document of a source. A value that is a text is the text of a document. -/
def Source.document : Source -> Except Json.Fault Json
  | .text content => Json.read content
  | .bytes content => Json.readBytes content
  | .value (.string content) => Json.read content.toList
  | .value document => .ok document

/-- The state of a source. -/
def read (requirements : Option (Requirements Float)) (base : PlannerState) (ids : IdSupply)
    (source : Source) : StateRead :=
  match source.document with
  | .error fault => { result := .ok (.error (.notJson fault)), ids, notices := [] }
  | .ok document => ofDocument requirements base ids document

end Snapshot

namespace Planner

/-- Replaces the state by that of a document; nothing changes if the document is none. -/
def importSnapshot (requirements : Option (Requirements Float)) (source : Snapshot.Source)
    (state : PlannerState) (ids : IdSupply) : Outcome (Option Snapshot.Reason) :=
  let read := Snapshot.read requirements state ids source
  match read.result with
  | .error failure => { result := .error failure, state, ids := read.ids, notices := read.notices }
  | .ok (.error reason) =>
      { result := .ok (some reason), state, ids := read.ids, notices := read.notices }
  | .ok (.ok imported) =>
      { result := .ok none, state := imported, ids := read.ids, notices := read.notices }

end Planner
end DegreeAudit
