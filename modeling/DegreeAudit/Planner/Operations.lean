import DegreeAudit.Audit.Evaluation
import DegreeAudit.Catalog
import DegreeAudit.Planner.State
import DegreeAudit.Transcript.Paste

namespace DegreeAudit

/-!
The operations of the planner. Each takes a state and returns the state after it, also where it
fails, together with the remaining ids and the remarks it makes.
-/

namespace Planner

/-- Why an operation fails. -/
inductive Failure where
  /-- No course has the id. -/
  | unknownCourse (id : String)
  /-- Credits are given as a whole number beyond the largest real one. -/
  | creditsTooLarge
  /-- A whole number with too many digits stands where a text is expected. -/
  | tooManyDigits
  /-- The requirements have no cohort or no track to fall back on. -/
  | gap (gap : Requirements.Gap)
  deriving DecidableEq, Repr

/-- The wording of a failure. -/
def Failure.message : Failure -> String
  | .unknownCourse id => "no course with id " ++ Text.quote id
  | .creditsTooLarge => Json.Mismatch.tooLarge.message
  | .tooManyDigits => Number.notWrittenMessage
  | .gap cause => cause.message

/-- What an operation leaves behind. -/
structure Outcome (α : Type) where
  result : Except Failure α
  state : PlannerState
  ids : IdSupply
  notices : List Notice

/-- The code of a course for which none is given. -/
def defaultCode : String := "NO_CODE"

/-- The name of a course for which none is given. -/
def defaultName : String := "(unnamed)"

/-- The credits of a course for which none are given. -/
def defaultCredits : Float := 3.0

/-- Whether a text holds nothing but blanks. -/
def isBlankText (text : String) : Bool :=
  Text.allBlank text.toList

/-- The credits that a value stands for; a value that is not a number of credits counts as none. -/
def creditsOf (value : Json) : Except Failure Float :=
  match value with
  | .bool _ => .ok 0
  | value =>
      match value.toReal with
      | .error .tooLarge => .error .creditsTooLarge
      | .error _ => .ok 0
      | .ok credits => .ok (if 0 <= credits then credits else 0)

/-- The track of a state, if there are requirements to take it from. -/
def activeTrack (requirements : Option (Requirements Float)) (state : PlannerState) :
    Except Failure (Option Track) :=
  match requirements with
  | none => .ok none
  | some requirements =>
      match requirements.track (some state.trackId) with
      | .ok track => .ok (some track)
      | .error gap => .error (.gap gap)

/-- A course as it is entered by hand. Null stands for credits that are not given. -/
structure Entry where
  code : String
  name : String
  credits : Json
  bucket : Option String

/-- The course that an entry stands for. What is not given is taken from the catalog if it knows
the code, and the bucket is suggested if none is named. -/
def Entry.course (requirements : Option (Requirements Float)) (catalog : Option Catalog)
    (entry : Entry) (state : PlannerState) : Except Failure (CourseData Float) := do
  let code := normalizeCompound entry.code
  let code := if code.isEmpty then defaultCode else code
  let offered := catalog.bind fun catalog => catalog.find? code
  let name :=
    match offered with
    | some offered => if isBlankText entry.name then offered.name else entry.name
    | none => entry.name
  let name := String.ofList (Text.trim name.toList)
  let name := if name.isEmpty then defaultName else name
  let credits :=
    match entry.credits, offered with
    | .null, some offered => .real offered.credits
    | .null, none => .real defaultCredits
    | credits, _ => credits
  let bucket <-
    match entry.bucket.bind Bucket.read? with
    | some bucket => pure bucket
    | none => do pure (classify code name (<- activeTrack requirements state))
  pure { code, name, credits := <- creditsOf credits, bucket }

/-- Adds a course that is entered by hand before the others. -/
def addCourse (requirements : Option (Requirements Float)) (catalog : Option Catalog)
    (entry : Entry) (state : PlannerState) (ids : IdSupply) : Outcome (Course Float) :=
  match entry.course requirements catalog state with
  | .error failure => { result := .error failure, state, ids, notices := [] }
  | .ok data =>
      let course := data.withId ids.next
      {
        result := .ok course
        state := state.addFirst course
        ids := ids.rest
        notices := [.courseAdded course.code course.id course.bucket]
      }

/-- Removes the courses of an id; the result is the first of them. -/
def removeCourse (id : String) (state : PlannerState) (ids : IdSupply) :
    Outcome (Course Float) :=
  match state.course? id with
  | none => { result := .error (.unknownCourse id), state, ids, notices := [] }
  | some course =>
      {
        result := .ok course
        state := { state with courses := state.courses.filter fun other => other.id != id }
        ids
        notices := []
      }

/-- Puts the first course of an id into a bucket. -/
def reclassify (id : String) (bucket : Bucket) (state : PlannerState) (ids : IdSupply) :
    Outcome (Course Float) :=
  match state.course? id with
  | none => { result := .error (.unknownCourse id), state, ids, notices := [] }
  | some course =>
      {
        result := .ok { course with bucket }
        state := { state with courses := PlannerState.moveCourse id bucket state.courses }
        ids
        notices := []
      }

/-- Chooses the cohort. -/
def changeCohort (id : String) (state : PlannerState) : PlannerState :=
  { state with cohortId := id }

/-- Whether a course that was in none of the other buckets belongs to a track. -/
def joinsTrack (track : Track) (course : Course Float) : Bool :=
  course.bucket == .other && classify course.code course.name (some track) == .track

/-- A course, in the bucket of the track if it belongs to it now. -/
def moveToTrack (track : Track) (course : Course Float) : Course Float :=
  if joinsTrack track course then { course with bucket := .track } else course

/-- Chooses the track, and moves the courses that belong to it and were in no other bucket. The
result are the courses moved. -/
def changeTrack (requirements : Requirements Float) (id : String) (state : PlannerState)
    (ids : IdSupply) : Outcome (List (Course Float)) :=
  let chosen := { state with trackId := id }
  match requirements.track (some id) with
  | .error gap => { result := .error (.gap gap), state := chosen, ids, notices := [] }
  | .ok track =>
      {
        result := .ok ((state.courses.filter (joinsTrack track)).map (moveToTrack track))
        state := { chosen with courses := state.courses.map (moveToTrack track) }
        ids
        notices := []
      }

/-- Chooses how the track is declared. -/
def changeTrackType (trackType : TrackType) (state : PlannerState) : PlannerState :=
  { state with trackType }

/-- The courses of a pasted transcript and the counts of its lines. -/
structure PasteResult where
  courses : List (Course Float)
  counts : Transcript.Counts
  deriving DecidableEq, Repr

/-- The remarks on the lines of a pasted transcript. -/
def pasteNotices (readings : List Transcript.Reading) : List Notice :=
  readings.filterMap Transcript.Reading.notice?

/-- Adds the courses of a pasted transcript that are not held yet, one before the other. -/
def importPaste (requirements : Option (Requirements Float)) (text : String)
    (state : PlannerState) (ids : IdSupply) : Outcome PasteResult :=
  match activeTrack requirements state with
  | .error failure => { result := .error failure, state, ids, notices := [] }
  | .ok track =>
      let known := state.courses.map fun course => course.code
      let readings := Transcript.read track known text.toList
      let added := Transcript.courses readings
      let courses := ids.assign added
      let counts := Transcript.counts readings
      {
        result := .ok { courses, counts }
        state := { state with courses := courses.reverse ++ state.courses }
        ids := ids.skip added.length
        notices :=
          pasteNotices readings
            ++ [.pasteImported counts.lines counts.added counts.skipped]
      }

/-- The report on the courses of a state. -/
def evaluate (requirements : Requirements Float) (state : PlannerState) :
    Except Requirements.Gap (Report Float) := do
  let cohort <- requirements.cohort (some state.cohortId)
  let track <- requirements.track (some state.trackId)
  pure (Audit.evaluate state.courses cohort track state.trackType)

end Planner
end DegreeAudit
