import DegreeAudit.Audit.Document
import DegreeAudit.Audit.Summary
import DegreeAudit.CommandLine.Command
import DegreeAudit.Pattern.Reader
import DegreeAudit.Settings
import DegreeAudit.Storage.StateFile

namespace DegreeAudit
namespace CommandLine

/-!
What a command does. A command is given the requirements, the catalog and the state, and answers
with what is to be shown and at most one change: a new state to be stored, or a file to be written.
It changes nothing by itself.
-/

/-- Why a run ends without a result. -/
inductive Failure where
  | load (fault : LoadFault)
  | planner (failure : Planner.Failure)
  | file (fault : FileFault)
  | homeless
  | noBucket
  | noGap
  | pages (mismatch : Json.Mismatch)
  | notPages (path : Path)
  | pattern (fault : Pattern.Fault)
  deriving DecidableEq, Repr

namespace Failure

/-- The wording of a failure. -/
def message : Failure -> String
  | load fault => fault.message
  | planner failure => failure.message
  | file fault => fault.message
  | homeless => Homeless.homeless.message
  | noBucket => "[] is not a valid Bucket"
  | noGap => "'>' not supported between instances of 'float' and 'list'"
  | pages .tooManyDigits => Number.notWrittenMessage
  | pages mismatch => mismatch.message
  | notPages path => "not a document with pages: " ++ path.text
  | pattern fault => fault.message

/-- The status a run ends with if its failure is one that is reported in a line of its own. -/
def status? : Failure -> Option Nat
  | load fault => if fault.isReported then some 2 else none
  | planner (.gap _) => some 2
  | planner (.unknownCourse _) => some 1
  | _ => none

end Failure

/-- The failure of a run without a state to work on. -/
def Failure.ofState : StateFile.Failure -> Failure
  | .file fault => .file fault
  | .planner failure => .planner failure

/-- What a command works with. -/
structure Context where
  requirements : Requirements Float
  catalog : Catalog
  state : PlannerState

/-- What a command finds outside of the planner. -/
structure Surroundings where
  files : FileTree
  environment : Environment
  standardInput : List UInt8

/-- The change a command asks for. -/
inductive Change where
  | nothing
  | storeState (state : PlannerState)
  /-- A file to be written, and what is shown after that. -/
  | writeFile (path : Path) (text : String) (announcement : String)

/-- What a command answers: the lines it shows, its remarks, the ids that are left, the status it
ends with and the change it asks for. -/
structure Effect where
  shown : List String
  notices : List Notice
  ids : IdSupply
  outcome : Except Failure Nat
  change : Change

namespace Effect

/-- Shows something and is done. -/
def display (ids : IdSupply) (shown : List String) : Effect :=
  { shown, notices := [], ids, outcome := .ok 0, change := .nothing }

/-- Shows why the command is not carried out. -/
def decline (ids : IdSupply) (notices : List Notice) (line : String) : Effect :=
  { shown := [line], notices, ids, outcome := .ok 1, change := .nothing }

/-- Ends with a failure. -/
def failed (ids : IdSupply) (notices : List Notice) (failure : Failure) : Effect :=
  { shown := [], notices, ids, outcome := .error failure, change := .nothing }

/-- Stores the state after an operation and shows its result, or fails as the operation does. -/
def ofOutcome {α : Type} (outcome : Planner.Outcome α) (shown : α -> List String) : Effect :=
  match outcome.result with
  | .error failure => failed outcome.ids outcome.notices (.planner failure)
  | .ok result =>
      {
        shown := shown result
        notices := outcome.notices
        ids := outcome.ids
        outcome := .ok 0
        change := .storeState outcome.state
      }

/-- Stores a state and shows something. -/
def store (ids : IdSupply) (state : PlannerState) (shown : List String) : Effect :=
  { shown, notices := [], ids, outcome := .ok 0, change := .storeState state }

end Effect

/-! ### Lines -/

/-- A text filled up with spaces to a width. -/
def padded (width : Nat) (text : String) : String :=
  text ++ String.ofList (List.replicate (width - text.length) ' ')

/-- A whole number. -/
def count (number : Nat) : String :=
  String.ofList (Text.digitsOf number)

/-- The dash between the parts of a line, with spaces around it. -/
def dash : String := " — "

/-- The line of a held course. -/
def courseLine (course : Course Float) : String :=
  "  " ++ course.id ++ "  " ++ course.code ++ dash ++ course.name ++ dash
    ++ Summary.amount course.credits ++ dash ++ course.bucket.label

/-- The line of an imported course. -/
def importedLine (course : Course Float) : String :=
  "  " ++ course.code ++ dash ++ course.name ++ dash ++ Summary.amount course.credits ++ dash
    ++ course.bucket.id

/-- The line of a bucket. -/
def bucketLine (bucket : Bucket) : String :=
  "  " ++ padded 24 bucket.id ++ " " ++ bucket.label

/-- The line of a course that changes its bucket. -/
def moveLine (course : Course Float) : String :=
  course.code ++ " -> " ++ course.bucket.id

/-- The line of a course of the catalog. -/
def offeredLine (entry : CatalogEntry) : String :=
  "  " ++ padded 10 entry.code ++ " " ++ entry.name ++ " (" ++ Summary.amount entry.credits ++ ")"

/-- The line of a course that was added. -/
def addedLine (course : Course Float) : String :=
  "Added " ++ course.code ++ " (" ++ Summary.amount course.credits ++ " credits) to "
    ++ course.bucket.id ++ " [" ++ course.id ++ "]"

/-- The line of a report in short. -/
def statusLine (courses : Nat) (report : Report Float) : String :=
  let verdict :=
    if report.satisfied then "requirements met"
    else count report.unmet.length ++ " requirement(s) open"
  count courses ++ " courses, " ++ Summary.amount report.totals.total.value ++ " / "
    ++ Summary.amount report.totals.totalMinimum ++ " credits, " ++ verdict

/-- The lines about the import of a transcript. -/
def pasteLines (result : Planner.PasteResult) : List String :=
  ("Recognized " ++ count result.counts.lines ++ " lines / added " ++ count result.counts.added
      ++ " courses / skipped " ++ count result.counts.skipped)
    :: result.courses.map importedLine

/-- The line about an id that is not among those to choose from. -/
def unknownLine (kind id : String) (ids : List String) : String :=
  "Unknown " ++ kind ++ " " ++ Text.quote id ++ "; choose one of: " ++ withCommas ids

/-- The line about an import that is not carried out. -/
def importFailedLine (cause : String) : String :=
  "Import failed: " ++ cause

/-! ### Commands -/

/-- The effect of a command that shows something about the report on the courses. -/
def showReport (context : Context) (ids : IdSupply)
    (lines? : Report Float -> Except Requirements.Gap (List String)) : Effect :=
  match Planner.evaluate context.requirements context.state >>= lines? with
  | .error gap => .failed ids [] (.planner (.gap gap))
  | .ok shown => .display ids shown

/-- The effect of importing a transcript; the state is stored if there is something new. -/
def importTranscript (context : Context) (ids : IdSupply) (text : String)
    (before : List Notice) : Effect :=
  let outcome := Planner.importPaste (some context.requirements) text context.state ids
  let effect := Effect.ofOutcome outcome pasteLines
  let added :=
    match outcome.result with
    | .ok result => result.counts.added
    | .error _ => 0
  {
    effect with
    notices := before ++ effect.notices
    change := if added = 0 then .nothing else effect.change
  }

/-- The text of a file, or of the standard input for a single dash. -/
def readInput (surroundings : Surroundings) (file : String) : Except TextFault (List Char) :=
  if file = "-" then (textOfBytes surroundings.standardInput).mapError .notText
  else surroundings.files.readText (Path.read file)

/-- The effect of an import whose text cannot be read. It is declined, but a path that no file can
have makes it fail. -/
def unread (ids : IdSupply) (fault : TextFault) : Effect :=
  match fault.ofPath? with
  | some fault => .failed ids [] (.file fault)
  | none => .decline ids [] (importFailedLine fault.message)

/-- The text of the rows of a document with pages, and the number of its rows. -/
def readPages (files : FileTree) (path : Path) : Except Failure (String × Nat) :=
  match files.read path with
  | .error fault => .error (.file fault)
  | .ok (.bytes _) => .error (.notPages path)
  | .ok (.pages pages) =>
      match pages.rows .empty WordRow.usualTolerance with
      | .error mismatch => .error (.pages mismatch)
      | .ok rows => .ok (WordRow.text WordRow.usualGap rows, rows.length)

/-- The effect of a command. -/
def perform (command : Command) (context : Context) (surroundings : Surroundings)
    (ids : IdSupply) : Effect :=
  let requirements := context.requirements
  let state := context.state
  match command with
  | .status =>
      showReport context ids fun report => .ok [statusLine state.courses.length report]
  | .report asDocument =>
      showReport context ids fun report =>
        if asDocument then .ok [String.ofList report.document.write]
        else (Summary.text report requirements).map fun text => [text]
  | .list =>
      .display ids
        (if state.courses.isEmpty then [" [no courses]"] else state.courses.map courseLine)
  | .buckets => .display ids (Bucket.all.map bucketLine)
  | .add entry =>
      .ofOutcome (Planner.addCourse (some requirements) (some context.catalog) entry state ids)
        fun course => [addedLine course]
  | .remove id =>
      .ofOutcome (Planner.removeCourse id state ids) fun course => ["Removed " ++ course.code]
  | .reclassify _ none => .failed ids [] .noBucket
  | .reclassify id (some bucket) =>
      .ofOutcome (Planner.reclassify id bucket state ids) fun course => [moveLine course]
  | .cohort id =>
      if requirements.hasCohort id then .store ids (Planner.changeCohort id state) []
      else
        .decline ids []
          (unknownLine "cohort" id (requirements.cohorts.map fun cohort => cohort.id))
  | .track id =>
      if requirements.hasTrack id then
        .ofOutcome (Planner.changeTrack requirements id state ids)
          fun moved => moved.map fun course => "  " ++ moveLine course
      else .decline ids [] (unknownLine "track" id (requirements.tracks.map fun track => track.id))
  | .trackType trackType => .store ids (Planner.changeTrackType trackType state) []
  | .paste file =>
      match readInput surroundings file with
      | .error fault => unread ids fault
      | .ok text => importTranscript context ids (String.ofList text) []
  | .importPages file =>
      let path := Path.read file
      match readPages surroundings.files path with
      | .error failure => .failed ids [] failure
      | .ok (text, rows) =>
          importTranscript context ids text [.rowsExtracted rows path.text]
  | .classify code name =>
      match Planner.activeTrack (some requirements) state with
      | .error failure => .failed ids [] (.planner failure)
      | .ok track =>
          let suggestion := Classification.suggest code name track
          .display ids [
            code ++ ": " ++ suggestion.bucket.id ++ " (" ++ suggestion.bucket.label ++ ") via "
              ++ suggestion.strategyLabel
          ]
  | .search query =>
      let found := context.catalog.search query 10
      .display ids (if found.isEmpty then [" [no matches]"] else found.map offeredLine)
  | .exportState file =>
      let text := Snapshot.text state
      match file with
      | none | some "" => .display ids [text]
      | some file =>
          {
            shown := []
            notices := []
            ids
            outcome := .ok 0
            change :=
              .writeFile (Path.read file) (text ++ "\n")
                ("Exported " ++ count state.courses.length ++ " courses to " ++ file)
          }
  | .importState file =>
      match surroundings.files.readText (Path.read file) with
      | .error fault => unread ids fault
      | .ok text =>
          let outcome :=
            Planner.importSnapshot (some requirements) (.text text) state ids
          match outcome.result with
          | .ok (some reason) =>
              .decline outcome.ids outcome.notices
                (importFailedLine (reason.message ++ ". Choose a file written by 'gradsim export'."))
          | _ =>
              .ofOutcome outcome fun _ =>
                ["Imported " ++ count outcome.state.courses.length ++ " courses"]
  | .reset => .store ids PlannerState.initial ["State reset"]

end CommandLine
end DegreeAudit
