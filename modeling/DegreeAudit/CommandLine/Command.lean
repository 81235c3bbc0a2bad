import DegreeAudit.Bucket
import DegreeAudit.CommandLine.Arguments
import DegreeAudit.Planner.Operations

namespace DegreeAudit
namespace CommandLine

/-!
The commands of the planner and how each is written. The command line of the program ends with the
name of a command and what belongs to it, which is read by the grammar of the command.
-/

/-- A command of the planner. -/
inductive Command where
  | status
  | report (asDocument : Bool)
  | list
  | buckets
  | add (entry : Planner.Entry)
  | remove (id : String)
  /-- Nothing stands for a bucket that was left out by means of a mark. -/
  | reclassify (id : String) (bucket : Option Bucket)
  | cohort (id : String)
  | track (id : String)
  | trackType (trackType : TrackType)
  /-- A single dash stands for the standard input. -/
  | paste (file : String)
  | importPages (file : String)
  | classify (code name : String)
  | search (query : String)
  /-- Nothing stands for the standard output. -/
  | exportState (file : Option String)
  | importState (file : String)
  | reset

/-- Where a command finds the state and the data, and how much is said on the way. -/
structure Options where
  state : Option String
  requirements : Option String
  catalog : Option String
  verbose : Bool
  deriving DecidableEq, Repr

/-- A command line that is understood. -/
structure Request where
  options : Options
  command : Command

/-- What kind of command a name stands for. -/
inductive CommandName where
  | status | report | list | buckets | add | remove | reclassify | cohort | track | trackType
  | paste | importPages | classify | search | exportState | importState | reset
  deriving DecidableEq, Repr

namespace CommandName

/-- All commands, in the order in which they are listed. -/
def all : List CommandName :=
  [
    status, report, list, buckets, add, remove, reclassify, cohort, track, trackType, paste,
    importPages, classify, search, exportState, importState, reset
  ]

/-- The name of a command. -/
def text : CommandName -> String
  | status => "status"
  | report => "report"
  | list => "list"
  | buckets => "buckets"
  | add => "add"
  | remove => "remove"
  | reclassify => "reclassify"
  | cohort => "cohort"
  | track => "track"
  | trackType => "track-type"
  | paste => "paste"
  | importPages => "import-pdf"
  | classify => "classify"
  | search => "search"
  | exportState => "export"
  | importState => "import"
  | reset => "reset"

/-- The command of a name. -/
def ofText? (name : String) : Option CommandName :=
  all.find? fun command => command.text == name

end CommandName

/-- The name of the program. -/
def programName : String := "gradsim"

/-- The option that shows the help. -/
def helpOption : OptionRule := ⟨["-h", "--help"], .help⟩

/-- An option with one name that takes a text. -/
def textOption (name : String) : OptionRule := ⟨[name], .value .text⟩

/-- A slot for one argument. -/
def textSlot (name : String) : Slot := ⟨name, .one, .text⟩

/-- The names of the buckets. -/
def bucketChoices : ValueKind := .oneOf (Bucket.all.map Bucket.id)

/-- The grammar up to the name of the command. -/
def programGrammar : Grammar :=
  {
    program := programName
    options := [
      helpOption,
      textOption "--state",
      textOption "--requirements",
      textOption "--catalog",
      ⟨["--verbose"], .nothing⟩
    ]
    slots := [⟨"command", .rest, .oneOf (CommandName.all.map CommandName.text)⟩]
  }

namespace CommandName

/-- The options of a command. -/
def options : CommandName -> List OptionRule
  | report => [⟨["--json"], .nothing⟩]
  | add =>
      [textOption "--name", ⟨["--credits"], .value .real⟩, ⟨["--bucket"], .value bucketChoices⟩]
  | _ => []

/-- The slots of a command. -/
def slots : CommandName -> List Slot
  | add => [textSlot "code"]
  | remove | cohort | track => [textSlot "id"]
  | reclassify => [textSlot "id", ⟨"bucket", .one, bucketChoices⟩]
  | trackType => [⟨"type", .one, .oneOf (TrackType.all.map TrackType.id)⟩]
  | paste => [⟨"file", .optional, .text⟩]
  | importPages => [textSlot "pdf"]
  | classify => [textSlot "code", ⟨"name", .optional, .text⟩]
  | search => [textSlot "query"]
  | exportState => [⟨"file", .optional, .text⟩]
  | importState => [textSlot "file"]
  | status | report | list | buckets | reset => []

/-- The grammar of a command. -/
def grammar (name : CommandName) : Grammar :=
  {
    program := programName ++ " " ++ name.text
    options := helpOption :: name.options
    slots := name.slots
  }

/-- The credits found on a command line, as a course is given them. A mark in place of the number is
no number, but it keeps the usual credits from being taken. -/
def creditsOf : Option Value -> Json
  | some (.real credits) => .real credits
  | some .nothing => .list []
  | _ => .null

/-- The command that was found on a command line. What the grammar requires is there; the empty
text takes the place of anything else. -/
def command (name : CommandName) (found : Found) : Command :=
  let textOf (key : String) : String := (found.text? key).getD ""
  match name with
  | status => .status
  | report => .report (found.value? "--json").isSome
  | list => .list
  | buckets => .buckets
  | add =>
      .add {
        code := textOf "code"
        name := textOf "--name"
        credits := creditsOf (found.value? "--credits")
        bucket := found.text? "--bucket"
      }
  | remove => .remove (textOf "id")
  | reclassify => .reclassify (textOf "id") ((found.text? "bucket").bind Bucket.ofId?)
  | cohort => .cohort (textOf "id")
  | track => .track (textOf "id")
  | trackType => .trackType (((found.text? "type").bind TrackType.ofId?).getD .major)
  | paste => .paste ((found.text? "file").getD "-")
  | importPages => .importPages (textOf "pdf")
  | classify => .classify (textOf "code") (textOf "name")
  | search => .search (textOf "query")
  | exportState => .exportState (found.text? "file")
  | importState => .importState (textOf "file")
  | reset => .reset

end CommandName

/-- A command line that is not carried out, and the program or command that says so. -/
structure Refusal where
  program : String
  stop : UsageStop
  deriving DecidableEq, Repr

/-- The grammar's reading of a command line, with its program named if it is refused. -/
def Grammar.readAs (grammar : Grammar) (arguments : List String) : Except Refusal Found :=
  (grammar.read arguments).mapError fun stop => ⟨grammar.program, stop⟩

/-- Refuses what no grammar could take. -/
def refuseExtras (program : String) (extras : List String) : Except Refusal Unit :=
  if extras.isEmpty then .ok () else .error ⟨program, .fault (.unrecognized extras)⟩

/-- What is found of the options before the command. -/
def optionsOf (found : Found) : Options :=
  {
    state := found.text? "--state"
    requirements := found.text? "--requirements"
    catalog := found.text? "--catalog"
    verbose := (found.value? "--verbose").isSome
  }

/-- Reads the command line of the program. -/
def Request.read (arguments : List String) : Except Refusal Request := do
  let found <- programGrammar.readAs arguments
  match found.value? "command" with
  | some (.rest first others) =>
      match CommandName.ofText? first with
      | some name => do
          let own <- name.grammar.readAs others
          refuseExtras programName (found.extras ++ own.extras)
          pure { options := optionsOf found, command := name.command own }
      | none => .error ⟨programName, .fault (.missing ["command"])⟩
  | _ => .error ⟨programName, .fault (.missing ["command"])⟩

end CommandLine
end DegreeAudit
