import DegreeAudit.CommandLine.Inspection

namespace DegreeAudit
namespace CommandLine

/-!
How far a run can reach: the paths it may read from or write to, and whether it asks for the
standard input. Nothing else has to be known before it starts.
-/

/-- The path of a command's own file. -/
def Command.path? : Command -> Option Path
  | .paste file => if file = "-" then none else some (Path.read file)
  | .importPages file | .importState file => some (Path.read file)
  | .exportState (some file) => some (Path.read file)
  | _ => none

/-- Whether a command reads the standard input. -/
def Command.readsInput : Command -> Bool
  | .paste file => file == "-"
  | _ => false

/-- The path of a data source that is a file. -/
def sourcePath? : Except Homeless DataSource -> Option Path
  | .ok (.file path) => some path
  | _ => none

/-- The paths a request may read from or write to. -/
def Request.paths (request : Request) (environment : Environment) : List Path :=
  let options := request.options
  [
    (pathOr options.state environment.statePath).toOption,
    sourcePath? (sourceOr options.requirements environment.requirementsSource),
    sourcePath? (sourceOr options.catalog environment.catalogSource),
    request.command.path?
  ].filterMap id

/-- The paths that a command line may reach. -/
def pathsOf (environment : Environment) (arguments : List String) : List Path :=
  match Request.read arguments with
  | .ok request => request.paths environment
  | .error _ => []

/-- Whether a command line asks for the standard input. -/
def asksForInput (arguments : List String) : Bool :=
  match Request.read arguments with
  | .ok request => request.command.readsInput
  | .error _ => false

/-- The paths that a command line of the second program may reach. -/
def Inspection.pathsOf (arguments : List String) : List Path :=
  match Wish.read arguments with
  | .ok wish => [Path.read wish.file]
  | .error _ => []

end CommandLine
end DegreeAudit
