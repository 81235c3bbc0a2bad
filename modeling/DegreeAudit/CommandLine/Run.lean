import DegreeAudit.CommandLine.Effect

namespace DegreeAudit
namespace CommandLine

/-!
A run of the program: the command line is read, the data and the state are loaded, the command is
carried out, and the change it asks for is made. Nothing is changed before the command has answered,
and a change is made as a whole or not at all.
-/

/-- How a run ends. -/
inductive Ending where
  /-- Without a status of its own. -/
  | finished
  | status (code : Nat)
  /-- With a failure that is not reported in a line of its own. -/
  | raised (failure : Failure)
  deriving DecidableEq, Repr

/-- A line for the standard error output. -/
inductive Complaint where
  | notice (notice : Notice)
  | note (neglect : StateFile.Neglect)
  | failure (failure : Failure)
  | refusal (program : String) (fault : UsageFault)
  deriving DecidableEq, Repr

/-- The name of a level. -/
def levelText : Level -> String
  | .debug => "DEBUG"
  | .info => "INFO"
  | .warning => "WARNING"

/-- The text of a complaint. -/
def Complaint.text : Complaint -> String
  | .notice remark =>
      levelText remark.level ++ " " ++ remark.source ++ ": " ++ remark.message
  | .note neglect => "note: " ++ neglect.message
  | .failure cause => "error: " ++ cause.message
  | .refusal program fault => program ++ ": error: " ++ fault.message

/-- Whether a complaint is made also when not everything is to be said. -/
def Complaint.isLoud : Complaint -> Bool
  | .notice remark => remark.level == .warning
  | _ => true

/-- What a run shows and leaves behind. -/
structure Run where
  shown : List String
  complaints : List Complaint
  ending : Ending
  files : FileTree
  ids : IdSupply

namespace Run

/-- The lines of a text, each with its end. -/
def lines (texts : List String) : String :=
  String.join (texts.map fun text => text ++ "\n")

/-- The standard output of a run. -/
def output (run : Run) : String :=
  lines run.shown

/-- The standard error output of a run; a wordy one has every remark. -/
def errors (verbose : Bool) (run : Run) : String :=
  lines ((run.complaints.filter fun complaint => verbose || complaint.isLoud).map Complaint.text)

/-- The run that ends with a failure before anything is changed. -/
def fail (shown : List String) (complaints : List Complaint) (failure : Failure)
    (files : FileTree) (ids : IdSupply) : Run :=
  match failure.status? with
  | some code =>
      {
        shown
        complaints := complaints ++ [.failure failure]
        ending := .status code
        files
        ids
      }
  | none => { shown, complaints, ending := .raised failure, files, ids }

/-- The run that was not begun because of its command line. -/
def refuse (refusal : Refusal) (help : List String) (files : FileTree) (ids : IdSupply) : Run :=
  match refusal.stop with
  | .help => { shown := help, complaints := [], ending := .status 0, files, ids }
  | .fault fault =>
      {
        shown := []
        complaints := [.refusal refusal.program fault]
        ending := .status 2
        files
        ids
      }

end Run

/-- The path of a file that an option names, or else the environment. An empty name is none. -/
def pathOr (named : Option String) (usual : Except Homeless Path) : Except Homeless Path :=
  match named with
  | none | some "" => usual
  | some name => .ok (Path.read name)

/-- The source of data that an option names, or else the environment. -/
def sourceOr (named : Option String) (usual : Except Homeless DataSource) :
    Except Homeless DataSource :=
  match named with
  | none | some "" => usual
  | some name => .ok (.file (Path.read name))

/-- What loading before a command leaves behind. -/
structure Opening where
  outcome : Except Failure (Context × Option StateFile.Neglect)
  notices : List Notice
  ids : IdSupply

/-- Loads the requirements and the catalog. -/
def loadData (options : Options) (surroundings : Surroundings) :
    Logged Failure (Requirements Float × Catalog) := do
  let homed {α : Type} (found : Except Homeless α) : Logged Failure α :=
    Logged.lift (found.mapError fun _ => .homeless)
  let environment := surroundings.environment
  let failed {α : Type} (loaded : Logged LoadFault α) : Logged Failure α :=
    ⟨loaded.notices, loaded.outcome.mapError .load⟩
  let source <- homed (sourceOr options.requirements environment.requirementsSource)
  let requirements <- failed (surroundings.files.loadRequirements source)
  let source <- homed (sourceOr options.catalog environment.catalogSource)
  let catalog <- failed (surroundings.files.loadCatalog source)
  pure (requirements, catalog)

/-- Loads all that a command works with; the state is in the file at a path. -/
def openContext (options : Options) (surroundings : Surroundings) (statePath : Path)
    (ids : IdSupply) : Opening :=
  let data := loadData options surroundings
  match data.outcome with
  | .error failure => { outcome := .error failure, notices := data.notices, ids }
  | .ok (requirements, catalog) =>
      let loaded := StateFile.load (some requirements) statePath surroundings.files ids
      {
        outcome :=
          (loaded.result.mapError .ofState).map fun (state, neglect) =>
            ({ requirements, catalog, state }, neglect)
        notices := data.notices ++ loaded.notices
        ids := loaded.ids
      }

/-- The run after something was written, or could not be. -/
def finish (effect : Effect) (complaints : List Complaint) (code : Nat)
    (written : FileTree.Written) (announcements : List String) : Run :=
  match written.fault with
  | some fault => .fail effect.shown complaints (.file fault) written.files effect.ids
  | none =>
      {
        shown := effect.shown ++ announcements
        complaints
        ending := .status code
        files := written.files
        ids := effect.ids
      }

/-- Makes the change that a command asks for. -/
def commit (effect : Effect) (complaints : List Complaint) (statePath : Path)
    (files : FileTree) : Run :=
  match effect.outcome with
  | .error failure => .fail effect.shown complaints failure files effect.ids
  | .ok code =>
      match effect.change with
      | .nothing => finish effect complaints code ⟨files, none⟩ []
      | .storeState state =>
          finish effect complaints code (StateFile.save state statePath files) []
      | .writeFile path text announcement =>
          finish effect complaints code (files.write path (Encoding.Utf8.encode text.toList))
            [announcement]

/-- Carries out a request on the state in the file at a path. -/
def carryOut (request : Request) (surroundings : Surroundings) (statePath : Path)
    (ids : IdSupply) : Run :=
  let opening := openContext request.options surroundings statePath ids
  let remarks := opening.notices.map Complaint.notice
  match opening.outcome with
  | .error failure => .fail [] remarks failure surroundings.files opening.ids
  | .ok (context, neglect) =>
      let effect := perform request.command context surroundings opening.ids
      let complaints :=
        remarks ++ neglect.toList.map Complaint.note ++ effect.notices.map Complaint.notice
      commit effect complaints statePath surroundings.files

/-- The lines of the help. -/
def helpLines : List String :=
  "usage: gradsim [--state FILE] [--requirements FILE] [--catalog FILE] [--verbose] COMMAND ..."
    :: CommandName.all.map fun name => "  " ++ name.text

/-- Runs the program on a command line. The second result tells whether every remark is shown. -/
def run (arguments : List String) (surroundings : Surroundings) (ids : IdSupply) : Run × Bool :=
  match Request.read arguments with
  | .error refusal => (.refuse refusal helpLines surroundings.files ids, false)
  | .ok request =>
      let result :=
        match pathOr request.options.state surroundings.environment.statePath with
        | .error _ => .fail [] [] .homeless surroundings.files ids
        | .ok statePath => carryOut request surroundings statePath ids
      (result, request.options.verbose)

end CommandLine
end DegreeAudit
