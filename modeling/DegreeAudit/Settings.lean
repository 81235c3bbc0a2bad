import DegreeAudit.Storage.DataFile
import DegreeAudit.Text.Blank

namespace DegreeAudit

/-!
Where the program keeps its state and finds its data, as far as the environment decides it. A
variable that is blank counts as not set, and a path may start in a home directory.
-/

/-- The variables of the environment and the home directories of accounts. -/
structure Environment where
  entries : List (String × String)
  homes : List (String × String)
  user : String

/-- There is no home directory where one is needed. -/
inductive Homeless where
  | homeless
  deriving DecidableEq, Repr

/-- The wording of a missing home directory. -/
def Homeless.message (_ : Homeless) : String :=
  "Could not determine home directory."

namespace Environment

/-- The value of a variable. -/
def value? (environment : Environment) (name : String) : Option String :=
  (environment.entries.find? fun entry => entry.1 == name).map fun entry => entry.2

/-- The home directory of an account; that of the user may be set by a variable. -/
def home? (environment : Environment) (account : String) : Option String :=
  let homeOf (name : String) : Option String :=
    (environment.homes.find? fun entry => entry.1 == name).map fun entry => entry.2
  if account = "" then (environment.value? "HOME").or (homeOf environment.user)
  else homeOf account

/-- A text without the slashes at its end. -/
def withoutEndSlashes (text : String) : String :=
  String.ofList (text.toList.reverse.dropWhile (fun c => c == '/')).reverse

/-- The path with a home directory in place of a first part that begins with a tilde. -/
def expandHome (environment : Environment) (path : Path) : Except Homeless Path :=
  match path.start, path.parts with
  | .working, first :: parts =>
      match first.toList with
      | '~' :: account =>
          match environment.home? (String.ofList account) with
          | none => .error .homeless
          | some home =>
              let home := withoutEndSlashes home
              let home := if home = "" then "/" else home
              if home.toList.head? = some '~' then .error .homeless
              else .ok ((Path.read home).append parts)
      | _ => .ok path
  | _, _ => .ok path

/-- The path that a variable gives. -/
def path? (environment : Environment) (name : String) : Except Homeless (Option Path) :=
  let text := String.ofList (Text.trim ((environment.value? name).getD "").toList)
  if text = "" then .ok none else some <$> environment.expandHome (Path.read text)

/-- The name of the file that keeps the state. -/
def stateFileName : String := "gradsim_state_v1.json"

/-- The directory that keeps the state. -/
def stateDirectory (environment : Environment) : Except Homeless Path := do
  match <- environment.path? "GRADSIM_HOME" with
  | some path => pure path
  | none => pure ((<- environment.expandHome (Path.read "~")).append [".gradsim"])

/-- The file that keeps the state. -/
def statePath (environment : Environment) : Except Homeless Path := do
  pure ((<- environment.stateDirectory).append [stateFileName])

/-- Where data come from for which a variable may name a file. -/
def dataSource (environment : Environment) (name : String) : Except Homeless DataSource := do
  match <- environment.path? name with
  | some path => pure (.file path)
  | none => pure .packaged

/-- Where the requirements come from. -/
def requirementsSource (environment : Environment) : Except Homeless DataSource :=
  environment.dataSource "GRADSIM_REQUIREMENTS"

/-- Where the catalog comes from. -/
def catalogSource (environment : Environment) : Except Homeless DataSource :=
  environment.dataSource "GRADSIM_CATALOG"

end Environment
end DegreeAudit
