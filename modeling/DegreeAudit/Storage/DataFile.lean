import DegreeAudit.Catalog
import DegreeAudit.Packaged.Catalog
import DegreeAudit.Packaged.Requirements
import DegreeAudit.Requirement.Document
import DegreeAudit.Storage.Reading

namespace DegreeAudit

/-!
The requirements and the catalog, taken from data files or from the data that come with the
program. What is wrong with a data file is reported to the user in one line, apart from a few faults
that are passed on as they are: a path that no file can have, bytes that are not text, a number with
too many digits or too large a value, and lists within lists without an end in sight.
-/

/-- Where requirements or a catalog come from. -/
inductive DataSource where
  | packaged
  | file (path : Path)
  deriving DecidableEq, Repr

/-- The kinds of data. -/
inductive DataKind where
  | requirements
  | catalog
  deriving DecidableEq, Repr

/-- What the data are called. -/
def DataKind.label : DataKind -> String
  | .requirements => "requirement specification"
  | .catalog => "course catalog"

/-- The document that the data are. -/
def DataKind.shape : DataKind -> String
  | .requirements => "JSON object"
  | .catalog => "JSON array"

/-- The name of the file with the data that come with the program. -/
def DataKind.fileName : DataKind -> String
  | .requirements => "requirements.json"
  | .catalog => "courses.json"

/-- How a source is shown. -/
def DataSource.text (kind : DataKind) : DataSource -> String
  | .packaged => "<data>/" ++ kind.fileName
  | .file path => path.text

/-- Why no data are read from a file; `Cause` tells what is wrong with the document in it. -/
inductive DataFault (Cause : Type) where
  | unreadable (path : Path) (fault : DocumentFault)
  | wrongShape (path : Path)
  | content (cause : Cause)
  deriving DecidableEq, Repr

/-- Why there are no requirements or no catalog. -/
inductive LoadFault where
  | requirements (fault : DataFault Requirements.Fault)
  | catalog (fault : DataFault Json.Mismatch)
  deriving DecidableEq, Repr

namespace DataFault

variable {Cause : Type}

/-- The message about data, given that about a document. -/
def message (kind : DataKind) (content : Cause -> String) : DataFault Cause -> String
  | .unreadable path (.text (.file ⟨.notFound, _⟩)) => kind.label ++ " not found: " ++ path.text
  | .unreadable _ (.text (.file ⟨.nullInPath, _⟩)) => FileProblem.nullInPath.message
  | .unreadable path fault@(.text (.file _)) =>
      "cannot read " ++ kind.label ++ " " ++ path.text ++ ": " ++ fault.message
  | .unreadable path fault@(.json (.malformed ..)) =>
      "cannot read " ++ kind.label ++ " " ++ path.text ++ ": " ++ fault.message
  | .unreadable _ fault => fault.message
  | .wrongShape path => kind.label ++ " " ++ path.text ++ " is not a " ++ kind.shape
  | .content cause => content cause

/-- Whether the fault is reported in a line of its own. -/
def isReported (content : Cause -> Bool) : DataFault Cause -> Bool
  | .unreadable _ (.text (.file fault)) => fault.isFound
  | .unreadable _ (.json (.malformed ..)) => true
  | .unreadable _ _ => false
  | .wrongShape _ => true
  | .content cause => content cause

end DataFault

namespace LoadFault

/-- The wording of the fault. -/
def message : LoadFault -> String
  | .requirements fault => fault.message .requirements Requirements.Fault.message
  | .catalog fault => fault.message .catalog Catalog.mismatchMessage

/-- Whether the fault is reported in a line of its own. -/
def isReported : LoadFault -> Bool
  | .requirements fault => fault.isReported fun cause => cause != .mismatch .tooLarge
  | .catalog fault => fault.isReported fun cause => cause != .tooLarge

end LoadFault

namespace FileTree

/-- The requirements in the file at a path. -/
def readRequirements (files : FileTree) (path : Path) :
    Logged (DataFault Requirements.Fault) (Requirements Float) :=
  match files.readDocument path with
  | .error fault => .lift (.error (.unreadable path fault))
  | .ok document =>
      match document with
      | .object _ =>
          let read := Requirements.ofDocument document
          ⟨read.notices, read.outcome.mapError .content⟩
      | _ => .lift (.error (.wrongShape path))

/-- The catalog in the file at a path. -/
def readCatalog (files : FileTree) (path : Path) : Except (DataFault Json.Mismatch) Catalog :=
  match files.readDocument path with
  | .error fault => .error (.unreadable path fault)
  | .ok document =>
      match document with
      | .list _ => (Catalog.ofDocument document).mapError .content
      | _ => .error (.wrongShape path)

/-- The requirements of a source. -/
def loadRequirements (files : FileTree) (source : DataSource) :
    Logged LoadFault (Requirements Float) := do
  let requirements <-
    match source with
    | .packaged => pure Packaged.requirements
    | .file path =>
        let read := files.readRequirements path
        ⟨read.notices, read.outcome.mapError .requirements⟩
  Logged.remark (.requirementsLoaded requirements.cohorts.length requirements.tracks.length
    (source.text .requirements))
  pure requirements

/-- The catalog of a source. -/
def loadCatalog (files : FileTree) (source : DataSource) : Logged LoadFault Catalog := do
  let catalog <-
    match source with
    | .packaged => pure Packaged.catalog
    | .file path => Logged.lift ((files.readCatalog path).mapError .catalog)
  Logged.remark (.catalogLoaded catalog.entries.length (source.text .catalog))
  pure catalog

end FileTree
end DegreeAudit
