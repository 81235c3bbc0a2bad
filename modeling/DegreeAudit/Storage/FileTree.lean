import DegreeAudit.Page.Extraction
import DegreeAudit.Storage.Path

namespace DegreeAudit

/-!
The files and directories that a run of the program finds and leaves behind. A location is the list
of names from the root down. A path leads to a location only through directories that are there and
by names that a file can have; whether something is at the location itself is asked afterwards.
-/

/-- What a file holds: bytes, or the pages of a document that is read page by page. -/
inductive Content where
  | bytes (content : List UInt8)
  | pages (pages : Pages)

/-- What stands at a location. -/
inductive Node where
  | file (content : Content)
  | directory

/-- The files and directories, and the location paths start from. -/
structure FileTree where
  working : List String
  nodes : List (List String × Node)

/-- Why a file or directory cannot be used. -/
inductive FileProblem where
  | notFound
  | isDirectory
  | notDirectory
  | alreadyThere
  | inUse
  | nameTooLong
  /-- A null character in a path, with which nothing is looked for at all. -/
  | nullInPath
  deriving DecidableEq, Repr

/-- A problem at a path. -/
structure FileFault where
  problem : FileProblem
  path : Path
  deriving DecidableEq, Repr

/-- The wording of a problem, with its number if it has one. -/
def FileProblem.message : FileProblem -> String
  | .notFound => "[Errno 2] No such file or directory"
  | .isDirectory => "[Errno 21] Is a directory"
  | .notDirectory => "[Errno 20] Not a directory"
  | .alreadyThere => "[Errno 17] File exists"
  | .inUse => "[Errno 16] Device or resource busy"
  | .nameTooLong => "[Errno 36] File name too long"
  | .nullInPath => "embedded null byte"

/-- Whether a problem is found by looking for a file, and not by looking at the path alone. -/
def FileFault.isFound (fault : FileFault) : Bool :=
  fault.problem != .nullInPath

/-- The wording of a problem at a path. -/
def FileFault.message (fault : FileFault) : String :=
  if fault.isFound then fault.problem.message ++ ": " ++ Text.quote fault.path.text
  else fault.problem.message

/-- The most bytes that the name of a file may have. -/
def longestName : Nat := 255

/-- The most bytes that a path may have. -/
def longestPath : Nat := 4095

/-- Why a path leads nowhere, whatever files there are. -/
def Path.problem? (path : Path) : Option FileProblem :=
  if path.text.toList.contains (Char.ofNat 0) then some .nullInPath
  else if longestPath < path.text.utf8ByteSize then some .nameTooLong
  else none

namespace FileTree

/-- What stands at a location. The root is always a directory. -/
def node? (files : FileTree) (location : List String) : Option Node :=
  if location.isEmpty then some .directory
  else (files.nodes.find? fun entry => entry.1 == location).map fun entry => entry.2

/-- The tree with something new at a location, or something else. -/
def put (location : List String) (node : Node) (files : FileTree) : FileTree :=
  { files with nodes := (location, node) :: files.nodes.filter fun entry => entry.1 != location }

/-- The tree with nothing at a location. -/
def erase (location : List String) (files : FileTree) : FileTree :=
  { files with nodes := files.nodes.filter fun entry => entry.1 != location }

/-- The location that a part leads to from a directory. -/
def step (location : List String) (part : String) : List String :=
  if part = ".." then location.dropLast else location ++ [part]

/-- The location that a path starts at. -/
def startOf (files : FileTree) (path : Path) : List String :=
  match path.start with
  | .working => files.working
  | .root | .doubleRoot => []

/-- The location that parts lead to. -/
def walk (files : FileTree) : (location : List String) -> (parts : List String) ->
    Except FileProblem (List String)
  | location, [] => .ok location
  | location, part :: parts =>
      match files.node? location with
      | some .directory =>
          if longestName < part.utf8ByteSize then .error .nameTooLong
          else files.walk (step location part) parts
      | some (.file _) => .error .notDirectory
      | none => .error .notFound

/-- The location that a path leads to. -/
def locate (files : FileTree) (path : Path) : Except FileProblem (List String) :=
  match path.problem? with
  | some problem => .error problem
  | none => files.walk (files.startOf path) path.parts

/-- Whether something stands where a path leads to. A name that is too long leaves that open. -/
def hasNode (files : FileTree) (path : Path) : Except FileFault Bool :=
  match files.locate path with
  | .ok location => .ok (files.node? location).isSome
  | .error .nameTooLong => .error ⟨.nameTooLong, path⟩
  | .error _ => .ok false

/-- The content of the file at a path. -/
def read (files : FileTree) (path : Path) : Except FileFault Content :=
  match files.locate path with
  | .error problem => .error ⟨problem, path⟩
  | .ok location =>
      match files.node? location with
      | some (.file content) => .ok content
      | some .directory => .error ⟨.isDirectory, path⟩
      | none => .error ⟨.notFound, path⟩

/-- What writing leaves behind: the tree, and what went wrong if something did. -/
structure Written where
  files : FileTree
  fault : Option FileFault

/-- Writes a file at a path, over the one that is there. -/
def write (path : Path) (content : List UInt8) (files : FileTree) : Written :=
  match files.locate path with
  | .error problem => ⟨files, some ⟨problem, path⟩⟩
  | .ok location =>
      match files.node? location with
      | some .directory => ⟨files, some ⟨.isDirectory, path⟩⟩
      | _ => ⟨files.put location (.file (.bytes content)), none⟩

/-- Makes the directories that parts go through and that are not there. -/
def makeDirectories : (location : List String) -> (parts : List String) -> FileTree ->
    FileTree × Option FileProblem
  | _, [], files => (files, none)
  | location, part :: parts, files =>
      let next := step location part
      match files.node? next with
      | some .directory => makeDirectories next parts files
      | some (.file _) =>
          (files, some (if parts.isEmpty then .alreadyThere else .notDirectory))
      | none =>
          if longestName < part.utf8ByteSize then (files, some .nameTooLong)
          else makeDirectories next parts (files.put next .directory)

/-- A name that begins and ends as given and is longer than every name in the tree, so that nothing
has it. -/
def newName (start ending : String) (files : FileTree) : String :=
  let names := files.nodes.flatMap fun entry => entry.1
  let longest := (names.map String.length).foldl max 0
  start ++ String.ofList (List.replicate (longest + 1) 'x') ++ ending

/-- How many bytes are added to a name in the name of a new file that is to take its place. -/
def newNameGrowth : Nat := 12

/-- Why no new file can be made next to that of a path: its name would be none. -/
def newNameProblem? (path : Path) : Option FileProblem :=
  if path.name.toList.contains (Char.ofNat 0) then some .nullInPath
  else if longestName < path.name.utf8ByteSize + newNameGrowth
      || longestPath < path.text.utf8ByteSize + newNameGrowth then some .nameTooLong
  else none

/-- What stands in the way of moving a file to a location that a path leads to. -/
def moveProblem? (files : FileTree) (path : Path) : Option FileProblem :=
  if path.name = "" || path.name = ".." then some .inUse
  else
    match files.locate path with
    | .error problem => some problem
    | .ok location =>
        match files.node? location with
        | some .directory => some .isDirectory
        | _ => none

/-- Moves a file to where a path leads to, over the file that is there. -/
def move (source : List String) (path : Path) (files : FileTree) : Written :=
  match moveProblem? files path, files.locate path, files.node? source with
  | none, .ok target, some node => ⟨(files.erase source).put target node, none⟩
  | some problem, _, _ => ⟨files, some ⟨problem, path⟩⟩
  | none, .error problem, _ => ⟨files, some ⟨problem, path⟩⟩
  | none, .ok _, none => ⟨files, some ⟨.notFound, path⟩⟩

/-- Replaces the file at a path as a whole: the content is written to a new file next to it, which
then takes its place, or is removed again if it cannot. Missing directories are made first. -/
def replace (path : Path) (content : List UInt8) (files : FileTree) : Written :=
  let above := path.parent
  let made :=
    match above.problem? with
    | some problem => (files, some problem)
    | none => makeDirectories (files.startOf above) above.parts files
  match made with
  | (files, some problem) => ⟨files, some ⟨problem, above⟩⟩
  | (files, none) =>
      match newNameProblem? path, files.locate above with
      | some problem, _ => ⟨files, some ⟨problem, path⟩⟩
      | none, .error problem => ⟨files, some ⟨problem, above⟩⟩
      | none, .ok directory =>
          let temporary := directory ++ [files.newName path.name ".tmp"]
          let moved := (files.put temporary (.file (.bytes content))).move temporary path
          if moved.fault.isSome then ⟨moved.files.erase temporary, moved.fault⟩ else moved

/-- A tree of a working directory with files at locations below it. -/
def ofEntries (working : List String) (entries : List (List String × Node)) : FileTree :=
  let start : FileTree := { working, nodes := [] }
  let place (files : FileTree) (location : List String) (node : Node) : FileTree :=
    (makeDirectories [] location.dropLast files).1.put location node
  entries.foldl (fun files entry => place files (working ++ entry.1) entry.2)
    (makeDirectories [] working start).1

end FileTree
end DegreeAudit
