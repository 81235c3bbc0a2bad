import DegreeAudit.CommandLine.Reach
import DegreeAudit.Planner.Identifier

/-!
The programs as they are started: the planner, and under a name of its own the program that shows
the rows of a document with pages. What a run may reach is looked up before, the run itself is
calculated, and what it has changed is written afterwards. A document with pages is a file with a
list of pages, each a list of words or null.
-/

namespace DegreeAudit
namespace CommandLine
namespace Shell

/-- What a file holds: pages if it is a list of lists and nulls, or else its bytes. -/
def contentOf (bytes : List UInt8) : Content :=
  let page? (item : Json) : Option (Option (List Json)) :=
    match item with
    | .list words => some (some words)
    | .null => some none
    | _ => none
  match Json.readBytes bytes with
  | .ok (.list items) =>
      match items.mapM page? with
      | some pages => .pages pages
      | none => .bytes bytes
  | _ => .bytes bytes

/-- The text of a location as the system takes it. -/
def systemPath (location : List String) : String :=
  "/" ++ Text.joinStrings "/" location

/-- What stands at a location. -/
def probe (location : List String) (withPages : Bool) : IO (Option Node) := do
  let path := (<- IO.currentDir) / systemPath location
  if <- path.isDir then return some .directory
  if <- path.pathExists then
    let bytes := (<- IO.FS.readBinFile path).toList
    return some (.file (if withPages then contentOf bytes else .bytes bytes))
  return none

/-- The tree with what stands along a path. -/
def lookAlong (withPages : Bool) (files : FileTree) (path : Path) : IO FileTree := do
  let mut files := files
  let mut location := files.startOf path
  for part in path.parts do
    location := FileTree.step location part
    match <- probe location withPages with
    | some node => files := files.put location node
    | none => pure ()
  return files

/-- The tree with the working directory alone. -/
def workingTree : IO FileTree := do
  let parts := (<- IO.currentDir).components.filter Path.isPart
  return FileTree.ofEntries parts []

/-- The environment of the program. -/
def environment : IO Environment := do
  let names := ["HOME", "GRADSIM_HOME", "GRADSIM_REQUIREMENTS", "GRADSIM_CATALOG"]
  let mut entries := []
  for name in names do
    match <- IO.getEnv name with
    | some value => entries := (name, value) :: entries
    | none => pure ()
  return { entries, homes := [], user := "" }

/-- All of the standard input. -/
partial def readAll (input : IO.FS.Stream) (before : List UInt8) : IO (List UInt8) := do
  let chunk <- input.read 65536
  if chunk.isEmpty then return before else readAll input (before ++ chunk.toList)

/-- The ids of one run. -/
def newIds : IO IdSupply := do
  let bytes <- IO.getRandomBytes 16
  return IdSupply.random (bytes.toList.foldl (fun number byte => 256 * number + byte.toNat) 0)

/-- Writes a file as a whole: first under another name, then in place of the one that is there. -/
def writeFile (location : List String) (bytes : List UInt8) : IO Unit := do
  IO.FS.createDirAll (systemPath location.dropLast)
  let temporary := systemPath location ++ ".tmp"
  IO.FS.writeBinFile temporary ⟨bytes.toArray⟩
  IO.FS.rename temporary (systemPath location)

/-- Writes the files that are not as they were. -/
def writeChanges (before after : FileTree) : IO Unit := do
  for (location, node) in after.nodes do
    match node, before.node? location with
    | .file (.bytes bytes), some (.file (.bytes old)) =>
        if bytes != old then writeFile location bytes
    | .file (.bytes bytes), _ => writeFile location bytes
    | _, _ => pure ()

/-- Shows what a run shows, and ends as it ends. -/
def conclude (run : Run) (verbose : Bool) : IO UInt32 := do
  IO.print run.output
  IO.eprint (run.errors verbose)
  match run.ending with
  | .finished => return 0
  | .status code => return UInt32.ofNat code
  | .raised failure =>
      IO.eprintln failure.message
      return 1

/-- Runs the planner. -/
def plan (arguments : List String) : IO UInt32 := do
  let environment <- environment
  let paths := pathsOf environment arguments
  let withPages := match Request.read arguments with
    | .ok { command := .importPages _, .. } => true
    | _ => false
  let files <- paths.foldlM (lookAlong withPages) (<- workingTree)
  let standardInput <- if asksForInput arguments then readAll (<- IO.getStdin) [] else pure []
  let (run, verbose) :=
    CommandLine.run arguments { files, environment, standardInput } (<- newIds)
  writeChanges files run.files
  conclude run verbose

/-- Runs the second program. -/
def inspect (arguments : List String) : IO UInt32 := do
  let files <- (Inspection.pathsOf arguments).foldlM (lookAlong true) (<- workingTree)
  conclude (Inspection.run arguments files (<- newIds)) false

end Shell
end CommandLine
end DegreeAudit

/-- Runs the program that the executable is named for. -/
def main (arguments : List String) : IO UInt32 := do
  let name := (<- IO.appPath).fileStem.getD ""
  if name = DegreeAudit.CommandLine.Inspection.inspectorName then
    DegreeAudit.CommandLine.Shell.inspect arguments
  else DegreeAudit.CommandLine.Shell.plan arguments
