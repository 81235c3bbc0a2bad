import DegreeAudit.Text.Split

namespace DegreeAudit

/-!
Paths of files. A path starts at the root or at the working directory and goes through named parts.
Slashes in a row count as one and single dots as nothing, so a path is known by its parts alone;
only two slashes at the very start are kept apart from one.
-/

/-- Where a path starts. -/
inductive PathStart where
  | working
  | root
  | doubleRoot
  deriving DecidableEq, Repr

/-- A path: where it starts and the parts it goes through. -/
structure Path where
  start : PathStart
  parts : List String
  deriving DecidableEq, Repr

namespace Path

/-- Where a path starts that has some slashes in front. -/
def startOf (slashes : Nat) : PathStart :=
  if slashes = 0 then .working else if slashes = 2 then .doubleRoot else .root

/-- Whether a part leads anywhere. -/
def isPart (part : String) : Bool :=
  part != "" && part != "."

/-- The path that a text writes. -/
def read (text : String) : Path :=
  let pieces := (Text.splitOn '/' text.toList).map String.ofList
  {
    start := startOf (text.toList.takeWhile fun c => c == '/').length
    parts := pieces.filter isPart
  }

/-- The text before the first part. -/
def startText : PathStart -> String
  | .working => ""
  | .root => "/"
  | .doubleRoot => "//"

/-- The text of a path; the working directory itself is a single dot. -/
def text (path : Path) : String :=
  match path.start, path.parts with
  | .working, [] => "."
  | start, parts => startText start ++ Text.joinStrings "/" parts

/-- The last part, or nothing for a path that has none. -/
def name (path : Path) : String :=
  path.parts.getLast?.getD ""

/-- The path without its last part. -/
def parent (path : Path) : Path :=
  { path with parts := path.parts.dropLast }

/-- The path that goes on with further parts. -/
def append (path : Path) (parts : List String) : Path :=
  { path with parts := path.parts ++ parts }

end Path
end DegreeAudit
