import DegreeAudit.Planner.Snapshot
import DegreeAudit.Storage.Reading

namespace DegreeAudit
namespace StateFile

/-!
The state of the planner in a file. A file that cannot be used is to do no harm: the planner starts
afresh and says why. But the question whether there is a file is not guarded in this way: where
there is no answer to it, nothing is loaded. Saving replaces the file as a whole.
-/

/-- Why the stored state is not used. -/
inductive Neglect where
  | unreadable (fault : TextFault)
  | malformed (reason : Snapshot.Reason)
  deriving DecidableEq, Repr

/-- What the user is told about it. -/
def Neglect.message : Neglect -> String
  | .unreadable fault => "cannot read stored state: " ++ fault.message
  | .malformed reason => "stored state ignored (" ++ reason.message ++ ")"

/-- What is remarked about it. -/
def Neglect.notice (path : Path) : Neglect -> Notice
  | .unreadable fault => .stateUnreadable path.text fault.message
  | .malformed reason => .stateMalformed path.text reason.message

/-- Why no state is loaded, not even a new one. -/
inductive Failure where
  | file (fault : FileFault)
  | planner (failure : Planner.Failure)
  deriving DecidableEq, Repr

/-- What loading leaves behind: a state, and why it is not the stored one if it is not. -/
structure Loaded where
  result : Except Failure (PlannerState × Option Neglect)
  ids : IdSupply
  notices : List Notice

/-- A new state in place of the stored one. -/
def startAfresh (path : Path) (neglect : Neglect) (ids : IdSupply) (notices : List Notice) :
    Loaded :=
  {
    result := .ok (PlannerState.initial, some neglect)
    ids
    notices := notices ++ [neglect.notice path]
  }

/-- The state stored at a path; the initial one if nothing is there. -/
def load (requirements : Option (Requirements Float)) (path : Path) (files : FileTree)
    (ids : IdSupply) : Loaded :=
  match files.hasNode path with
  | .error fault => { result := .error (.file fault), ids, notices := [] }
  | .ok false => { result := .ok (PlannerState.initial, none), ids, notices := [] }
  | .ok true =>
      match files.readText path with
      | .error fault => startAfresh path (.unreadable fault) ids []
      | .ok text =>
          let read := Snapshot.read requirements PlannerState.initial ids (.text text)
          match read.result with
          | .error failure =>
              { result := .error (.planner failure), ids := read.ids, notices := read.notices }
          | .ok (.error reason) => startAfresh path (.malformed reason) read.ids read.notices
          | .ok (.ok state) =>
              { result := .ok (state, none), ids := read.ids, notices := read.notices }

/-- Stores a state at a path. -/
def save (state : PlannerState) (path : Path) (files : FileTree) : FileTree.Written :=
  files.replace path (Encoding.Utf8.encode (Snapshot.text state).toList)

end StateFile
end DegreeAudit
