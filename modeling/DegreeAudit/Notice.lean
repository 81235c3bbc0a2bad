import DegreeAudit.Bucket
import DegreeAudit.Text.Digit
import DegreeAudit.Text.Quoted

namespace DegreeAudit

/-!
What the planner remarks while it works. A remark does not change a result; it is shown or not by
its level. `Logged` is a result together with the remarks made on the way to it, which are kept
when there is no result.
-/

/-- How much a remark matters. -/
inductive Level where
  | debug
  | info
  | warning
  deriving DecidableEq, Repr

/-- A remark. -/
inductive Notice where
  | requirementsLoaded (cohorts tracks : Nat) (path : String)
  | ruleIgnored (key track : String)
  | catalogLoaded (courses : Nat) (path : String)
  | lineSkipped (line : String)
  | duplicateSkipped (code : String)
  | courseAdded (code id : String) (bucket : Bucket)
  | pasteImported (lines added skipped : Nat)
  | entryIgnored (entry : String)
  | stateUnreadable (path cause : String)
  | stateMalformed (path cause : String)
  | rowsExtracted (rows : Nat) (path : String)
  deriving DecidableEq, Repr

namespace Notice

/-- How much the remark matters. -/
def level : Notice -> Level
  | ruleIgnored .. | entryIgnored .. | stateUnreadable .. | stateMalformed .. => .warning
  | pasteImported .. => .info
  | _ => .debug

/-- The part of the planner that makes the remark. -/
def source : Notice -> String
  | requirementsLoaded .. | ruleIgnored .. => "gradsim.requirements"
  | catalogLoaded .. => "gradsim.catalog"
  | lineSkipped .. | duplicateSkipped .. => "gradsim.paste_import"
  | courseAdded .. | pasteImported .. | entryIgnored .. | stateUnreadable .. | stateMalformed .. =>
      "gradsim.state"
  | rowsExtracted .. => "gradsim.pdf_rows"

/-- A count in a remark. -/
def count (n : Nat) : String :=
  String.ofList (Text.digitsOf n)

/-- The wording of the remark. -/
def message : Notice -> String
  | requirementsLoaded cohorts tracks path =>
      "loaded " ++ count cohorts ++ " cohorts and " ++ count tracks ++ " tracks from " ++ path
  | ruleIgnored key track =>
      "ignoring extra rule " ++ Text.quote key ++ " for track " ++ track
  | catalogLoaded courses path =>
      "loaded " ++ count courses ++ " catalog courses from " ++ path
  | lineSkipped line => "skipped unparsable line: " ++ Text.quote line
  | duplicateSkipped code => "skipped duplicate " ++ code
  | courseAdded code id bucket => "added " ++ code ++ " (" ++ id ++ ") to " ++ bucket.id
  | pasteImported lines added skipped =>
      "paste import: " ++ count lines ++ " lines, " ++ count added ++ " added, " ++ count skipped
        ++ " skipped"
  | entryIgnored entry => "ignoring non-object course entry in snapshot: " ++ entry
  | stateUnreadable path cause => "ignoring unreadable stored state " ++ path ++ ": " ++ cause
  | stateMalformed path cause => "ignoring malformed stored state " ++ path ++ ": " ++ cause
  | rowsExtracted rows path => "extracted " ++ count rows ++ " rows from " ++ path

end Notice

/-- A result, or the cause why there is none, with the remarks made on the way. -/
structure Logged (ε α : Type) where
  notices : List Notice
  outcome : Except ε α

namespace Logged

variable {ε α β : Type}

/-- A result without a remark. -/
def result (value : α) : Logged ε α := ⟨[], .ok value⟩

/-- A remark by itself. -/
def remark (notice : Notice) : Logged ε Unit := ⟨[notice], .ok ()⟩

/-- What was found out without a remark. -/
def lift (outcome : Except ε α) : Logged ε α := ⟨[], outcome⟩

/-- The remarks of one step before those of the next, which is taken if the first has a result. -/
def andThen (first : Logged ε α) (next : α -> Logged ε β) : Logged ε β :=
  match first.outcome with
  | .error cause => ⟨first.notices, .error cause⟩
  | .ok value => ⟨first.notices ++ (next value).notices, (next value).outcome⟩

instance : Monad (Logged ε) where
  pure := result
  bind := andThen

@[simp]
theorem outcome_pure (value : α) : (pure value : Logged ε α).outcome = .ok value := rfl

@[simp]
theorem outcome_lift (outcome : Except ε α) : (lift outcome).outcome = outcome := rfl

@[simp]
theorem outcome_bind (first : Logged ε α) (next : α -> Logged ε β) :
    (first >>= next).outcome = first.outcome.bind fun value => (next value).outcome := by
  show (andThen first next).outcome = _
  unfold andThen
  cases first.outcome <;> rfl

end Logged
end DegreeAudit
