import DegreeAudit.CommandLine.Run
import DegreeAudit.Proofs.CommandLine.Commands
import DegreeAudit.Proofs.Requirement.Document
import DegreeAudit.Proofs.Storage.StateFile

namespace DegreeAudit
namespace CommandLine

/-!
# Runs of the program

A run loads the state, and what it stores is what the operation of its command makes of that state.
In memory a run counts only if it ends with the status zero; one that is refused, declined or fails
changes nothing there, and nothing that is loaded from the path.
-/

/-- What a run is started with, apart from the files. -/
structure Invocation where
  arguments : List String
  environment : Environment
  standardInput : List UInt8
  ids : IdSupply

namespace Invocation

/-- What the command of a run finds outside of the planner. -/
def surroundings (invocation : Invocation) (files : FileTree) : Surroundings :=
  { files, environment := invocation.environment, standardInput := invocation.standardInput }

/-- The run on files. -/
def run (invocation : Invocation) (files : FileTree) : Run :=
  (CommandLine.run invocation.arguments (invocation.surroundings files) invocation.ids).1

/-- The state in memory after a run.  The operation of its command is carried out if the run ends
with the status zero. -/
def apply (sources : Planner.Sources) (invocation : Invocation) (files : FileTree)
    (state : PlannerState) : PlannerState :=
  match Request.read invocation.arguments with
  | .error _ => state
  | .ok request =>
      if (invocation.run files).ending = .status 0 then
        request.command.apply sources (invocation.surroundings files) state invocation.ids
      else state

/-- A run gives ids to new courses, and if it gets that far it keeps its state at the given path
and works from the given data. -/
structure Uses (requirements : Requirements Float) (catalog : Catalog) (path : Path)
    (files : FileTree) (invocation : Invocation) : Prop where
  named : invocation.ids.Named
  path : forall request found, Request.read invocation.arguments = .ok request ->
    pathOr request.options.state invocation.environment.statePath = .ok found -> found = path
  data : forall request loaded, Request.read invocation.arguments = .ok request ->
    (loadData request.options (invocation.surroundings files)).outcome = .ok loaded ->
      loaded = (requirements, catalog)

end Invocation

section Data

/-! ## Data that are loaded -/

/-- Steps that make remarks have a result where each of them has one. -/
theorem outcome_bind_eq_ok {ε α β : Type} {first : Logged ε α} {next : α -> Logged ε β}
    {result : β} : (first >>= next).outcome = .ok result ↔
      ∃ value, first.outcome = .ok value ∧ (next value).outcome = .ok result := by
  rw [Logged.outcome_bind]
  exact bind_eq_ok

theorem mapError_eq_ok {ε ε' α : Type} {outcome : Except ε α} {f : ε -> ε'} {result : α} :
    outcome.mapError f = .ok result ↔ outcome = .ok result := by
  cases outcome with
  | error failure =>
      constructor
      · intro impossible
        cases impossible
      · intro impossible
        cases impossible
  | ok value => simp [Except.mapError]

theorem mapError_eq_error {ε ε' α : Type} {outcome : Except ε α} {f : ε -> ε'} {fault : ε'} :
    outcome.mapError f = .error fault ↔ ∃ cause, outcome = .error cause ∧ f cause = fault := by
  cases outcome <;> simp [Except.mapError]

theorem present_readRequirements {files : FileTree} {path : Path}
    {requirements : Requirements Float}
    (loaded : (files.readRequirements path).outcome = .ok requirements) :
    requirements.cohorts ≠ [] ∧ requirements.tracks ≠ [] := by
  unfold FileTree.readRequirements at loaded
  split at loaded
  · cases loaded
  · split at loaded
    · exact Requirements.present_ofDocument (mapError_eq_ok.mp loaded)
    · cases loaded

theorem tracks_loadRequirements {files : FileTree} {source : DataSource}
    {requirements : Requirements Float}
    (loaded : (files.loadRequirements source).outcome = .ok requirements) :
    requirements.tracks ≠ [] := by
  unfold FileTree.loadRequirements at loaded
  cases source with
  | packaged =>
      rcases outcome_bind_eq_ok.mp loaded with ⟨read, found, later⟩
      rcases outcome_bind_eq_ok.mp later with ⟨_, _, same⟩
      rcases Except.ok.inj same with rfl
      rcases Except.ok.inj found with rfl
      exact List.cons_ne_nil _ _
  | file path =>
      rcases outcome_bind_eq_ok.mp loaded with ⟨read, found, later⟩
      rcases outcome_bind_eq_ok.mp later with ⟨_, _, same⟩
      rcases Except.ok.inj same with rfl
      exact (present_readRequirements (mapError_eq_ok.mp found)).2

/-- Requirements that are loaded have a track. -/
theorem tracks_loadData {options : Options} {surroundings : Surroundings}
    {requirements : Requirements Float} {catalog : Catalog}
    (loaded : (loadData options surroundings).outcome = .ok (requirements, catalog)) :
    requirements.tracks ≠ [] := by
  unfold loadData at loaded
  rcases outcome_bind_eq_ok.mp loaded with ⟨source, _, loaded⟩
  rcases outcome_bind_eq_ok.mp loaded with ⟨found, read, loaded⟩
  rcases outcome_bind_eq_ok.mp loaded with ⟨_, _, loaded⟩
  rcases outcome_bind_eq_ok.mp loaded with ⟨_, _, same⟩
  rcases (Prod.mk.inj (Except.ok.inj same)).1 with rfl
  exact tracks_loadRequirements (mapError_eq_ok.mp read)

end Data

section Commit

/-! ## One run -/

theorem status?_ne_zero (failure : Failure) : failure.status? ≠ some 0 := by
  cases failure with
  | load fault =>
      unfold Failure.status?
      split <;> simp
  | planner failure => cases failure <;> simp [Failure.status?]
  | _ => simp [Failure.status?]

theorem ending_fail (shown : List String) (complaints : List Complaint) (failure : Failure)
    (files : FileTree) (ids : IdSupply) :
    (Run.fail shown complaints failure files ids).ending ≠ .status 0 := by
  unfold Run.fail
  split
  · rename_i code known
    intro zero
    rcases Ending.status.inj zero with rfl
    exact status?_ne_zero failure known
  · exact Ending.noConfusion

theorem files_fail (shown : List String) (complaints : List Complaint) (failure : Failure)
    (files : FileTree) (ids : IdSupply) :
    (Run.fail shown complaints failure files ids).files = files := by
  unfold Run.fail
  split <;> rfl

theorem files_finish (effect : Effect) (complaints : List Complaint) (code : Nat)
    (written : FileTree.Written) (announcements : List String) :
    (finish effect complaints code written announcements).files = written.files := by
  unfold finish
  split
  · exact files_fail _ _ _ _ _
  · rfl

/-- After a run the path stands for the state that counts: the new one if the run ends with the
status zero, and else the old one. -/
structure Settled (requirements : Requirements Float) (path : Path) (state next : PlannerState)
    (run : Run) : Prop where
  wellFormed : run.files.WellFormed
  holds : StateFile.Holds requirements path run.files
    (if run.ending = .status 0 then next else state)

variable {requirements : Requirements Float} {catalog : Catalog} {path : Path} {files : FileTree}
  {state next : PlannerState}

theorem settled_fail (wellFormed : files.WellFormed)
    (holds : StateFile.Holds requirements path files state) (shown : List String)
    (complaints : List Complaint) (failure : Failure) (ids : IdSupply) :
    Settled requirements path state next (Run.fail shown complaints failure files ids) where
  wellFormed := by
    rw [files_fail]
    exact wellFormed
  holds := by
    rw [files_fail, if_neg (ending_fail _ _ _ _ _)]
    exact holds

/-- Once something was written, the run ends with the status of its command, or else it fails. -/
theorem settled_finish (effect : Effect) (complaints : List Complaint) (code : Nat)
    {written : FileTree.Written} (announcements : List String)
    (wellFormed : written.files.WellFormed)
    (holds : StateFile.Holds requirements path written.files
      (if written.fault = none ∧ code = 0 then next else state)) :
    Settled requirements path state next
      (finish effect complaints code written announcements) := by
  unfold finish
  split
  · rename_i fault faulty
    rw [faulty, if_neg (by simp)] at holds
    exact settled_fail wellFormed holds _ _ _ _
  · rename_i fine
    rw [fine] at holds
    exact ⟨wellFormed, by simpa using holds⟩

/-- Making the change that a command asks for, the path comes to stand for the state after the
operation of the command. -/
theorem settled_commit (wellFormed : files.WellFormed) (storable : path.Storable)
    (tracked : requirements.tracks ≠ [])
    (holds : StateFile.Holds requirements path files state) {effect : Effect}
    (faithful : effect.Faithful state next) (complaints : List Complaint) :
    Settled requirements path state next (commit effect complaints path files) := by
  unfold commit
  cases faithful with
  | failed outcome =>
      rw [outcome]
      exact settled_fail wellFormed holds _ _ _ _
  | declined outcome nonzero change =>
      rw [outcome, change]
      apply settled_finish effect complaints _ [] wellFormed
      rw [if_neg (fun both => nonzero both.2)]
      exact holds
  | kept outcome change same =>
      rw [outcome, change]
      apply settled_finish effect complaints _ [] wellFormed
      rw [if_pos ⟨rfl, rfl⟩, same]
      exact holds
  | stored outcome change sound =>
      rw [outcome, change]
      rcases holds.save wellFormed storable tracked sound with ⟨formed, saved⟩
      apply settled_finish effect complaints _ [] formed
      simpa using saved
  | exported outcome same change =>
      rcases holds.write wellFormed tracked _ with ⟨formed, written⟩
      have content : Encoding.Utf8.encode (Snapshot.text state ++ "\n").toList
          = Snapshot.content state ['\n'] := by
        rw [String.toList_append]
        rfl
      rw [outcome, change]
      dsimp only
      rw [content]
      apply settled_finish effect complaints _ _ formed
      rw [same, ite_self]
      exact written

/-- The state that the path stands for is the one that a command works with. -/
theorem openContext_of_holds {options : Options} {surroundings : Surroundings}
    (holds : StateFile.Holds requirements path surroundings.files state)
    (loaded : (loadData options surroundings).outcome = .ok (requirements, catalog))
    (ids : IdSupply) :
    ∃ neglect notices, openContext options surroundings path ids
      = { outcome := .ok ({ requirements, catalog, state }, neglect), notices, ids } := by
  rcases holds.load ids with ⟨neglect, notices, found⟩
  unfold openContext
  dsimp only
  rw [loaded]
  dsimp only
  rw [found]
  exact ⟨neglect, _, rfl⟩

/-- Carrying out a request makes the path stand for the state after the operation of its command. -/
theorem settled_carryOut (identified : Identified requirements) (storable : path.Storable)
    {request : Request} {surroundings : Surroundings} {ids : IdSupply} (named : ids.Named)
    (wellFormed : surroundings.files.WellFormed)
    (holds : StateFile.Holds requirements path surroundings.files state)
    (data : forall loaded, (loadData request.options surroundings).outcome = .ok loaded ->
      loaded = (requirements, catalog)) :
    Settled requirements path state
      (request.command.apply ⟨some requirements, some catalog⟩ surroundings state ids)
      (carryOut request surroundings path ids) := by
  cases loaded : (loadData request.options surroundings).outcome with
  | error failure =>
      unfold carryOut openContext
      dsimp only
      rw [loaded]
      exact settled_fail wellFormed holds _ _ _ _
  | ok found =>
      have tracked : requirements.tracks ≠ [] := by
        rw [data found loaded] at loaded
        exact tracks_loadData loaded
      rw [data found loaded] at loaded
      rcases openContext_of_holds holds loaded ids with ⟨neglect, notices, opened⟩
      have faithful := @faithful_perform { requirements, catalog, state } ids identified holds.sound
        named request.command surroundings
      unfold carryOut
      rw [opened]
      exact settled_commit wellFormed storable tracked holds faithful _

/-- A run makes the path stand for the state in memory after it. -/
theorem settled_run (identified : Identified requirements) (storable : path.Storable)
    (wellFormed : files.WellFormed) (holds : StateFile.Holds requirements path files state)
    {invocation : Invocation} (uses : invocation.Uses requirements catalog path files) :
    (invocation.run files).files.WellFormed
      ∧ StateFile.Holds requirements path (invocation.run files).files
        (invocation.apply ⟨some requirements, some catalog⟩ files state) := by
  unfold Invocation.apply
  cases read : Request.read invocation.arguments with
  | error refusal =>
      have unchanged : (invocation.run files).files = files := by
        unfold Invocation.run CommandLine.run Run.refuse
        rw [read]
        dsimp only
        split <;> rfl
      rw [unchanged]
      exact ⟨wellFormed, holds⟩
  | ok request =>
      have settled : Settled requirements path state
          (request.command.apply ⟨some requirements, some catalog⟩ (invocation.surroundings files)
            state invocation.ids) (invocation.run files) := by
        unfold Invocation.run CommandLine.run
        rw [read]
        dsimp only
        split
        · exact settled_fail wellFormed holds _ _ _ _
        · rename_i found located
          rcases uses.path request found read located with rfl
          exact settled_carryOut identified storable uses.named wellFormed holds
            fun loaded => uses.data request loaded read
      exact ⟨settled.wellFormed, settled.holds⟩

end Commit

end CommandLine
end DegreeAudit
