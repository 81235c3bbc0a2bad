import DegreeAudit.Proofs.CommandLine.Sequences

namespace DegreeAudit
namespace CommandLine

/-!
# Runs that leave the files alone

A command asks for a change only where it is carried out, and a change is the last thing that a run
makes.  So a run that is refused, declined or fails before it has changed nothing, and if it fails
in making the change itself, the file that was to be replaced is still there and the new one is
gone.  Nothing is asked for either by a command that only looks, or by a transcript without a new
course.

This holds of all files, however they lie in the tree, and of every path and command line.  It is
assumed that what a run shows can be written, as any text can be where the output is encoded in
UTF-8: a run has no other ending than its own for want of a character in an encoding.
-/

/-- The commands that only look at the state and the data. -/
def Command.Inspects : Command -> Prop
  | .status | .report _ | .list | .buckets | .classify _ _ | .search _ => True
  | .exportState file => file = none ∨ file = some ""
  | _ => False

/-- A command imports a transcript, and no course of it is new. -/
def Command.AddsNothing (command : Command) (context : Context) (surroundings : Surroundings)
    (ids : IdSupply) : Prop :=
  ∃ text, command.operation? surroundings = some (.paste text)
    ∧ forall result,
      (Planner.importPaste (some context.requirements) text context.state ids).result
        = .ok result -> result.courses = []

/-- The command of a request only looks, or it adds no course to the state that it finds. -/
def Request.Idle (request : Request) (surroundings : Surroundings) (ids : IdSupply) : Prop :=
  request.command.Inspects
    ∨ forall path context neglect,
      pathOr request.options.state surroundings.environment.statePath = .ok path ->
        (openContext request.options surroundings path ids).outcome = .ok (context, neglect) ->
          request.command.AddsNothing context surroundings
            (openContext request.options surroundings path ids).ids

/-- A run adds directories at most, and it adds none unless it fails in making a change. -/
structure Run.Untouched (files : FileTree) (run : Run) : Prop where
  adds : files.AddsDirectories run.files
  made : run.files = files ∨ ∃ fault, run.ending = .raised (.file fault)

section Asking

/-! ## What commands ask for -/

variable {context : Context} {surroundings : Surroundings} {ids : IdSupply}

/-- An effect asks for a change only where the command is carried out. -/
def Effect.Orderly (effect : Effect) : Prop :=
  effect.change = .nothing ∨ effect.outcome = .ok 0

theorem Effect.orderly_ofOutcome {α : Type} (outcome : Planner.Outcome α)
    (shown : α -> List String) : (Effect.ofOutcome outcome shown).Orderly := by
  unfold Effect.ofOutcome
  split
  · exact Or.inl rfl
  · exact Or.inr rfl

theorem change_showReport (lines? : Report Float -> Except Requirements.Gap (List String)) :
    (showReport context ids lines?).change = .nothing := by
  unfold showReport
  split <;> rfl

theorem change_unread (fault : TextFault) : (unread ids fault).change = .nothing := by
  unfold unread
  split <;> rfl

theorem orderly_importTranscript (text : String) (before : List Notice) :
    (importTranscript context ids text before).Orderly := by
  unfold importTranscript
  dsimp only
  rcases Effect.orderly_ofOutcome
    (Planner.importPaste (some context.requirements) text context.state ids) pasteLines with
    nothing | done
  · refine Or.inl ?_
    dsimp only
    rw [nothing, ite_self]
  · exact Or.inr done

theorem change_perform_of_inspects {command : Command} (inspects : command.Inspects) :
    (perform command context surroundings ids).change = .nothing := by
  cases command with
  | status => exact change_showReport _
  | report asDocument => exact change_showReport _
  | list => rfl
  | buckets => rfl
  | classify code name =>
      unfold perform
      dsimp only
      split <;> rfl
  | search query => rfl
  | exportState file => rcases inspects with rfl | rfl <;> rfl
  | _ => exact False.elim inspects

theorem orderly_perform (command : Command) :
    (perform command context surroundings ids).Orderly := by
  cases command with
  | add entry => exact Effect.orderly_ofOutcome _ _
  | remove id => exact Effect.orderly_ofOutcome _ _
  | reclassify id bucket =>
      cases bucket with
      | none => exact Or.inl rfl
      | some bucket => exact Effect.orderly_ofOutcome _ _
  | cohort id =>
      unfold perform
      dsimp only
      split
      · exact Or.inr rfl
      · exact Or.inl rfl
  | track id =>
      unfold perform
      dsimp only
      split
      · exact Effect.orderly_ofOutcome _ _
      · exact Or.inl rfl
  | trackType declared => exact Or.inr rfl
  | paste file =>
      unfold perform
      dsimp only
      split
      · exact Or.inl (change_unread _)
      · exact orderly_importTranscript _ _
  | importPages file =>
      unfold perform
      dsimp only
      split
      · exact Or.inl rfl
      · exact orderly_importTranscript _ _
  | exportState file =>
      unfold perform
      dsimp only
      split
      · exact Or.inl rfl
      · exact Or.inl rfl
      · exact Or.inr rfl
  | importState file =>
      unfold perform
      dsimp only
      split
      · exact Or.inl (change_unread _)
      · split
        · exact Or.inl rfl
        · exact Effect.orderly_ofOutcome _ _
  | reset => exact Or.inr rfl
  | status => exact Or.inl (change_perform_of_inspects trivial)
  | report asDocument => exact Or.inl (change_perform_of_inspects trivial)
  | list => exact Or.inl rfl
  | buckets => exact Or.inl rfl
  | classify code name => exact Or.inl (change_perform_of_inspects trivial)
  | search query => exact Or.inl rfl

/-- The courses of a transcript that are counted as added are those that it gives. -/
theorem added_eq_length {requirements : Option (Requirements Float)} {text : String}
    {state : PlannerState} {result : Planner.PasteResult}
    (succeeded : (Planner.importPaste requirements text state ids).result = .ok result) :
    result.counts.added = result.courses.length := by
  unfold Planner.importPaste at succeeded
  split at succeeded
  · cases succeeded
  · rcases Except.ok.inj succeeded with rfl
    dsimp only
    rw [IdSupply.length_assign, Transcript.courses, List.length_filterMap_eq_countP]
    rfl

theorem change_importTranscript {text : String}
    (nothing : forall result,
      (Planner.importPaste (some context.requirements) text context.state ids).result
        = .ok result -> result.courses = []) (before : List Notice) :
    (importTranscript context ids text before).change = .nothing := by
  unfold importTranscript
  dsimp only
  cases imported : (Planner.importPaste (some context.requirements) text context.state ids).result
    with
  | error failure => rfl
  | ok result =>
      have none : result.counts.added = 0 := by
        rw [added_eq_length imported, nothing result imported]
        rfl
      exact if_pos none

theorem change_perform_of_addsNothing {command : Command}
    (idle : command.AddsNothing context surroundings ids) :
    (perform command context surroundings ids).change = .nothing := by
  rcases idle with ⟨text, pasted, nothing⟩
  unfold Command.operation? at pasted
  cases command with
  | paste file =>
      unfold perform
      dsimp only at pasted ⊢
      cases read : readInput surroundings file with
      | error fault => exact change_unread fault
      | ok found =>
          rw [read] at pasted
          rcases Planner.Operation.paste.inj (Option.some.inj pasted) with rfl
          exact change_importTranscript nothing []
  | importPages file =>
      unfold perform
      dsimp only at pasted ⊢
      cases read : readPages surroundings.files (Path.read file) with
      | error failure => rfl
      | ok found =>
          rw [read] at pasted
          rcases Planner.Operation.paste.inj (Option.some.inj pasted) with rfl
          exact change_importTranscript nothing _
  | reclassify id bucket =>
      rcases Option.map_eq_some_iff.mp pasted with ⟨_, _, other⟩
      cases other
  | importState file =>
      rcases Option.map_eq_some_iff.mp pasted with ⟨_, _, other⟩
      cases other
  | _ => cases pasted

end Asking

section Runs

/-! ## Runs -/

variable {files : FileTree} {surroundings : Surroundings} {ids : IdSupply}

namespace Run

theorem untouched_of_same {run : Run} (same : run.files = files) : run.Untouched files where
  adds := by
    rw [same]
    exact .refl files
  made := Or.inl same

/-- A run that cannot write something is left with what the attempt leaves. -/
theorem untouched_finish {effect : Effect} {complaints : List Complaint}
    {written : FileTree.Written} {announcements : List String}
    (adds : written.fault ≠ none -> files.AddsDirectories written.files)
    (stopped : (finish effect complaints 0 written announcements).ending ≠ .status 0) :
    (finish effect complaints 0 written announcements).Untouched files := by
  cases fault : written.fault with
  | none =>
      refine absurd ?_ stopped
      unfold finish
      rw [fault]
  | some cause =>
      constructor
      case adds =>
        rw [files_finish]
        exact adds (by rw [fault]; exact Option.some_ne_none cause)
      case made =>
        refine Or.inr ⟨cause, ?_⟩
        unfold finish
        rw [fault]
        rfl

end Run

/-- A change that is not asked for, or not made, leaves the files as they are. -/
theorem untouched_commit {effect : Effect} (orderly : effect.Orderly) {complaints : List Complaint}
    {path : Path}
    (futile : (commit effect complaints path files).ending ≠ .status 0
      ∨ effect.change = .nothing) :
    (commit effect complaints path files).Untouched files := by
  by_cases asked : effect.change = .nothing
  · apply Run.untouched_of_same
    unfold commit
    rw [asked]
    cases effect.outcome with
    | error failure => exact files_fail _ _ _ _ _
    | ok code => exact files_finish _ _ _ _ _
  · -- the command is carried out, so only a change that cannot be made keeps the run from its end
    have done := orderly.resolve_left asked
    have stopped := futile.resolve_right asked
    unfold commit at stopped ⊢
    rw [done] at stopped ⊢
    dsimp only at stopped ⊢
    cases change : effect.change with
    | nothing => exact absurd change asked
    | storeState state =>
        rw [change] at stopped
        exact Run.untouched_finish FileTree.addsDirectories_replace stopped
    | writeFile path text announcement =>
        rw [change] at stopped
        refine Run.untouched_finish (fun fault => ?_) stopped
        rw [FileTree.files_write_of_fault fault]
        exact .refl files

theorem untouched_carryOut {request : Request} {path : Path}
    (futile : (carryOut request surroundings path ids).ending ≠ .status 0
      ∨ forall context neglect,
        (openContext request.options surroundings path ids).outcome = .ok (context, neglect) ->
          request.command.Inspects ∨ request.command.AddsNothing context surroundings
            (openContext request.options surroundings path ids).ids) :
    (carryOut request surroundings path ids).Untouched surroundings.files := by
  unfold carryOut at futile ⊢
  dsimp only at futile ⊢
  cases opened : (openContext request.options surroundings path ids).outcome with
  | error failure => exact Run.untouched_of_same (files_fail _ _ _ _ _)
  | ok found =>
      rcases found with ⟨context, neglect⟩
      rw [opened] at futile
      dsimp only at futile ⊢
      apply untouched_commit (orderly_perform request.command)
      refine futile.imp_right fun idle => ?_
      rcases idle context neglect rfl with inspects | nothing
      · exact change_perform_of_inspects inspects
      · exact change_perform_of_addsNothing nothing

theorem files_refuse (refusal : Refusal) (help : List String) :
    (Run.refuse refusal help files ids).files = files := by
  unfold Run.refuse
  split <;> rfl

theorem untouched_run {arguments : List String}
    (futile : (run arguments surroundings ids).1.ending ≠ .status 0
      ∨ forall request, Request.read arguments = .ok request -> request.Idle surroundings ids) :
    (run arguments surroundings ids).1.Untouched surroundings.files := by
  unfold run at futile ⊢
  cases read : Request.read arguments with
  | error refusal => exact Run.untouched_of_same (files_refuse refusal helpLines)
  | ok request =>
      rw [read] at futile
      dsimp only at futile ⊢
      cases located : pathOr request.options.state surroundings.environment.statePath with
      | error _ => exact Run.untouched_of_same (files_fail _ _ _ _ _)
      | ok path =>
          rw [located] at futile
          apply untouched_carryOut
          refine futile.imp_right fun idle context neglect opened => ?_
          exact (idle request rfl).imp_right fun nothing =>
            nothing path context neglect located opened

end Runs

/-- A run that does not end with the status zero creates, removes and changes no file, and neither
does a command that only looks or a transcript without a new course.  What it may leave are
directories that were made for a file that could not be stored. -/
theorem run_keeps_files (arguments : List String) (surroundings : Surroundings) (ids : IdSupply)
    (futile : (run arguments surroundings ids).1.ending ≠ .status 0
      ∨ forall request, Request.read arguments = .ok request -> request.Idle surroundings ids) :
    let run := (run arguments surroundings ids).1
    (forall location content, run.files.node? location = some (.file content)
        ↔ surroundings.files.node? location = some (.file content))
      ∧ surroundings.files.AddsDirectories run.files
      ∧ (run.files = surroundings.files ∨ ∃ fault, run.ending = .raised (.file fault)) := by
  intro run
  have untouched : run.Untouched surroundings.files := untouched_run futile
  exact ⟨untouched.adds.file_iff, untouched.adds, untouched.made⟩

/-- A directory in the place of the stored state, and a file in the place of a directory. -/
def planTree : FileTree :=
  { working := [], nodes := [(["plan"], .directory), (["notes"], .file (.bytes [0x61]))] }

/-- A run on that tree that keeps its state at a path. -/
def planRun (path command : String) : Run :=
  (run ["--state", path, command] ((bare none [] 0).surroundings planTree) (IdSupply.random 0)).1

/-- Nothing is stored over a directory or below a file, and nothing for a list. -/
theorem run_keeps_files_planTree :
    (planRun "plan" "reset").ending = .raised (.file ⟨.isDirectory, Path.read "plan"⟩)
      ∧ (planRun "notes/plan" "reset").ending = .raised (.file ⟨.alreadyThere, Path.read "notes"⟩)
      ∧ (planRun "plan" "list").ending = .status 0
      ∧ (forall location content, (planRun "plan" "reset").files.node? location
          = some (.file content) ↔ planTree.node? location = some (.file content))
      ∧ (forall location content, (planRun "notes/plan" "reset").files.node? location
          = some (.file content) ↔ planTree.node? location = some (.file content))
      ∧ (planRun "plan" "list").files = planTree := by
  have occupied : (planRun "plan" "reset").ending
      = .raised (.file ⟨.isDirectory, Path.read "plan"⟩) := by
    with_unfolding_all rfl
  have below : (planRun "notes/plan" "reset").ending
      = .raised (.file ⟨.alreadyThere, Path.read "notes"⟩) := by
    with_unfolding_all rfl
  have shown : (planRun "plan" "list").ending = .status 0 := by
    with_unfolding_all rfl
  have listing : Request.read ["--state", "plan", "list"]
      = .ok ⟨⟨some "plan", none, none, false⟩, .list⟩ := by
    with_unfolding_all rfl
  have idle (request : Request) (read : Request.read ["--state", "plan", "list"] = .ok request) :
      request.Idle ((bare none [] 0).surroundings planTree) (IdSupply.random 0) := by
    rcases Except.ok.inj (listing.symm.trans read) with rfl
    exact Or.inl trivial
  have occupiedStopped : (planRun "plan" "reset").ending ≠ .status 0 := by
    rw [occupied]
    exact nofun
  have belowStopped : (planRun "notes/plan" "reset").ending ≠ .status 0 := by
    rw [below]
    exact nofun
  have first := run_keeps_files _ ((bare none [] 0).surroundings planTree) _
    (Or.inl occupiedStopped)
  have second := run_keeps_files _ ((bare none [] 0).surroundings planTree) _ (Or.inl belowStopped)
  have third := run_keeps_files _ ((bare none [] 0).surroundings planTree) (IdSupply.random 0)
    (Or.inr idle)
  refine ⟨occupied, below, shown, first.1, second.1, ?_⟩
  rcases third.2.2 with same | ⟨fault, raised⟩
  · exact same
  · exact absurd (shown.symm.trans raised) nofun

end CommandLine
end DegreeAudit
