import DegreeAudit.CommandLine.Effect
import DegreeAudit.Planner.Operation
import DegreeAudit.Proofs.Planner.Soundness

namespace DegreeAudit
namespace CommandLine

/-!
# Commands and operations

A command that changes the state stands for an operation of the planner; where it reads a text to
carry out, that is part of the operation.  What a command asks for is what its operation does: it
asks to store exactly the state that the operation leads to, unless that is the state there was, and
a command that is declined or fails asks for nothing.
-/

/-- The operation that a command stands for.  A command that only looks at the state stands for
none, nor does one whose text cannot be read. -/
def Command.operation? (command : Command) (surroundings : Surroundings) :
    Option Planner.Operation :=
  match command with
  | .add entry => some (.add entry)
  | .remove id => some (.remove id)
  | .reclassify id bucket => bucket.map (.reclassify id)
  | .cohort id => some (.cohort id)
  | .track id => some (.track id)
  | .trackType declared => some (.trackType declared)
  | .paste file =>
      (readInput surroundings file).toOption.map fun text => .paste (String.ofList text)
  | .importPages file =>
      (readPages surroundings.files (Path.read file)).toOption.map fun (text, _) => .paste text
  | .importState file =>
      (surroundings.files.readText (Path.read file)).toOption.map fun text =>
        .importSnapshot (.text text)
  | .reset => some .reset
  | .status | .report _ | .list | .buckets | .classify _ _ | .search _ | .exportState _ => none

/-- The state after the operation of a command. -/
def Command.apply (sources : Planner.Sources) (command : Command) (surroundings : Surroundings)
    (state : PlannerState) (ids : IdSupply) : PlannerState :=
  match command.operation? surroundings with
  | some operation => (operation.run sources state ids).state
  | none => state

/-- What a command may ask for where it would lead from one state to another: nothing at all where
it is not carried out, and else that the new state be stored, unless it is the old one. -/
inductive Effect.Faithful (state next : PlannerState) (effect : Effect) : Prop where
  | failed {failure : Failure} (outcome : effect.outcome = .error failure)
  | declined {code : Nat} (outcome : effect.outcome = .ok code) (nonzero : code ≠ 0)
      (change : effect.change = .nothing)
  | kept (outcome : effect.outcome = .ok 0) (change : effect.change = .nothing)
      (same : next = state)
  | stored (outcome : effect.outcome = .ok 0) (change : effect.change = .storeState next)
      (sound : next.Sound)
  | exported (outcome : effect.outcome = .ok 0) (same : next = state) {path : Path}
      {announcement : String}
      (change : effect.change = .writeFile path (Snapshot.text state ++ "\n") announcement)

/-- The requirements have no cohort or track without an id. -/
structure Identified (requirements : Requirements Float) : Prop where
  cohorts : forall cohort, cohort ∈ requirements.cohorts -> cohort.id ≠ ""
  tracks : forall track, track ∈ requirements.tracks -> track.id ≠ ""

namespace Identified

variable {requirements : Requirements Float} {id : String}

theorem ne_of_hasCohort (identified : Identified requirements)
    (present : requirements.hasCohort id = true) : id ≠ "" := by
  rcases List.any_eq_true.mp present with ⟨cohort, listed, same⟩
  rw [<- eq_of_beq same]
  exact identified.cohorts cohort listed

theorem ne_of_hasTrack (identified : Identified requirements)
    (present : requirements.hasTrack id = true) : id ≠ "" := by
  rcases List.any_eq_true.mp present with ⟨track, listed, same⟩
  rw [<- eq_of_beq same]
  exact identified.tracks track listed

end Identified

namespace Effect

variable {state next : PlannerState}

theorem faithful_display (ids : IdSupply) (shown : List String) :
    (Effect.display ids shown).Faithful state state :=
  .kept rfl rfl rfl

theorem faithful_store (ids : IdSupply) (shown : List String) (sound : next.Sound) :
    (Effect.store ids next shown).Faithful state next :=
  .stored rfl rfl sound

theorem faithful_ofOutcome {α : Type} (outcome : Planner.Outcome α) (shown : α -> List String)
    (sound : outcome.state.Sound) :
    (Effect.ofOutcome outcome shown).Faithful state outcome.state := by
  unfold Effect.ofOutcome
  split
  · exact .failed rfl
  · exact .stored rfl rfl sound

theorem faithful_unread (ids : IdSupply) (fault : TextFault) :
    (unread ids fault).Faithful state next := by
  unfold unread
  split
  · exact .failed rfl
  · exact .declined rfl (by decide) rfl

theorem faithful_showReport (context : Context) (ids : IdSupply)
    (lines? : Report Float -> Except Requirements.Gap (List String)) :
    (showReport context ids lines?).Faithful state state := by
  unfold showReport
  split
  · exact .failed rfl
  · exact faithful_display ids _

end Effect

/-- A transcript without a course that is new leaves the state as it is. -/
theorem importPaste_of_none {requirements : Option (Requirements Float)} {text : String}
    {state : PlannerState} {ids : IdSupply} {result : Planner.PasteResult}
    (succeeded : (Planner.importPaste requirements text state ids).result = .ok result)
    (none : result.counts.added = 0) :
    (Planner.importPaste requirements text state ids).state = state := by
  unfold Planner.importPaste at succeeded ⊢
  split at succeeded
  · cases succeeded
  · rename_i track found
    rcases Except.ok.inj succeeded with rfl
    dsimp only
    have added : Transcript.courses
        (Transcript.read track (state.courses.map fun course => course.code) text.toList) = [] := by
      rw [<- List.length_eq_zero_iff, Transcript.courses, List.length_filterMap_eq_countP]
      exact none
    rw [added]
    rfl

section Perform

variable {context : Context} {ids : IdSupply}

theorem faithful_importTranscript (sound : context.state.Sound) (named : ids.Named)
    (text : String) (before : List Notice) :
    (importTranscript context ids text before).Faithful context.state
      (Planner.importPaste (some context.requirements) text context.state ids).state := by
  have imported :
      (Planner.importPaste (some context.requirements) text context.state ids).state.Sound :=
    Planner.sound_importPaste sound named text
  unfold importTranscript Effect.ofOutcome
  dsimp only
  split
  · exact .failed rfl
  · rename_i result succeeded
    rw [succeeded]
    dsimp only
    by_cases none : result.counts.added = 0
    · exact .kept rfl (if_pos none) (importPaste_of_none succeeded none)
    · exact .stored rfl (if_neg none) imported

theorem faithful_importState (sound : context.state.Sound) (named : ids.Named)
    (surroundings : Surroundings) (file : String) :
    (perform (.importState file) context surroundings ids).Faithful context.state
      ((Command.importState file).apply ⟨some context.requirements, some context.catalog⟩
        surroundings context.state ids) := by
  unfold Command.apply Command.operation? perform
  dsimp only
  cases read : surroundings.files.readText (Path.read file) with
  | error fault => exact Effect.faithful_unread ids fault
  | ok text =>
      have imported : (Planner.importSnapshot (some context.requirements) (.text text)
          context.state ids).state.Sound :=
        Planner.sound_importSnapshot sound named (.text text)
      change Effect.Faithful context.state (Planner.importSnapshot (some context.requirements)
        (.text text) context.state ids).state _
      dsimp only
      split
      · exact .declined rfl (by decide) rfl
      · exact Effect.faithful_ofOutcome _ _ imported

/-- Every command asks for what its operation does. -/
theorem faithful_perform (identified : Identified context.requirements)
    (sound : context.state.Sound) (named : ids.Named) (command : Command)
    (surroundings : Surroundings) :
    (perform command context surroundings ids).Faithful context.state
      (command.apply ⟨some context.requirements, some context.catalog⟩ surroundings context.state
        ids) := by
  cases command with
  | status => exact Effect.faithful_showReport context ids _
  | report asDocument => exact Effect.faithful_showReport context ids _
  | list => exact Effect.faithful_display ids _
  | buckets => exact Effect.faithful_display ids _
  | add entry =>
      exact Effect.faithful_ofOutcome _ _ (Planner.sound_addCourse sound named _ entry)
  | remove id => exact Effect.faithful_ofOutcome _ _ (Planner.sound_removeCourse sound id)
  | reclassify id bucket =>
      cases bucket with
      | none => exact .failed rfl
      | some bucket =>
          exact Effect.faithful_ofOutcome _ _ (Planner.sound_reclassify sound id bucket)
  | cohort id =>
      unfold perform
      dsimp only
      split
      · rename_i present
        apply Effect.faithful_store ids []
        exact { sound with cohortId := identified.ne_of_hasCohort present }
      · exact .declined rfl (by decide) rfl
  | track id =>
      unfold perform
      dsimp only
      split
      · rename_i present
        have chosen : (Planner.changeTrack context.requirements id context.state ids).state.Sound :=
          @Planner.sound_chooseTrack (some context.requirements) _ _ sound id
            (identified.ne_of_hasTrack present)
        exact Effect.faithful_ofOutcome _ _ chosen
      · exact .declined rfl (by decide) rfl
  | trackType declared => exact Effect.faithful_store ids [] { sound with }
  | paste file =>
      unfold Command.apply Command.operation? perform
      dsimp only
      cases readInput surroundings file with
      | error fault => exact Effect.faithful_unread ids fault
      | ok text => exact faithful_importTranscript sound named (String.ofList text) []
  | importPages file =>
      unfold Command.apply Command.operation? perform
      dsimp only
      cases readPages surroundings.files (Path.read file) with
      | error failure => exact .failed rfl
      | ok found => exact faithful_importTranscript sound named found.1 _
  | classify code name =>
      unfold perform
      dsimp only
      split
      · exact .failed rfl
      · exact Effect.faithful_display ids _
  | search query => exact Effect.faithful_display ids _
  | exportState file =>
      unfold perform
      dsimp only
      split
      · exact Effect.faithful_display ids _
      · exact Effect.faithful_display ids _
      · exact .exported rfl rfl rfl
  | importState file => exact faithful_importState sound named surroundings file
  | reset => exact Effect.faithful_store ids _ PlannerState.sound_initial

end Perform

end CommandLine
end DegreeAudit
