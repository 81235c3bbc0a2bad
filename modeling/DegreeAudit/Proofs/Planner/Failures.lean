import DegreeAudit.Proofs.Planner.Compounds
import DegreeAudit.Proofs.Storage.Loading

namespace DegreeAudit
namespace Planner

/-!
# Operations that fail

An operation fails for one of three reasons: no course has the id that it names, credits are a
whole number beyond every real one, or a document that is handed over has no text where one is
taken.  Each shows before anything is written, so nothing is.  Choosing a track is the one operation
that writes first and looks afterwards, and requirements of a document always have a track to be
found.

What a sequence of operations leaves is therefore left by those of them that succeed.
-/

/-- What keeps an operation from being carried out on a state. -/
def Operation.Fails (state : PlannerState) (failure : Failure) : Operation -> Prop
  | add entry => failure = .creditsTooLarge ∧ entry.credits.TooLarge
  | remove id => failure = .unknownCourse id ∧ state.course? id = none
  | reclassify id _ => failure = .unknownCourse id ∧ state.course? id = none
  | importSnapshot source => Snapshot.Unanswered source failure
  | cohort _ | track _ | trackType _ | paste _ | reset => False

/-- Operations that are carried out one after another from one state to another, each with ids of
its own, and none of which fails. -/
inductive Succeed (sources : Sources) : PlannerState -> List Operation -> PlannerState -> Prop where
  | nil (state : PlannerState) : Succeed sources state [] state
  | cons {state after : PlannerState} {operation : Operation} {operations : List Operation}
      {ids : IdSupply} {answer : Answer}
      (answered : (operation.run sources state ids).result = .ok answer)
      (others : Succeed sources (operation.run sources state ids).state operations after) :
      Succeed sources state (operation :: operations) after

variable {sources : Sources} {state : PlannerState} {ids : IdSupply} {failure : Failure}

section Each

/-! ## Each operation -/

variable {requirements : Option (Requirements Float)}

theorem addCourse_eq_error_iff
    (tracked : forall given, requirements = some given -> given.tracks ≠ [])
    (catalog : Option Catalog) (entry : Entry) :
    (addCourse requirements catalog entry state ids).result = .error failure
      ↔ failure = .creditsTooLarge ∧ entry.credits.TooLarge := by
  rw [<- course_eq_error_iff tracked catalog state]
  unfold addCourse
  cases entry.course requirements catalog state with
  | error cause => simp
  | ok data => exact iff_of_false nofun nofun

theorem removeCourse_eq_error_iff (id : String) :
    (removeCourse id state ids).result = .error failure
      ↔ failure = .unknownCourse id ∧ state.course? id = none := by
  unfold removeCourse
  cases state.course? id with
  | none => simp [eq_comm]
  | some course => simp

theorem reclassify_eq_error_iff (id : String) (bucket : Bucket) :
    (reclassify id bucket state ids).result = .error failure
      ↔ failure = .unknownCourse id ∧ state.course? id = none := by
  unfold reclassify
  cases state.course? id with
  | none => simp [eq_comm]
  | some course => simp

theorem chooseTrack_ne_error
    (tracked : forall given, requirements = some given -> given.tracks ≠ []) (id : String) :
    (chooseTrack requirements id state ids).result ≠ .error failure := by
  cases requirements with
  | none => exact nofun
  | some given =>
      rcases List.exists_cons_of_ne_nil (tracked given rfl) with ⟨first, rest, listed⟩
      unfold chooseTrack changeTrack Requirements.track
      dsimp only
      rw [listed]
      exact nofun

theorem importPaste_ne_error
    (tracked : forall given, requirements = some given -> given.tracks ≠ []) (text : String) :
    (importPaste requirements text state ids).result ≠ .error failure := by
  rcases exists_activeTrack tracked state with ⟨track, active⟩
  rw [importPaste_of_active active]
  exact nofun

theorem importSnapshot_eq_error_iff
    (tracked : forall given, requirements = some given -> given.tracks ≠ [])
    (source : Snapshot.Source) :
    (importSnapshot requirements source state ids).result = .error failure
      ↔ Snapshot.Unanswered source failure := by
  have unread : (Snapshot.read requirements state ids source).result = .error failure
      ↔ Snapshot.Unanswered source failure :=
    Snapshot.result_read_eq_error_iff tracked failure
  rw [<- unread]
  unfold importSnapshot
  dsimp only
  cases (Snapshot.read requirements state ids source).result with
  | error cause => simp
  | ok read => cases read <;> simp

end Each

section Any

/-! ## Any operation -/

variable (tracked : forall given, sources.requirements = some given -> given.tracks ≠ [])

include tracked

/-- An operation fails just for the reasons there are. -/
theorem Operation.run_eq_error_iff (operation : Operation) :
    (operation.run sources state ids).result = .error failure ↔ operation.Fails state failure := by
  have passed {α : Type} {answer : α -> Answer} (outcome : Outcome α) :
      (outcome.map answer).result = .error failure ↔ outcome.result = .error failure :=
    map_eq_error
  cases operation with
  | add entry => exact (passed _).trans (addCourse_eq_error_iff tracked sources.catalog entry)
  | remove id => exact (passed _).trans (removeCourse_eq_error_iff id)
  | reclassify id bucket => exact (passed _).trans (reclassify_eq_error_iff id bucket)
  | cohort id => exact iff_of_false nofun not_false
  | track id => exact (passed _).trans (iff_of_false (chooseTrack_ne_error tracked id) not_false)
  | trackType declared => exact iff_of_false nofun not_false
  | paste text =>
      exact (passed _).trans (iff_of_false (importPaste_ne_error tracked text) not_false)
  | importSnapshot source => exact (passed _).trans (importSnapshot_eq_error_iff tracked source)
  | reset => exact iff_of_false nofun not_false

/-- Nothing is written where an operation fails. -/
theorem Operation.state_run_of_fails {operation : Operation}
    (fails : operation.Fails state failure) :
    (operation.run sources state ids).state = state := by
  cases operation with
  | add entry =>
      rcases fails with ⟨_, large⟩
      have failed := (course_eq_error_iff tracked sources.catalog state _).mpr ⟨rfl, large⟩
      change (addCourse sources.requirements sources.catalog entry state ids).state = state
      rw [addCourse, failed]
  | remove id =>
      rcases fails with ⟨_, unknown⟩
      change (removeCourse id state ids).state = state
      rw [removeCourse, unknown]
  | reclassify id bucket =>
      rcases fails with ⟨_, unknown⟩
      change (Planner.reclassify id bucket state ids).state = state
      rw [Planner.reclassify, unknown]
  | importSnapshot source =>
      have failed : (Snapshot.read sources.requirements state ids source).result
          = .error failure :=
        (Snapshot.result_read_eq_error_iff tracked failure).mpr fails
      change (Planner.importSnapshot sources.requirements source state ids).state = state
      unfold Planner.importSnapshot
      dsimp only
      rw [failed]
  | _ => exact False.elim fails

omit tracked in
/-- Nothing is written either where a document is refused, which is no failure. -/
theorem Operation.state_run_of_refused {operation : Operation} {reason : Snapshot.Reason}
    (refused : (operation.run sources state ids).result = .ok (.refused reason)) :
    (operation.run sources state ids).state = state := by
  have other {α : Type} {answer : α -> Answer} {outcome : Outcome α}
      (apart : forall value, answer value ≠ .refused reason) :
      (outcome.map answer).result ≠ .ok (.refused reason) := by
    intro same
    rcases map_eq_ok.mp same with ⟨value, _, answered⟩
    exact apart value answered
  cases operation with
  | importSnapshot source =>
      rcases map_eq_ok.mp refused with ⟨answer, read, answered⟩
      change (Planner.importSnapshot sources.requirements source state ids).state = state
      unfold Planner.importSnapshot at read ⊢
      dsimp only at read ⊢
      split at read
      · cases read
      · rfl
      · rcases Except.ok.inj read with rfl
        cases answered
  | add entry => exact absurd refused (other nofun)
  | remove id => exact absurd refused (other nofun)
  | reclassify id bucket => exact absurd refused (other nofun)
  | track id => exact absurd refused (other nofun)
  | paste text => exact absurd refused (other nofun)
  | cohort id => cases refused
  | trackType declared => cases refused
  | reset => cases refused

/-- What a sequence of operations leaves is what those of them leave that succeed. -/
theorem Operation.exists_succeed (operations : List Operation) (state : PlannerState)
    (ids : IdSupply) :
    ∃ carried, carried.Sublist operations
      ∧ Succeed sources state carried (stateAfter sources operations state ids) := by
  induction operations generalizing state ids with
  | nil => exact ⟨[], List.Sublist.refl [], .nil state⟩
  | cons operation operations inductionHypothesis =>
      rcases inductionHypothesis (operation.run sources state ids).state
        (operation.run sources state ids).ids with ⟨carried, among, led⟩
      cases result : (operation.run sources state ids).result with
      | ok answer => exact ⟨operation :: carried, among.cons_cons operation, .cons result led⟩
      | error failure =>
          -- the others go on from the state as it was, and so they may do without this one
          have unchanged : (operation.run sources state ids).state = state :=
            Operation.state_run_of_fails tracked
              ((Operation.run_eq_error_iff tracked operation).mp result)
          rw [unchanged] at led
          refine ⟨carried, among.cons operation, ?_⟩
          rw [stateAfter, unchanged]
          exact led

end Any

/-- An operation that fails leaves the state exactly as it was, whatever the state, the operation
and the catalog, and so does a document that is refused.  It fails just for the reasons there are,
and a report can always be given. -/
theorem state_run_of_failed {document : Json} {requirements : Requirements Float}
    (given : (Requirements.ofDocument document).outcome = .ok requirements)
    (catalog : Option Catalog) (operation : Operation) (state : PlannerState) (ids : IdSupply) :
    let outcome := operation.run ⟨some requirements, catalog⟩ state ids
    (forall failure, outcome.result = .error failure -> outcome.state = state)
      ∧ (forall reason, outcome.result = .ok (.refused reason) -> outcome.state = state)
      ∧ (forall failure, outcome.result = .error failure ↔ operation.Fails state failure)
      ∧ ∃ report, evaluate requirements state = .ok report := by
  intro outcome
  rcases Requirements.present_ofDocument given with ⟨cohorts, tracks⟩
  have tracked := tracked_some tracks
  refine ⟨?_, ?_, ?_, exists_report cohorts tracks state⟩
  · intro failure failed
    exact Operation.state_run_of_fails tracked ((Operation.run_eq_error_iff tracked _).mp failed)
  · intro reason refused
    exact Operation.state_run_of_refused refused
  · intro failure
    exact Operation.run_eq_error_iff tracked operation

/-- A course that is entered with ten to the power of 309 credits. -/
def endlessEntry : Entry := ⟨"BS101", "Endless", .int (10 ^ 309), none⟩

/-- Such a course is not entered, and the course that is there stays. -/
theorem state_run_of_failed_endlessEntry :
    ∃ requirements, (Requirements.ofDocument sampleDocument).outcome = .ok requirements
      ∧ (let outcome := (Operation.add endlessEntry).run ⟨some requirements, none⟩ oneCourse
          (IdSupply.random 0)
        outcome.result = .error .creditsTooLarge ∧ outcome.state = oneCourse) := by
  obtain ⟨requirements, given⟩ :
      ∃ requirements, (Requirements.ofDocument sampleDocument).outcome = .ok requirements :=
    ⟨_, rfl⟩
  rcases state_run_of_failed given none (.add endlessEntry) oneCourse (IdSupply.random 0) with
    ⟨unchanged, _, fails, _⟩
  have large : endlessEntry.credits.TooLarge := by
    change Number.IsTooLarge (10 ^ 309)
    decide +kernel
  have failed := (fails .creditsTooLarge).mpr ⟨rfl, large⟩
  exact ⟨requirements, given, failed, unchanged _ failed⟩

end Planner
end DegreeAudit
