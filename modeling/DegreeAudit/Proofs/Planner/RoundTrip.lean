import DegreeAudit.Planner.Identifier
import DegreeAudit.Proofs.Planner.Soundness

namespace DegreeAudit

/-!
# States that are read back

The document of a sound state says all there is to say about it.  Reading it gives the same state
whatever the state that would complete it, takes no id, and puts no course into another bucket.
Every state that operations lead to is sound, so this holds of all of them.
-/

/-- Requirements with a track have one to take for every state. -/
theorem Planner.exists_activeTrack {requirements : Option (Requirements Float)}
    (tracked : forall given, requirements = some given -> given.tracks ≠ [])
    (state : PlannerState) : ∃ track, Planner.activeTrack requirements state = .ok track := by
  cases requirements with
  | none => exact ⟨none, rfl⟩
  | some given =>
      rcases List.exists_cons_of_ne_nil (tracked given rfl) with ⟨first, rest, listed⟩
      unfold Planner.activeTrack Requirements.track
      dsimp only
      rw [listed]
      exact ⟨_, rfl⟩

/-- Requirements with a cohort and a track give a report on every state. -/
theorem Planner.exists_report {requirements : Requirements Float}
    (cohorts : requirements.cohorts ≠ []) (tracks : requirements.tracks ≠ [])
    (state : PlannerState) : ∃ report, Planner.evaluate requirements state = .ok report := by
  rcases List.exists_cons_of_ne_nil cohorts with ⟨cohort, others, cohortsListed⟩
  rcases List.exists_cons_of_ne_nil tracks with ⟨track, rest, tracksListed⟩
  unfold Planner.evaluate Requirements.cohort Requirements.track
  rw [cohortsListed, tracksListed]
  exact ⟨_, rfl⟩

theorem Planner.tracked_some {requirements : Requirements Float}
    (tracks : requirements.tracks ≠ []) (given : Requirements Float)
    (same : some requirements = some given) : given.tracks ≠ [] := by
  rcases Option.some.inj same with rfl
  exact tracks

/-- Where there are no requirements, none lack a track. -/
theorem Planner.tracked_none (given : Requirements Float) (impossible : none = some given) :
    given.tracks ≠ [] := by
  cases impossible

namespace Snapshot

theorem textAt?_of_lookup {key text : String} {entries : List (String × Json)}
    (found : Json.lookup key entries = some (.string text)) (something : text ≠ "") :
    textAt? key entries = .ok (some text) := by
  unfold textAt? Json.something?
  rw [found, Option.filter_some, if_pos]
  · rfl
  · change (!text.isEmpty) = true
    rw [Bool.not_eq_true', Bool.eq_false_iff]
    intro empty
    exact something (String.isEmpty_iff.mp empty)

/-- The entries of the document of a course. -/
def courseEntries (course : Course Float) : List (String × Json) :=
  [
    ("id", .string course.id),
    ("code", .string course.code),
    ("name", .string course.name),
    ("credits", .real course.credits),
    ("bucket", .string course.bucket.id)
  ]

theorem read?_bucket_id (bucket : Bucket) : Bucket.read? bucket.id = some bucket := by
  cases bucket <;> decide

theorem read?_trackType_id (trackType : TrackType) :
    TrackType.read? trackType.id = some trackType := by
  cases trackType <;> decide

/-- A sound course is read back with its id, whichever track is active. -/
theorem readCourse_courseEntries (track : Option Track) {course : Course Float}
    (sound : course.Sound) :
    readCourse track (courseEntries course) = .ok (course.toCourseData, some course.id) := by
  have id : textAt? "id" (courseEntries course) = .ok (some course.id) :=
    textAt?_of_lookup rfl sound.id
  have code : textAt? "code" (courseEntries course) = .ok (some course.code) :=
    textAt?_of_lookup rfl sound.code
  have name : textAt? "name" (courseEntries course) = .ok (some course.name) :=
    textAt?_of_lookup rfl sound.name
  have bucket : (givenText? "bucket" (courseEntries course)).bind Bucket.read?
      = some course.bucket := by
    rw [givenText?_of_textAt? (textAt?_of_lookup rfl (by cases course.bucket <;> decide)),
      Option.bind_some, read?_bucket_id]
  have credits : Planner.creditsOf ((Json.lookup "credits" (courseEntries course)).getD .null)
      = .ok course.credits := by
    change Except.ok (if 0 <= course.credits then course.credits else 0) = _
    rw [if_pos sound.credits]
  unfold readCourse
  rw [id, code, name, bucket, credits]
  rfl

/-- Sound courses are read back in their order, and the supply of ids is left alone. -/
theorem readCourses_courseDocument (track : Option Track) (ids : IdSupply)
    {courses : List (Course Float)} (sound : forall course, course ∈ courses -> course.Sound) :
    readCourses track ids (courses.map courseDocument)
      = { courses := .ok courses, ids, notices := [] } := by
  induction courses with
  | nil => rfl
  | cons course courses inductionHypothesis =>
      have later := inductionHypothesis fun other member =>
        sound other (List.mem_cons_of_mem course member)
      rw [List.map_cons]
      change readCourses track ids (.object (courseEntries course) :: _) = _
      rw [readCourses, readCourse_courseEntries track (sound course List.mem_cons_self)]
      simp only [Option.isSome_some, if_true, later]
      rfl

/-- The entries of the document of a state. -/
def stateEntries (state : PlannerState) : List (String × Json) :=
  [
    ("cohortId", .string state.cohortId),
    ("trackId", .string state.trackId),
    ("trackType", .string state.trackType.id),
    ("courses", .list (state.courses.map courseDocument))
  ]

theorem readChoices_stateEntries (base : PlannerState) {state : PlannerState}
    (sound : state.Sound) :
    readChoices (stateEntries state) base = .ok { state with courses := [] } := by
  have cohortId : textAt? "cohortId" (stateEntries state) = .ok (some state.cohortId) :=
    textAt?_of_lookup rfl sound.cohortId
  have trackId : textAt? "trackId" (stateEntries state) = .ok (some state.trackId) :=
    textAt?_of_lookup rfl sound.trackId
  have trackType :
      readTrackType? ((Json.lookup "trackType" (stateEntries state)).getD .null)
        = some state.trackType :=
    read?_trackType_id state.trackType
  unfold readChoices
  rw [cohortId, trackId, trackType]
  rfl

/-- The document of a sound state is read back as that state. -/
theorem ofDocument_document {requirements : Option (Requirements Float)}
    (tracked : forall given, requirements = some given -> given.tracks ≠ [])
    (base : PlannerState) (ids : IdSupply) {state : PlannerState} (sound : state.Sound) :
    ofDocument requirements base ids (document state)
      = { result := .ok (.ok state), ids, notices := [] } := by
  change ofDocument requirements base ids (.object (stateEntries state)) = _
  have courses : Json.lookup "courses" (stateEntries state)
      = some (.list (state.courses.map courseDocument)) := rfl
  rcases Planner.exists_activeTrack tracked { state with courses := [] } with ⟨track, found⟩
  have active : readActive requirements (stateEntries state) base
      = .ok ({ state with courses := [] }, track) := by
    rw [readActive, readChoices_stateEntries base sound, bind_eq_ok]
    exact ⟨_, rfl, bind_eq_ok.mpr ⟨track, found, rfl⟩⟩
  unfold ofDocument
  dsimp only
  rw [courses]
  dsimp only
  rw [ofEntries, active]
  dsimp only
  rw [readCourses_courseDocument track ids sound.courses]
  rfl

end Snapshot

namespace Planner

/-- The states that operations lead to from the initial one.  Each operation may have its own
requirements, catalog and ids; one that fails leads to the state that it leaves behind. -/
inductive Reachable : PlannerState -> Prop where
  | initial : Reachable PlannerState.initial
  | step {state : PlannerState} (reached : Reachable state) (sources : Sources)
      {operation : Operation} (admissible : operation.Named) {ids : IdSupply}
      (named : ids.Named) : Reachable (operation.run sources state ids).state

theorem sound_of_reachable {state : PlannerState} (reached : Reachable state) : state.Sound := by
  induction reached with
  | initial => exact PlannerState.sound_initial
  | step _ sources admissible named inductionHypothesis =>
      exact Operation.sound_run sources admissible inductionHypothesis named

/-- In every state that operations lead to, each course has a code, a name and an id, and credits
that are a number and not negative; and its document is read back as that very state, with no id
taken and no remark made. -/
theorem reachable_readsBack {state : PlannerState} (reached : Reachable state) :
    (forall course, course ∈ state.courses ->
      course.code ≠ "" ∧ course.name ≠ "" ∧ course.id ≠ ""
        ∧ 0 <= course.credits ∧ course.credits.isNaN = false)
    ∧ forall requirements : Option (Requirements Float),
        (forall given, requirements = some given -> given.tracks ≠ []) ->
        forall (base : PlannerState) (ids : IdSupply),
          Snapshot.read requirements base ids (.value (Snapshot.document state))
            = { result := .ok (.ok state), ids, notices := [] } := by
  have sound := sound_of_reachable reached
  constructor
  · intro course member
    have held := sound.courses course member
    exact ⟨held.code, held.name, held.id, held.credits, Number.isNaN_of_nonneg held.credits⟩
  · intro requirements tracked base ids
    exact Snapshot.ofDocument_document tracked base ids sound

/-- The state of a student who has entered one course by hand. -/
def oneCourse : PlannerState :=
  {
    PlannerState.initial with
    courses :=
      [{
        code := "EE201"
        name := "Circuits"
        credits := 3
        bucket := .other
        id := "00000000000040008000000000000000"
      }]
  }

theorem named_random (seed : Nat) : (IdSupply.random seed).Named := by
  intro count
  apply ofList_ne_empty
  simp

theorem reachable_oneCourse : Reachable oneCourse := by
  let operation : Operation := .add ⟨" EE201", "Circuits ", .null, none⟩
  have entered :
      (operation.run ⟨none, none⟩ PlannerState.initial (IdSupply.random 0)).state = oneCourse := by
    decide
  rw [← entered]
  have admissible : operation.Named := trivial
  exact .step .initial _ admissible (named_random 0)

theorem reachable_readsBack_oneCourse :
    Snapshot.read (some ⟨[], [⟨"EE", "", [], ⟨[]⟩, .empty⟩]⟩) PlannerState.initial
        (IdSupply.random 1) (.value (Snapshot.document oneCourse))
      = { result := .ok (.ok oneCourse), ids := IdSupply.random 1, notices := [] } :=
  (reachable_readsBack reachable_oneCourse).2 _
    (fun _ given => by obtain rfl := Option.some.inj given; exact List.cons_ne_nil _ _) _ _

end Planner
end DegreeAudit
