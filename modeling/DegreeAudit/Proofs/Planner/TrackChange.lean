import DegreeAudit.Planner.Identifier
import DegreeAudit.Planner.Operations
import DegreeAudit.Proofs.Classification
import DegreeAudit.Proofs.Requirement.WellFormed

namespace DegreeAudit
namespace Planner

/-!
# Choosing a track

A course that nothing was known of may belong to the track that is chosen, and then it goes into the
bucket of the track.  Every other bucket is taken for a choice of the student's and is left alone,
also where the course was suggested for the bucket of the track before.

Only courses in the bucket of all others are looked at, and for them the answer is the one that a
new suggestion gives, as long as they were suggested for it: what a track can change about such a
suggestion is to make it the bucket of the track.
-/

/-- The track that an id stands for: the first one that has it, or the first of all if none has. -/
inductive StandsFor (id : String) : List Track -> Track -> Prop where
  | known (before : List Track) (track : Track) (after : List Track) (same : track.id = id)
      (first : forall other, other ∈ before -> other.id ≠ id) :
      StandsFor id (before ++ track :: after) track
  | unknown (track : Track) (others : List Track)
      (none : forall other, other ∈ track :: others -> other.id ≠ id) :
      StandsFor id (track :: others) track

/-- Courses before and after a track is chosen, and those of them that have moved. -/
inductive Retracked (track : Track) :
    List (Course Float) -> List (Course Float) -> List (Course Float) -> Prop where
  | nil : Retracked track [] [] []
  | moves {old new moved : List (Course Float)} (course : Course Float)
      (unplaced : course.bucket = .other)
      (belongs : classify course.code course.name (some track) = .track)
      (others : Retracked track old new moved) :
      Retracked track (course :: old) ({ course with bucket := .track } :: new)
        ({ course with bucket := .track } :: moved)
  | stays {old new moved : List (Course Float)} (course : Course Float)
      (apart : course.bucket = .other -> classify course.code course.name (some track) ≠ .track)
      (others : Retracked track old new moved) :
      Retracked track (course :: old) (course :: new) moved

theorem exists_standsFor {requirements : Requirements Float} (tracks : requirements.tracks ≠ [])
    (id : String) :
    ∃ track, requirements.track (some id) = .ok track ∧ StandsFor id requirements.tracks track := by
  rcases List.exists_cons_of_ne_nil tracks with ⟨first, others, listed⟩
  rw [Requirements.track, listed]
  dsimp only
  cases found : (first :: others).find? fun track => some track.id == some id with
  | none =>
      refine ⟨first, rfl, .unknown first others ?_⟩
      intro other member same
      apply List.find?_eq_none.mp found other member
      rw [same, beq_self_eq_true]
  | some track =>
      rcases List.find?_eq_some_iff_append.mp found with ⟨matched, before, after, split, earlier⟩
      refine ⟨track, rfl, split ▸ .known before track after ?_ ?_⟩
      · exact Option.some.inj (beq_iff_eq.mp matched)
      · intro other member same
        have unmatched := earlier other member
        rw [same, beq_self_eq_true] at unmatched
        cases unmatched

section Courses

/-! ## Courses -/

variable {track : Track} {course : Course Float}

theorem joinsTrack_iff : joinsTrack track course = true
    ↔ course.bucket = .other ∧ classify course.code course.name (some track) = .track := by
  rw [joinsTrack, Bool.and_eq_true, beq_iff_eq, beq_iff_eq]

theorem joinsTrack_moveToTrack : joinsTrack track (moveToTrack track course) = false := by
  rw [moveToTrack]
  split
  · rfl
  · rename_i apart
    exact Bool.eq_false_iff.mpr apart

theorem moveToTrack_of_not_joins (apart : joinsTrack track course = false) :
    moveToTrack track course = course := by
  rw [moveToTrack, apart, if_neg Bool.false_ne_true]

/-- A course that was suggested for all others is where a new suggestion puts it. -/
theorem bucket_moveToTrack {previous : Option Track} (unplaced : course.bucket = .other)
    (suggested : classify course.code course.name previous = .other) :
    (moveToTrack track course).bucket = classify course.code course.name (some track) := by
  rw [moveToTrack]
  rcases Classification.classify_of_other suggested (some track) with belongs | apart
  · rw [if_pos (joinsTrack_iff.mpr ⟨unplaced, belongs⟩), belongs]
  · have stays : ¬ joinsTrack track course = true := by
      rw [joinsTrack_iff, apart]
      exact nofun
    rw [if_neg stays, unplaced, apart]

/-- What is made of a list of courses, in its order. -/
theorem retracked (track : Track) (courses : List (Course Float)) :
    Retracked track courses (courses.map (moveToTrack track))
      ((courses.filter (joinsTrack track)).map (moveToTrack track)) := by
  induction courses with
  | nil => exact .nil
  | cons course courses inductionHypothesis =>
      cases joins : joinsTrack track course with
      | true =>
          rcases joinsTrack_iff.mp joins with ⟨unplaced, belongs⟩
          rw [List.map_cons, List.filter_cons_of_pos joins, List.map_cons, moveToTrack,
            if_pos joins]
          exact .moves course unplaced belongs inductionHypothesis
      | false =>
          rw [List.map_cons, List.filter_cons_of_neg (Bool.eq_false_iff.mp joins),
            moveToTrack_of_not_joins joins]
          refine .stays course ?_ inductionHypothesis
          intro unplaced belongs
          exact Bool.eq_false_iff.mp joins (joinsTrack_iff.mpr ⟨unplaced, belongs⟩)

end Courses

section States

/-! ## States -/

variable {requirements : Requirements Float} {id : String} {track : Track}
  (chosen : requirements.track (some id) = .ok track)

include chosen

theorem changeTrack_of_chosen (state : PlannerState) (ids : IdSupply) :
    changeTrack requirements id state ids
      = {
          result := .ok ((state.courses.filter (joinsTrack track)).map (moveToTrack track))
          state :=
            { state with trackId := id, courses := state.courses.map (moveToTrack track) }
          ids
          notices := []
        } := by
  rw [changeTrack, chosen]

/-- Choosing a track changes nothing where it is chosen and no course joins it. -/
theorem changeTrack_of_settled {state : PlannerState} (same : state.trackId = id)
    (settled : forall course, course ∈ state.courses -> joinsTrack track course = false)
    (ids : IdSupply) :
    changeTrack requirements id state ids = { result := .ok [], state, ids, notices := [] } := by
  have none : state.courses.filter (joinsTrack track) = [] := by
    apply List.filter_eq_nil_iff.mpr
    intro course member
    exact Bool.eq_false_iff.mp (settled course member)
  have all : state.courses.map (moveToTrack track) = state.courses := by
    calc
      state.courses.map (moveToTrack track) = state.courses.map (fun course => course) :=
        List.map_congr_left fun course member => moveToTrack_of_not_joins (settled course member)
      _ = state.courses := List.map_id' state.courses
  rw [changeTrack_of_chosen chosen, none, all, ← same]
  rfl

end States

/-- Choosing a track writes down its id and moves every course in the bucket of all others that is
suggested for the bucket of the track which the id stands for; these are returned in their order.
The same choice once more moves nothing.  Courses that were suggested for all others, under whatever
track, are afterwards where they are suggested for under the new one. -/
theorem changeTrack_retracks {document : Json} {requirements : Requirements Float}
    (given : (Requirements.ofDocument document).outcome = .ok requirements) (id : String)
    (state : PlannerState) (ids : IdSupply) :
    ∃ track courses moved,
      requirements.track (some id) = .ok track
        ∧ StandsFor id requirements.tracks track
        ∧ changeTrack requirements id state ids
          = {
              result := .ok moved
              state := { state with trackId := id, courses }
              ids
              notices := []
            }
        ∧ Retracked track state.courses courses moved
        ∧ (forall laterIds,
          changeTrack requirements id { state with trackId := id, courses } laterIds
            = {
                result := .ok []
                state := { state with trackId := id, courses }
                ids := laterIds
                notices := []
              })
        ∧ forall previous : Option Track,
          List.Forall₂ (fun old new => old.bucket = .other ->
              classify old.code old.name previous = .other ->
                new.bucket = classify old.code old.name (some track))
            state.courses courses := by
  rcases exists_standsFor (Requirements.present_ofDocument given).2 id with
    ⟨track, chosen, standsFor⟩
  refine ⟨track, state.courses.map (moveToTrack track), _, chosen, standsFor,
    changeTrack_of_chosen chosen state ids, retracked track state.courses, ?_, ?_⟩
  · intro laterIds
    apply changeTrack_of_settled chosen rfl
    intro course member
    rcases List.mem_map.mp member with ⟨before, _, rfl⟩
    exact joinsTrack_moveToTrack
  · intro previous
    apply List.forall₂_map_right_iff.mpr
    apply List.forall₂_same.mpr
    intro course _ unplaced suggested
    exact bucket_moveToTrack unplaced suggested

/-- Courses of a track, one of which was put into another bucket, and two that belong to none. -/
def beforeTheTrack : PlannerState :=
  {
    PlannerState.initial with
    trackId := "BM"
    courses := [
      { code := "ec301", name := "Circuits", credits := 3, bucket := .other, id := "a" },
      { code := "EC302", name := "Signals", credits := 3, bucket := .nonTrack, id := "b" },
      { code := "FREE1", name := "Chess", credits := 1, bucket := .other, id := "c" },
      { code := "BS101", name := "Calculus", credits := 3, bucket := .other, id := "d" },
      { code := " 7th", name := "", credits := 0.5, bucket := .other, id := "e" }
    ]
  }

/-- An id that no track has stands for the first one, whose codes begin with two starts. -/
theorem changeTrack_retracks_beforeTheTrack :
    ∃ requirements, (Requirements.ofDocument Requirements.looseDocument).outcome = .ok requirements
      ∧ ∃ track courses moved,
        StandsFor "none" requirements.tracks track
          ∧ track.id = "EE"
          ∧ changeTrack requirements "none" beforeTheTrack (IdSupply.random 0)
            = {
                result := .ok moved
                state := { beforeTheTrack with trackId := "none", courses }
                ids := IdSupply.random 0
                notices := []
              }
          ∧ moved.map (fun course => course.id) = ["a", "e"]
          ∧ Retracked track beforeTheTrack.courses courses moved
          ∧ List.Forall₂ (fun old new => old.bucket = .other ->
              classify old.code old.name none = .other ->
                new.bucket = classify old.code old.name (some track))
            beforeTheTrack.courses courses := by
  obtain ⟨requirements, given, outcome, first⟩ :
      ∃ requirements, (Requirements.ofDocument Requirements.looseDocument).outcome = .ok requirements
        ∧ (changeTrack requirements "none" beforeTheTrack (IdSupply.random 0)).result.map
          (fun moved => moved.map fun course => course.id) = .ok ["a", "e"]
        ∧ (requirements.track (some "none")).map Track.id = .ok "EE" :=
    ⟨_, rfl, by decide +kernel, by decide +kernel⟩
  rcases changeTrack_retracks given "none" beforeTheTrack (IdSupply.random 0) with
    ⟨track, courses, moved, chosen, standsFor, changed, retracked, _, suggested⟩
  rw [changed] at outcome
  rw [chosen] at first
  exact ⟨requirements, given, track, courses, moved, standsFor, Except.ok.inj first, changed,
    Except.ok.inj outcome, retracked, suggested none⟩

end Planner
end DegreeAudit
