import DegreeAudit.Proofs.Audit.Reassignment
import DegreeAudit.Proofs.Planner.Identity

namespace DegreeAudit
namespace Planner

/-!
# Putting a course into another bucket

The first course that has an id goes into the bucket that is chosen for it, and nothing else of the
state changes: not the order of the courses, and not another course of the same id.  Reports before
and after are those on two lists that are seen alike beside the two buckets.
-/

theorem moveCourse_append {course : Course Float} {before : List (Course Float)}
    (first : course.id ∉ idsOf before) (target : Bucket) (after : List (Course Float)) :
    PlannerState.moveCourse course.id target (before ++ course :: after)
      = before ++ { course with bucket := target } :: after := by
  induction before with
  | nil => rw [List.nil_append, PlannerState.moveCourse, if_pos rfl, List.nil_append]
  | cons other before inductionHypothesis =>
      rw [idsOf_cons, List.mem_cons, not_or] at first
      rcases first with ⟨apart, first⟩
      rw [List.cons_append, PlannerState.moveCourse, if_neg (Ne.symm apart),
        inductionHypothesis first, List.cons_append]

/-- Of the courses of an id that is held the first one goes into the bucket chosen, and it is
returned.  Whatever the requirements are, the report keeps what does not rest on the credits of its
old bucket and its new one. -/
theorem evaluate_reclassify {state : PlannerState} {id : String} (held : id ∈ idsOf state.courses)
    (target : Bucket) (ids : IdSupply) :
    ∃ before course after, state.courses = before ++ course :: after
      ∧ course.id = id
      ∧ id ∉ idsOf before
      ∧ reclassify id target state ids
        = {
            result := .ok { course with bucket := target }
            state :=
              { state with courses := before ++ { course with bucket := target } :: after }
            ids
            notices := []
          }
      ∧ forall (cohort : Cohort Float) (track : Track) (trackType : TrackType),
        Report.KeepsBeside course.bucket target
          (Audit.evaluate state.courses cohort track trackType)
          (Audit.evaluate (reclassify id target state ids).state.courses cohort track
            trackType) := by
  rcases exists_first_of_held held with ⟨before, course, after, split, rfl, first, found⟩
  have moved : reclassify course.id target state ids
      = {
          result := .ok { course with bucket := target }
          state := { state with courses := before ++ { course with bucket := target } :: after }
          ids
          notices := []
        } := by
    rw [reclassify, found, split, moveCourse_append first]
  refine ⟨before, course, after, split, rfl, first, moved, ?_⟩
  intro cohort track trackType
  rw [moved, split]
  exact (Audit.seenAlikeBeside_of_moved before after course target).keepsBeside cohort track
    trackType

/-- Three courses, of which the last two have the same id. -/
def twoOfAnId : PlannerState :=
  {
    PlannerState.initial with
    courses := [
      { code := "BS101", name := "Calculus", credits := 0.1, bucket := .math, id := "a" },
      { code := "EC301", name := "Circuits", credits := 3, bucket := .other, id := "b" },
      { code := "BS101", name := "Calculus", credits := 0.2, bucket := .math, id := "b" }
    ]
  }

theorem evaluate_reclassify_twoOfAnId :
    "b" ∈ idsOf twoOfAnId.courses
      ∧ ∃ before course after, twoOfAnId.courses = before ++ course :: after
        ∧ course.id = "b"
        ∧ "b" ∉ idsOf before
        ∧ reclassify "b" .math twoOfAnId (IdSupply.random 0)
          = {
              result := .ok { course with bucket := .math }
              state :=
                { twoOfAnId with courses := before ++ { course with bucket := .math } :: after }
              ids := IdSupply.random 0
              notices := []
            }
        ∧ forall (cohort : Cohort Float) (track : Track) (trackType : TrackType),
          Report.KeepsBeside course.bucket .math
            (Audit.evaluate twoOfAnId.courses cohort track trackType)
            (Audit.evaluate (reclassify "b" .math twoOfAnId (IdSupply.random 0)).state.courses
              cohort track trackType) := by
  have held : "b" ∈ idsOf twoOfAnId.courses := by decide +kernel
  exact ⟨held, evaluate_reclassify held .math (IdSupply.random 0)⟩

end Planner
end DegreeAudit
