import Mathlib.Data.Multiset.MapFold
import DegreeAudit.Proofs.Audit.Codes
import DegreeAudit.Proofs.Audit.Growth

namespace DegreeAudit

/-!
# What a report does not depend on

A report reads three things of every course: its normalized code, its credits and its bucket.  Each
finding is either about the set of held codes or about a sum of credits over the courses that their
code and bucket select, so two lists are seen alike as soon as they agree on these two.

Lists that agree course by course are seen alike for credits of every type.  In another order the
same courses are seen alike if credits add up in every order, as exact ones do and rounded ones do
not.
-/

/-- What a course counts for: its normalized code, its credits and its bucket. -/
def CourseData.counted {κ : Type} (course : CourseData κ) : String × κ × Bucket :=
  (course.key, course.credits, course.bucket)

namespace Audit

variable {κ : Type}

section Sums

/-! ## Sums over selected courses -/

variable [OfNat κ 0] [Add κ]

theorem totalCredits_eq_creditsWhere (courses : List (Course κ)) :
    Holdings.totalCredits courses = Holdings.creditsWhere (fun _ => true) courses := by
  rw [Holdings.creditsWhere, List.filter_true, Holdings.totalCredits]

/-- The table of the buckets, filled in one pass from any start, has for every bucket the sum over
its courses. -/
theorem foldl_addToBucket (buckets : List Bucket) (courses : List (Course κ))
    (start : Bucket -> Tally κ) :
    courses.foldl (fun totals course => Holdings.addToBucket course totals)
        (buckets.map fun bucket => (bucket, start bucket)) =
      buckets.map fun bucket =>
        (bucket, ((courses.filter fun course => [bucket].contains course.bucket).map
          fun course => course.credits).foldl Tally.plus (start bucket)) := by
  induction courses generalizing start with
  | nil => rfl
  | cons course rest inductionHypothesis =>
      have step : Holdings.addToBucket course (buckets.map fun bucket => (bucket, start bucket)) =
          buckets.map fun bucket => (bucket,
            if bucket = course.bucket then (start bucket).plus course.credits
            else start bucket) := by
        simp [Holdings.addToBucket]
      rw [List.foldl_cons, step, inductionHypothesis]
      apply List.map_congr_left
      intro bucket _
      by_cases own : bucket = course.bucket
      · simp [own]
      · simp [own, Ne.symm own]

theorem bucketTotals_eq (courses : List (Course κ)) :
    Holdings.bucketTotals courses =
      Bucket.all.map fun bucket => (bucket, Holdings.bucketCredits courses [bucket]) :=
  foldl_addToBucket Bucket.all courses fun _ => .nothing

end Sums

section Seen

/-! ## Lists that are seen alike -/

/-- Two lists of courses hold the same codes, and the courses that a test of code and bucket selects
have the same credits in both. -/
structure SeenAlike [OfNat κ 0] [Add κ] (left right : List (Course κ)) : Prop where
  held : heldKeys left = heldKeys right
  credits : forall test : String -> Bucket -> Bool,
    Holdings.creditsWhere (fun course => test course.key course.bucket) left =
      Holdings.creditsWhere (fun course => test course.key course.bucket) right

theorem heldKeys_eq (courses : List (Course κ)) :
    heldKeys courses = {key | key ∈ (courses.map fun course => course.counted).map Prod.fst} := by
  ext key
  simp [heldKeys, CourseData.counted, CourseData.key]

variable [OfNat κ 0] [Add κ]

theorem creditsWhere_eq (test : String -> Bucket -> Bool) (courses : List (Course κ)) :
    Holdings.creditsWhere (fun course => test course.key course.bucket) courses =
      Tally.sum ((((courses.map fun course => course.counted).filter
        fun counted => test counted.1 counted.2.2)).map fun counted => counted.2.1) := by
  rw [Holdings.creditsWhere, List.filter_map, List.map_map]
  rfl

/-- Lists that agree course by course are seen alike, however credits add up. -/
theorem seenAlike_of_counted {left right : List (Course κ)}
    (same : (left.map fun course => course.counted) = right.map fun course => course.counted) :
    SeenAlike left right where
  held := by rw [heldKeys_eq, heldKeys_eq, same]
  credits := by
    intro test
    rw [creditsWhere_eq, creditsWhere_eq, same]

end Seen

section Order

variable [AddCommMonoid κ]

/-- Exact credits have the same sum in every order. -/
theorem sum_perm {left right : List κ} (same : left.Perm right) :
    Tally.sum left = Tally.sum right := by
  refine same.foldl_eq' ?_ Tally.nothing
  intro first _ second _ tally
  simp only [Tally.plus, Tally.value, add_right_comm]

/-- Lists of the same courses in another order are seen alike if credits are exact. -/
theorem seenAlike_of_perm {left right : List (Course κ)}
    (same : (left.map fun course => course.counted).Perm
      (right.map fun course => course.counted)) : SeenAlike left right where
  held := by
    rw [heldKeys_eq, heldKeys_eq]
    ext key
    exact (same.map Prod.fst).mem_iff
  credits := by
    intro test
    rw [creditsWhere_eq, creditsWhere_eq]
    exact sum_perm ((same.filter _).map _)

end Order

namespace SeenAlike

/-! ## Reports -/

variable [OfNat κ 0] [Add κ] {left right : List (Course κ)}

theorem bucketCredits (alike : SeenAlike left right) :
    Holdings.bucketCredits left = Holdings.bucketCredits right := by
  funext buckets
  exact alike.credits fun _ bucket => buckets.contains bucket

theorem creditsFor (alike : SeenAlike left right) :
    Holdings.creditsFor left = Holdings.creditsFor right := by
  funext codes
  exact alike.credits fun key _ => (codes.map normalizeCode).contains key

theorem totalCredits (alike : SeenAlike left right) :
    Holdings.totalCredits left = Holdings.totalCredits right := by
  rw [totalCredits_eq_creditsWhere, totalCredits_eq_creditsWhere]
  exact alike.credits fun _ _ => true

theorem basicCredits (alike : SeenAlike left right) :
    Holdings.basicCredits left = Holdings.basicCredits right :=
  alike.credits fun _ bucket => bucket.isBasic

theorem advancedCredits (alike : SeenAlike left right) :
    Holdings.advancedCredits left = Holdings.advancedCredits right :=
  alike.credits fun _ bucket => bucket.isAdvanced

theorem bucketTotals (alike : SeenAlike left right) :
    Holdings.bucketTotals left = Holdings.bucketTotals right := by
  rw [bucketTotals_eq, bucketTotals_eq, alike.bucketCredits]

theorem scienceArea (alike : SeenAlike left right) :
    Audit.scienceArea left = Audit.scienceArea right := by
  funext rule bucket
  exact scienceArea_congr alike.held (congrFun alike.bucketCredits [bucket]) rule

variable [LE κ] [DecidableLE κ]

theorem totals (alike : SeenAlike left right) : Audit.totals left = Audit.totals right := by
  funext rule
  simp only [Audit.totals, alike.totalCredits, alike.basicCredits, alike.advancedCredits]

theorem math (alike : SeenAlike left right) : Audit.math left = Audit.math right := by
  funext rule
  exact math_congr alike.held (congrFun alike.bucketCredits [.math])
    (congrFun alike.creditsFor rule.elective.codes)

theorem science (alike : SeenAlike left right) : Audit.science left = Audit.science right := by
  funext rule additions
  simp only [Audit.science, alike.scienceArea, alike.bucketCredits, all_check_congr alike.held]

theorem area (alike : SeenAlike left right) : Audit.area left = Audit.area right := by
  funext rule bucket
  exact area_congr alike.held (congrFun alike.bucketCredits [bucket]) rule

theorem floor (alike : SeenAlike left right) : Audit.floor left = Audit.floor right := by
  funext bucket need
  exact floor_congr (congrFun alike.bucketCredits [bucket]) need

/-- Lists that are seen alike have the same report. -/
theorem evaluate (alike : SeenAlike left right) : Audit.evaluate left = Audit.evaluate right := by
  funext cohort track trackType
  simp only [Audit.evaluate, alike.totals, alike.math, alike.science, alike.area, alike.floor,
    alike.bucketTotals, funext (checklist_congr alike.held)]

end SeenAlike

/-- The report on courses with exact credits depends on nothing but how often each combination of
normalized code, credits and bucket occurs among them. -/
theorem evaluate_eq_of_counted [AddCommMonoid κ] [LE κ] [DecidableLE κ]
    (left right : List (Course κ))
    (same : (left.map fun course => course.counted : Multiset (String × κ × Bucket)) =
      (right.map fun course => course.counted : Multiset (String × κ × Bucket)))
    (cohort : Cohort κ) (track : Track) (trackType : TrackType) :
    evaluate left cohort track trackType = evaluate right cohort track trackType := by
  have alike : SeenAlike left right := seenAlike_of_perm (Multiset.coe_eq_coe.mp same)
  rw [alike.evaluate]

/-- Two courses in one order, and the same two in the other order under other spellings of their
codes, other names and other ids. -/
theorem evaluate_eq_of_counted_respelled :
    let left := [mathCourse "BS101" 3, mathCourse "BS102a" (3 / 2)]
    let right := [{ mathCourse " bs102A" (3 / 2) with name := "Analysis", id := "b" },
      { mathCourse "bs101 " 3 with name := "Calculus", id := "a" }]
    (left.map fun course => course.counted : Multiset (String × ℚ × Bucket)) =
        (right.map fun course => course.counted : Multiset (String × ℚ × Bucket)) ∧
      evaluate left smallCohort plainTrack .major =
        evaluate right smallCohort plainTrack .major := by
  intro left right
  have same : (left.map fun course => course.counted : Multiset (String × ℚ × Bucket)) =
      (right.map fun course => course.counted : Multiset (String × ℚ × Bucket)) := by
    decide +kernel
  exact ⟨same, evaluate_eq_of_counted left right same smallCohort plainTrack .major⟩

end Audit
end DegreeAudit
