import DegreeAudit.Proofs.Audit.Figures
import DegreeAudit.Proofs.Audit.Indifference

namespace DegreeAudit

/-!
# Credits by bucket

A report shows the credits of a bucket twice: beside what is required in it, and in a table of all
buckets.  The table is filled in one pass over the courses, and each figure goes through them on its
own.  Both add the same credits in the same order, so they agree to the last bit.

The sums over several buckets are taken in the order of the courses and not bucket by bucket.  That
makes no difference to exact credits: every course is in one bucket, and every bucket is either
basic or advanced.  It does to rounded ones, of which nothing is said here.
-/

/-- What a report says about one bucket. -/
inductive BucketPart (κ : Type) where
  | math (result : MathResult κ)
  | science (result : ScienceAreaResult κ)
  | area (result : AreaResult κ)
  | floor (result : FloorResult κ)

/-- The credits that a part shows. -/
def BucketPart.credits {κ : Type} : BucketPart κ -> Tally κ
  | math result => result.credits
  | science result => result.credits
  | area result => result.credits
  | floor result => result.credits

namespace Report

variable {κ : Type}

/-- The part about a bucket.  There is none about the bucket of all others, and one about arts and
sports only if the cohort has that area. -/
def part? (report : Report κ) : Bucket -> Option (BucketPart κ)
  | .math => some (.math report.math)
  | .physics => some (.science report.science.physics)
  | .chemistry => some (.science report.science.chemistry)
  | .biology => some (.science report.science.biology)
  | .engineeringCore => some (.area report.engineeringCore)
  | .engineeringSelect => some (.area report.engineeringSelect)
  | .humanities => some (.area report.humanities)
  | .english => some (.area report.english)
  | .artsAndSports => report.artsAndSports.map .area
  | .track => some (.floor report.track)
  | .nonTrack => some (.floor report.nonTrack)
  | .ugrp => some (.floor report.ugrp)
  | .internship => some (.floor report.internship)
  | .other => none

/-- The entry of a bucket in the table. -/
def bucketTotal? (report : Report κ) (bucket : Bucket) : Option (Tally κ) :=
  report.bucketTotals.lookup bucket

/-- The entries of the buckets that pass a test, added up. -/
def entrySum [Zero κ] [Add κ] (report : Report κ) (test : Bucket -> Bool) : κ :=
  ((report.bucketTotals.filter fun entry => test entry.1).map fun entry => entry.2.value).sum

end Report

namespace Audit

variable {κ : Type}

section Entries

/-! ## The table -/

theorem lookup_map_of_mem {bucket : Bucket} {buckets : List Bucket} (listed : bucket ∈ buckets)
    (tally : Bucket -> Tally κ) :
    (buckets.map fun key => (key, tally key)).lookup bucket = some (tally bucket) := by
  induction buckets with
  | nil => cases listed
  | cons first rest inductionHypothesis =>
      rw [List.map_cons, List.lookup_cons]
      by_cases same : bucket = first
      · rw [same, beq_self_eq_true]
      · rw [beq_eq_false_iff_ne.mpr same]
        exact inductionHypothesis (List.mem_of_ne_of_mem same listed)

variable [OfNat κ 0] [Add κ] [LE κ] [DecidableLE κ] (courses : List (Course κ)) (cohort : Cohort κ)
  (track : Track) (trackType : TrackType)

/-- The entry of a bucket is the sum over its courses. -/
theorem bucketTotal?_evaluate (bucket : Bucket) :
    (evaluate courses cohort track trackType).bucketTotal? bucket
      = some (Holdings.bucketCredits courses [bucket]) := by
  change (Holdings.bucketTotals courses).lookup bucket = _
  rw [bucketTotals_eq]
  exact lookup_map_of_mem (Bucket.mem_all bucket) _

/-- So are the credits in the part about the bucket. -/
theorem credits_of_part {bucket : Bucket} {part : BucketPart κ}
    (shown : (evaluate courses cohort track trackType).part? bucket = some part) :
    part.credits = Holdings.bucketCredits courses [bucket] := by
  cases bucket with
  | artsAndSports =>
      rcases Option.map_eq_some_iff.mp shown with ⟨result, present, rfl⟩
      rcases Option.map_eq_some_iff.mp present with ⟨rule, _, rfl⟩
      rfl
  | other => cases shown
  | _ =>
      rcases Option.some.inj shown with rfl
      rfl

end Entries

section Sums

/-! ## Sums over buckets -/

variable [AddCommMonoid κ]

theorem value_creditsWhere_cons (test : Course κ -> Bool) (course : Course κ)
    (courses : List (Course κ)) :
    (Holdings.creditsWhere test (course :: courses)).value
      = (if test course = true then course.credits else 0)
        + (Holdings.creditsWhere test courses).value := by
  have sums (courses : List (Course κ)) := value_creditsWhere test
    (fun course => test course = true) (fun _ => Iff.rfl) courses
  rw [sums, sums]
  exact creditSum_insert _ [] courses course

/-- The courses that one of two tests selects have the credits of both selections together, if no
course passes both. -/
theorem value_creditsWhere_or {first second : Course κ -> Bool}
    (apart : forall course, first course = true -> second course = false)
    (courses : List (Course κ)) :
    (Holdings.creditsWhere (fun course => first course || second course) courses).value
      = (Holdings.creditsWhere first courses).value
        + (Holdings.creditsWhere second courses).value := by
  induction courses with
  | nil => exact (zero_add (0 : κ)).symm
  | cons course courses inductionHypothesis =>
      simp only [value_creditsWhere_cons, inductionHypothesis]
      cases here : first course with
      | true => simp only [apart course here, Bool.or_false, if_true, Bool.false_eq_true, if_false,
          zero_add, add_assoc]
      | false => simp only [Bool.false_or, Bool.false_eq_true, if_false, zero_add, add_left_comm]

theorem total_eq_basic_add_advanced (courses : List (Course κ)) :
    (Holdings.totalCredits courses).value
      = (Holdings.basicCredits courses).value + (Holdings.advancedCredits courses).value := by
  rw [totalCredits_eq_creditsWhere, Holdings.basicCredits, Holdings.advancedCredits,
    ← value_creditsWhere_or]
  · simp only [Bucket.isBasic, Bool.not_or_self]
  · intro course basic
    exact Bool.not_eq_eq_eq_not.mp basic

/-- The credits of several buckets are those of each of them, added up. -/
theorem sum_bucketCredits {buckets : List Bucket} (distinct : buckets.Nodup)
    (courses : List (Course κ)) :
    (buckets.map fun bucket => (Holdings.bucketCredits courses [bucket]).value).sum
      = (Holdings.bucketCredits courses buckets).value := by
  induction buckets with
  | nil => simp [Holdings.bucketCredits, Holdings.creditsWhere, Tally.value]
  | cons first rest inductionHypothesis =>
      rcases List.nodup_cons.mp distinct with ⟨new, distinct⟩
      have apart (course : Course κ) (own : [first].contains course.bucket = true) :
          rest.contains course.bucket = false := by
        rw [List.mem_singleton.mp (List.contains_iff_mem.mp own)]
        exact Bool.eq_false_iff.mpr fun listed => new (List.contains_iff_mem.mp listed)
      have joined : Holdings.bucketCredits courses (first :: rest)
          = Holdings.creditsWhere
            (fun course => [first].contains course.bucket || rest.contains course.bucket)
            courses := by
        simp only [Holdings.bucketCredits, List.contains_cons, List.contains_nil, Bool.or_false]
      rw [List.map_cons, List.sum_cons, inductionHypothesis distinct, joined,
        value_creditsWhere_or apart]
      rfl

variable [LE κ] [DecidableLE κ] (courses : List (Course κ)) (cohort : Cohort κ) (track : Track)
  (trackType : TrackType)

/-- The entries of some buckets add up to the credits of the courses in them. -/
theorem entrySum_evaluate (test : Bucket -> Bool) :
    (evaluate courses cohort track trackType).entrySum test
      = (Holdings.creditsWhere (fun course => test course.bucket) courses).value := by
  have selected : Holdings.creditsWhere (fun course => test course.bucket) courses
      = Holdings.bucketCredits courses (Bucket.all.filter test) := by
    rw [Holdings.bucketCredits]
    congr 1
    funext course
    rw [Bool.eq_iff_iff, List.contains_iff_mem, List.mem_filter]
    exact (and_iff_right (Bucket.mem_all course.bucket)).symm
  have distinct : (Bucket.all.filter test).Nodup := List.Nodup.filter test (by decide)
  change (((Holdings.bucketTotals courses).filter _).map _).sum = _
  rw [selected, ← sum_bucketCredits distinct, bucketTotals_eq, List.filter_map, List.map_map]
  rfl

end Sums

/-- The table has the credits that the parts of a report show, whatever credits are and however they
are rounded.  With exact credits the entries add up to all credits, which are the basic and the
advanced ones together, and those of the basic buckets, of the advanced ones and of the sciences to
what the report shows for them. -/
theorem entries_account_for_credits :
    (forall {κ : Type} [OfNat κ 0] [Add κ] [LE κ] [DecidableLE κ] (courses : List (Course κ))
        (cohort : Cohort κ) (track : Track) (trackType : TrackType),
      let report := evaluate courses cohort track trackType
      forall bucket part, report.part? bucket = some part ->
        report.bucketTotal? bucket = some part.credits)
      ∧ forall {κ : Type} [AddCommMonoid κ] [LE κ] [DecidableLE κ] (courses : List (Course κ))
          (cohort : Cohort κ) (track : Track) (trackType : TrackType),
        let report := evaluate courses cohort track trackType
        report.entrySum (fun _ => true) = report.totals.total.value
          ∧ report.totals.total.value = report.totals.basic.value + report.totals.advanced.value
          ∧ report.totals.basic.value = report.entrySum Bucket.isBasic
          ∧ report.totals.advanced.value = report.entrySum Bucket.isAdvanced
          ∧ report.science.total.value = report.entrySum Bucket.sciences.contains := by
  constructor
  · intro κ _ _ _ _ courses cohort track trackType report bucket part shown
    rw [bucketTotal?_evaluate, credits_of_part courses cohort track trackType shown]
  · intro κ _ _ _ courses cohort track trackType report
    have sums := entrySum_evaluate courses cohort track trackType
    refine ⟨?_, total_eq_basic_add_advanced courses, (sums _).symm, (sums _).symm, (sums _).symm⟩
    rw [sums, ← totalCredits_eq_creditsWhere]
    rfl

/-- Three courses in physics between two others, with credits whose sum is rounded. -/
def tenthsInPhysics : List (Course Float) :=
  [
    { code := "BS103A", name := "Mechanics", credits := 0.1, bucket := .physics, id := "1" },
    { code := "BS101", name := "Calculus", credits := 3, bucket := .math, id := "2" },
    { code := "BS104A", name := "Waves", credits := 0.2, bucket := .physics, id := "3" },
    { code := "EC301", name := "Circuits", credits := 3, bucket := .track, id := "4" },
    { code := "BS105A", name := "Laboratory", credits := 0.3, bucket := .physics, id := "5" }
  ]

/-- Courses with exact credits in four buckets. -/
def fourBuckets : List (Course ℚ) :=
  [
    mathCourse "BS101" (3 / 2),
    { mathCourse "PE1" 1 with bucket := .artsAndSports },
    { mathCourse "BS103A" (7 / 3) with bucket := .physics },
    { mathCourse "EC301" 3 with bucket := .other },
    mathCourse "BS102A" (5 / 2)
  ]

theorem entries_account_for_credits_tenths :
    let rounded := evaluate tenthsInPhysics nineInMath undemandingTrack .major
    let unrounded := evaluate fourBuckets smallCohort plainTrack .major
    rounded.part? .physics = some (.science rounded.science.physics)
      ∧ rounded.bucketTotal? .physics = some rounded.science.physics.credits
      ∧ rounded.science.physics.credits = .amount 0.6000000000000001
      ∧ unrounded.entrySum (fun _ => true) = unrounded.totals.total.value
      ∧ unrounded.totals.total.value = 31 / 3
      ∧ unrounded.totals.basic.value = unrounded.entrySum Bucket.isBasic
      ∧ unrounded.science.total.value = unrounded.entrySum Bucket.sciences.contains := by
  intro rounded unrounded
  have total : unrounded.totals.total.value = 31 / 3 := by decide +kernel
  have sum : rounded.science.physics.credits = .amount 0.6000000000000001 := by decide +kernel
  rcases entries_account_for_credits with ⟨entries, sums⟩
  rcases sums fourBuckets smallCohort plainTrack .major with ⟨all, _, basic, _, sciences⟩
  exact ⟨rfl, entries tenthsInPhysics nineInMath undemandingTrack .major .physics _ rfl, sum, all,
    total, basic, sciences⟩

end Audit
end DegreeAudit
