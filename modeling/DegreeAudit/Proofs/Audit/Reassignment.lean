import DegreeAudit.Proofs.Audit.Buckets

namespace DegreeAudit

/-!
# A course in another bucket

A finding of a report looks at codes, at all credits, or at the credits in some buckets.  When one
course goes from one bucket to another, the first two stay as they are, and a sum over buckets does
as long as it counts both of the two buckets or neither.  It is then the same sum of the same
credits in the same order, so this holds of rounded credits to the last bit.

What may change is thus the credits of the two buckets and what is decided on them, the two halves
of all credits where one bucket is basic and the other advanced, and the credits of the sciences
where one bucket belongs to them and the other does not.
-/

/-- Two parts differ at most in the credits that they show and in what is decided on these.  In
mathematics and in each of the sciences nothing is. -/
inductive BucketPart.SameBesideCredits {κ : Type} : BucketPart κ -> BucketPart κ -> Prop where
  | math (result : MathResult κ) (credits : Tally κ) :
      SameBesideCredits (.math result) (.math { result with credits })
  | science (result : ScienceAreaResult κ) (credits : Tally κ) :
      SameBesideCredits (.science result) (.science { result with credits })
  | area (result : AreaResult κ) (credits : Tally κ) (creditsOk ok : Bool) :
      SameBesideCredits (.area result) (.area { result with credits, creditsOk, ok })
  | floor (result : FloorResult κ) (credits : Tally κ) (ok : Bool) :
      SameBesideCredits (.floor result) (.floor { result with credits, ok })

/-- What a report keeps when a course goes from one bucket to another. -/
structure Report.KeepsBeside {κ : Type} (source target : Bucket) (old new : Report κ) : Prop where
  total : new.totals.total = old.totals.total
  totalOk : new.totals.totalOk = old.totals.totalOk
  parts : forall bucket,
    Option.Rel BucketPart.SameBesideCredits (old.part? bucket) (new.part? bucket)
  otherParts : forall bucket, bucket ≠ source -> bucket ≠ target ->
    new.part? bucket = old.part? bucket
  otherEntries : forall bucket, bucket ≠ source -> bucket ≠ target ->
    new.bucketTotal? bucket = old.bucketTotal? bucket
  additions : new.science.additions = old.science.additions
  additionsOk : new.science.additionsOk = old.science.additionsOk
  checklist : new.checklist = old.checklist
  sciences : (source ∈ Bucket.sciences ↔ target ∈ Bucket.sciences) ->
    new.science.total = old.science.total
  sameHalf : source.isBasic = target.isBasic -> new.totals = old.totals

namespace Audit

variable {κ : Type} [OfNat κ 0] [Add κ] {source target bucket : Bucket}

/-- Two lists of courses hold the same codes, and the courses that a test of code and bucket selects
have the same credits in both, as long as the test does not tell two buckets apart. -/
structure SeenAlikeBeside (source target : Bucket) (old new : List (Course κ)) : Prop where
  held : heldKeys old = heldKeys new
  credits : forall test : String -> Bucket -> Bool,
    (forall key, test key source = test key target) ->
      Holdings.creditsWhere (fun course => test course.key course.bucket) old =
        Holdings.creditsWhere (fun course => test course.key course.bucket) new

theorem seenAlikeBeside_of_moved (before after : List (Course κ)) (course : Course κ)
    (target : Bucket) :
    SeenAlikeBeside course.bucket target (before ++ course :: after)
      (before ++ { course with bucket := target } :: after) where
  held := by
    ext key
    simp [heldKeys, or_and_right, exists_or]
  credits := by
    intro test blind
    -- the course has the same key before and after, and its bucket is all that the test could tell
    have same : test course.key target = test course.key course.bucket := (blind _).symm
    simp only [Holdings.creditsWhere, List.filter_append, List.filter_cons, List.map_append]
    change _ = Tally.sum (_ ++ List.map _ (if test course.key target = true then _ else _))
    rw [same]
    split
    · rfl
    · rfl

namespace SeenAlikeBeside

section Sums

/-! ## Sums -/

variable {old new : List (Course κ)} (alike : SeenAlikeBeside source target old new)

include alike

/-- Buckets that count both of the two or neither have the same credits. -/
theorem bucketCredits {buckets : List Bucket} (both : source ∈ buckets ↔ target ∈ buckets) :
    Holdings.bucketCredits old buckets = Holdings.bucketCredits new buckets := by
  apply alike.credits fun _ bucket => buckets.contains bucket
  intro _
  rw [Bool.eq_iff_iff, List.contains_iff_mem, List.contains_iff_mem]
  exact both

theorem otherCredits (apart : bucket ≠ source) (away : bucket ≠ target) :
    Holdings.bucketCredits old [bucket] = Holdings.bucketCredits new [bucket] := by
  apply alike.bucketCredits
  rw [List.mem_singleton, List.mem_singleton]
  exact iff_of_false apart.symm away.symm

theorem creditsFor (codes : List String) :
    Holdings.creditsFor old codes = Holdings.creditsFor new codes :=
  alike.credits (fun key _ => (codes.map normalizeCode).contains key) fun _ => rfl

theorem totalCredits : Holdings.totalCredits old = Holdings.totalCredits new := by
  rw [totalCredits_eq_creditsWhere, totalCredits_eq_creditsWhere]
  exact alike.credits (fun _ _ => true) fun _ => rfl

theorem basicCredits (same : source.isBasic = target.isBasic) :
    Holdings.basicCredits old = Holdings.basicCredits new :=
  alike.credits (fun _ bucket => bucket.isBasic) fun _ => same

theorem advancedCredits (same : source.isBasic = target.isBasic) :
    Holdings.advancedCredits old = Holdings.advancedCredits new :=
  alike.credits (fun _ bucket => bucket.isAdvanced) fun _ => Bool.not_inj same

end Sums

section Reports

/-! ## Reports -/

open BucketPart (SameBesideCredits)

variable [LE κ] [DecidableLE κ] {old new : List (Course κ)}
  (alike : SeenAlikeBeside source target old new)

include alike

theorem math_beside (rule : MathRule κ) :
    SameBesideCredits (.math (math old rule)) (.math (math new rule)) := by
  have elective : rule.elective.credits old = rule.elective.credits new :=
    alike.creditsFor rule.elective.codes
  have kept : math new rule
      = { math old rule with credits := Holdings.bucketCredits new [.math] } := by
    simp only [math, elective, elective_check_congr elective, all_check_congr alike.held,
      all_missing_congr alike.held]
  rw [kept]
  exact .math _ _

omit [LE κ] [DecidableLE κ] in
theorem science_beside (rule : TheoryLab) (bucket : Bucket) :
    SameBesideCredits (.science (scienceArea old rule bucket))
      (.science (scienceArea new rule bucket)) := by
  have same := sameScience_of_heldKeys alike.held rule bucket
  have kept : scienceArea new rule bucket
      = { scienceArea old rule bucket with credits := Holdings.bucketCredits new [bucket] } := by
    rw [scienceArea, ScienceAreaResult.mk.injEq]
    exact ⟨rfl, same.theoryAllOk.symm, same.theoryAnyOk.symm, same.labOk.symm, same.ok.symm⟩
  rw [kept]
  exact .science _ _

theorem area_beside (rule : AreaRule κ) (bucket : Bucket) :
    SameBesideCredits (.area (area old rule bucket)) (.area (area new rule bucket)) := by
  have kept : area new rule bucket
      = { area old rule bucket with
          credits := Holdings.bucketCredits new [bucket]
          creditsOk := (area new rule bucket).creditsOk
          ok := (area new rule bucket).ok } := by
    simp only [area, all_check_congr alike.held, all_missing_congr alike.held,
      choice_check_congr alike.held]
  rw [kept]
  exact .area _ _ _ _

omit alike in
theorem floor_beside (bucket : Bucket) (need : κ) :
    SameBesideCredits (.floor (floor old bucket need)) (.floor (floor new bucket need)) :=
  .floor (floor old bucket need) _ _

variable (cohort : Cohort κ) (track : Track) (trackType : TrackType)

/-- Every part is the same beside the credits of its bucket. -/
theorem parts (bucket : Bucket) :
    Option.Rel SameBesideCredits ((evaluate old cohort track trackType).part? bucket)
      ((evaluate new cohort track trackType).part? bucket) := by
  cases bucket with
  | math => exact .some (alike.math_beside cohort.math)
  | physics => exact .some (alike.science_beside cohort.science.physics .physics)
  | chemistry => exact .some (alike.science_beside cohort.science.chemistry .chemistry)
  | biology => exact .some (alike.science_beside cohort.science.biology .biology)
  | engineeringCore => exact .some (alike.area_beside cohort.engineeringCore .engineeringCore)
  | engineeringSelect =>
      exact .some (alike.area_beside cohort.engineeringSelect .engineeringSelect)
  | humanities => exact .some (alike.area_beside cohort.humanities .humanities)
  | english => exact .some (alike.area_beside cohort.english .english)
  | artsAndSports =>
      change Option.Rel _ ((cohort.artsAndSports.map _).map _) ((cohort.artsAndSports.map _).map _)
      cases cohort.artsAndSports with
      | none => exact .none
      | some rule => exact .some (alike.area_beside rule .artsAndSports)
  | track => exact .some (floor_beside .track cohort.advanced.track)
  | nonTrack => exact .some (floor_beside .nonTrack cohort.advanced.nonTrack)
  | ugrp => exact .some (floor_beside .ugrp cohort.advanced.ugrp)
  | internship => exact .some (floor_beside .internship cohort.advanced.internship)
  | other => exact .none

/-- A part about neither of the two buckets is the same altogether. -/
theorem otherParts (apart : bucket ≠ source) (away : bucket ≠ target) :
    (evaluate new cohort track trackType).part? bucket
      = (evaluate old cohort track trackType).part? bucket := by
  have credits := alike.otherCredits apart away
  have science := fun rule => congrArg BucketPart.science (scienceArea_congr alike.held credits rule)
  have area := fun rule => congrArg BucketPart.area (area_congr alike.held credits rule)
  have floor := fun need => congrArg BucketPart.floor (floor_congr credits need)
  symm
  cases bucket with
  | math =>
      have elective := alike.creditsFor cohort.math.elective.codes
      have math := math_congr alike.held credits elective
      exact congrArg (fun result => some (BucketPart.math result)) math
  | physics | chemistry | biology => exact congrArg some (science _)
  | engineeringCore | engineeringSelect | humanities | english => exact congrArg some (area _)
  | artsAndSports =>
      change (cohort.artsAndSports.map _).map _ = (cohort.artsAndSports.map _).map _
      rw [Option.map_map, Option.map_map]
      exact congrArg (fun part => cohort.artsAndSports.map part) (funext area)
  | track | nonTrack | ugrp | internship => exact congrArg some (floor _)
  | other => rfl

/-- Lists that are seen alike beside two buckets have reports that agree beside them. -/
theorem keepsBeside :
    Report.KeepsBeside source target (evaluate old cohort track trackType)
      (evaluate new cohort track trackType) where
  total := alike.totalCredits.symm
  totalOk := congrArg (fun total => reaches total cohort.totals.total) alike.totalCredits.symm
  parts := alike.parts cohort track trackType
  otherParts := fun _ apart away => alike.otherParts cohort track trackType apart away
  otherEntries := by
    intro bucket apart away
    rw [bucketTotal?_evaluate, bucketTotal?_evaluate, alike.otherCredits apart away]
  additions := rfl
  additionsOk := (all_check_congr alike.held track.additions).symm
  checklist := by
    change (track.checklists.get? trackType).map (Audit.checklist new) = _
    rw [← funext (checklist_congr alike.held)]
    rfl
  sciences := fun both => (alike.bucketCredits both).symm
  sameHalf := by
    intro same
    change totals new cohort.totals = totals old cohort.totals
    simp only [totals, alike.totalCredits, alike.basicCredits same, alike.advancedCredits same]

end Reports

end SeenAlikeBeside

end Audit
end DegreeAudit
