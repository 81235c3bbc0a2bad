import DegreeAudit.Audit.Report
import DegreeAudit.Requirement.Basic

namespace DegreeAudit

/-!
The evaluation of held courses against the requirements of a cohort and a track. It depends on
nothing else: courses that are equal in code, credits and bucket have the same report.
-/

namespace Audit

variable {κ : Type} [OfNat κ 0] [Add κ] [LE κ] [DecidableLE κ]

/-- Whether credits reach a minimum. -/
def reaches (credits : Tally κ) (minimum : κ) : Bool :=
  minimum <= credits.value

/-- The result for all credits and for the two parts. -/
def totals (courses : List (Course κ)) (rule : Totals κ) : TotalsResult κ :=
  let total := Holdings.totalCredits courses
  let basic := Holdings.basicCredits courses
  let advanced := Holdings.advancedCredits courses
  {
    total
    basic
    advanced
    totalMinimum := rule.total
    basicMinimum := rule.basic
    advancedMinimum := rule.advanced
    totalOk := reaches total rule.total
    basicOk := reaches basic rule.basic
    advancedOk := reaches advanced rule.advanced
  }

/-- The result for mathematics. -/
def math (courses : List (Course κ)) (rule : MathRule κ) : MathResult κ :=
  let requiredOk := rule.required.check courses
  let electiveOk := rule.elective.check courses
  {
    credits := Holdings.bucketCredits courses [.math]
    need := rule.minimum
    required := rule.required.codes
    missing := rule.required.missing courses
    requiredOk
    electiveCredits := rule.elective.credits courses
    electiveNeed := rule.elective.minimum
    electiveOk
    ok := requiredOk && electiveOk
  }

/-- The result for one of the sciences. -/
def scienceArea (courses : List (Course κ)) (rule : TheoryLab) (bucket : Bucket) :
    ScienceAreaResult κ :=
  {
    credits := Holdings.bucketCredits courses [bucket]
    theoryAllOk := rule.theoryAllOk courses
    theoryAnyOk := rule.theoryAnyOk courses
    labOk := rule.labOk courses
    ok := rule.check courses
  }

/-- The result for the sciences, with the courses that the track adds. -/
def science (courses : List (Course κ)) (rule : ScienceRule κ) (additions : AllOf) :
    ScienceResult κ :=
  let physics := scienceArea courses rule.physics .physics
  let chemistry := scienceArea courses rule.chemistry .chemistry
  let biology := scienceArea courses rule.biology .biology
  let total := Holdings.bucketCredits courses Bucket.sciences
  let totalOk := reaches total rule.minimum
  let additionsOk := additions.check courses
  {
    total
    need := rule.minimum
    totalOk
    physics
    chemistry
    biology
    additions := additions.codes
    additionsOk
    ok := totalOk && physics.ok && chemistry.ok && biology.ok && additionsOk
  }

/-- The result for an area with one bucket. -/
def area (courses : List (Course κ)) (rule : AreaRule κ) (bucket : Bucket) : AreaResult κ :=
  let credits := Holdings.bucketCredits courses [bucket]
  let creditsOk := reaches credits rule.minimum
  let requiredOk := rule.required.check courses
  let choiceOk := rule.choice.map fun choice => choice.check courses
  {
    credits
    need := rule.minimum
    creditsOk
    required := rule.required.codes
    missing := rule.required.missing courses
    requiredOk
    choice := rule.choice.map fun choice => choice.labels
    choiceOk
    ok := creditsOk && requiredOk && choiceOk != some false
  }

/-- The result for a bucket of the advanced part. -/
def floor (courses : List (Course κ)) (bucket : Bucket) (need : κ) : FloorResult κ :=
  let credits := Holdings.bucketCredits courses [bucket]
  { credits, need, ok := reaches credits need }

/-- The result for a checklist. -/
def checklist (courses : List (Course κ)) (list : Checklist) : ChecklistResult :=
  let allOk := list.all.check courses
  let oneOk := (list.one.map fun one => one.check courses).getD true
  {
    all := list.all.codes
    missing := list.all.missing courses
    allOk
    one := list.one.map fun one => one.labels
    oneOk
    ok := allOk && oneOk
  }

/-- The report on held courses. -/
def evaluate (courses : List (Course κ)) (cohort : Cohort κ) (track : Track)
    (trackType : TrackType) : Report κ :=
  {
    cohortId := cohort.id
    trackId := track.id
    trackType
    totals := totals courses cohort.totals
    math := math courses cohort.math
    science := science courses cohort.science track.additions
    engineeringCore := area courses cohort.engineeringCore .engineeringCore
    engineeringSelect := area courses cohort.engineeringSelect .engineeringSelect
    humanities := area courses cohort.humanities .humanities
    english := area courses cohort.english .english
    artsAndSports := cohort.artsAndSports.map fun rule => area courses rule .artsAndSports
    track := floor courses .track cohort.advanced.track
    nonTrack := floor courses .nonTrack cohort.advanced.nonTrack
    ugrp := floor courses .ugrp cohort.advanced.ugrp
    internship := floor courses .internship cohort.advanced.internship
    checklist := (track.checklists.get? trackType).map (checklist courses)
    bucketTotals := Holdings.bucketTotals courses
  }

end Audit
end DegreeAudit
