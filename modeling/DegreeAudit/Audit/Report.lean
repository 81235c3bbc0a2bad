import DegreeAudit.Bucket
import DegreeAudit.Tally
import DegreeAudit.TrackType

namespace DegreeAudit

/-!
The report on held courses: every requirement with the numbers it was decided on. The verdict is
the conjunction of the sixteen clauses that `Report.clauses` lists.
-/

/-- Credits beside the least that is needed of them, in all and in the two parts. -/
structure TotalsResult (κ : Type) where
  total : Tally κ
  basic : Tally κ
  advanced : Tally κ
  totalMinimum : κ
  basicMinimum : κ
  advancedMinimum : κ
  totalOk : Bool
  basicOk : Bool
  advancedOk : Bool
  deriving DecidableEq, Repr

/-- The result for mathematics. -/
structure MathResult (κ : Type) where
  credits : Tally κ
  need : κ
  required : List String
  missing : List String
  requiredOk : Bool
  electiveCredits : Tally κ
  electiveNeed : κ
  electiveOk : Bool
  ok : Bool
  deriving DecidableEq, Repr

/-- The result for one of the sciences. -/
structure ScienceAreaResult (κ : Type) where
  credits : Tally κ
  theoryAllOk : Bool
  theoryAnyOk : Bool
  labOk : Bool
  ok : Bool
  deriving DecidableEq, Repr

/-- The result for the sciences together. -/
structure ScienceResult (κ : Type) where
  total : Tally κ
  need : κ
  totalOk : Bool
  physics : ScienceAreaResult κ
  chemistry : ScienceAreaResult κ
  biology : ScienceAreaResult κ
  additions : List String
  additionsOk : Bool
  ok : Bool
  deriving DecidableEq, Repr

/-- The result for an area with one bucket. Nothing is said about a choice that the area does not
ask for. -/
structure AreaResult (κ : Type) where
  credits : Tally κ
  need : κ
  creditsOk : Bool
  required : List String
  missing : List String
  requiredOk : Bool
  choice : Option (List String)
  choiceOk : Option Bool
  ok : Bool
  deriving DecidableEq, Repr

/-- The result for a bucket of the advanced part. -/
structure FloorResult (κ : Type) where
  credits : Tally κ
  need : κ
  ok : Bool
  deriving DecidableEq, Repr

/-- The result for the checklist of the track. -/
structure ChecklistResult where
  all : List String
  missing : List String
  allOk : Bool
  one : Option (List String)
  oneOk : Bool
  ok : Bool
  deriving DecidableEq, Repr

/-- The report on held courses. -/
structure Report (κ : Type) where
  cohortId : String
  trackId : String
  trackType : TrackType
  totals : TotalsResult κ
  math : MathResult κ
  science : ScienceResult κ
  engineeringCore : AreaResult κ
  engineeringSelect : AreaResult κ
  humanities : AreaResult κ
  english : AreaResult κ
  artsAndSports : Option (AreaResult κ)
  track : FloorResult κ
  nonTrack : FloorResult κ
  ugrp : FloorResult κ
  internship : FloorResult κ
  checklist : Option ChecklistResult
  bucketTotals : List (Bucket × Tally κ)
  deriving DecidableEq, Repr

namespace Report

variable {κ : Type}

/-- Every clause that the verdict depends on, by its name. A part that does not apply is met. -/
def clauses (report : Report κ) : List (String × Bool) :=
  [
    ("totals.total", report.totals.totalOk),
    ("totals.basic", report.totals.basicOk),
    ("totals.advanced", report.totals.advancedOk),
    ("math.required", report.math.requiredOk),
    ("math.elective", report.math.electiveOk),
    ("science", report.science.ok),
    ("eng_core", report.engineeringCore.ok),
    ("eng_select", report.engineeringSelect.ok),
    ("hss", report.humanities.ok),
    ("english", report.english.ok),
    ("arts_pe", (report.artsAndSports.map fun area => area.ok).getD true),
    ("advanced.track", report.track.ok),
    ("advanced.non_track", report.nonTrack.ok),
    ("advanced.ugrp", report.ugrp.ok),
    ("advanced.intern", report.internship.ok),
    ("extra_track", (report.checklist.map fun checklist => checklist.ok).getD true)
  ]

/-- Whether all requirements are met. -/
def satisfied (report : Report κ) : Bool :=
  report.clauses.all fun clause => clause.2

/-- The names of the clauses that are not met. -/
def unmet (report : Report κ) : List String :=
  (report.clauses.filter fun clause => !clause.2).map fun clause => clause.1

end Report
end DegreeAudit
