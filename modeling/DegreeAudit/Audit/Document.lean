import DegreeAudit.Audit.Report
import DegreeAudit.Json.Basic

namespace DegreeAudit

/-!
The report as a document.
-/

namespace Report

/-- A sum of credits: a whole zero if no course was counted. -/
def tallyDocument : Tally Float -> Json
  | .nothing => .int 0
  | .amount value => .real value

/-- A list of codes. -/
def codesDocument (codes : List String) : Json :=
  .list (codes.map .string)

/-- A list of codes that may be absent. -/
def codesDocument? : Option (List String) -> Json
  | none => .null
  | some codes => codesDocument codes

/-- All credits and the two parts. -/
def totalsDocument (totals : TotalsResult Float) : Json :=
  .object [
    ("total", tallyDocument totals.total),
    ("basic", tallyDocument totals.basic),
    ("advanced", tallyDocument totals.advanced),
    ("total_min", .real totals.totalMinimum),
    ("basic_min", .real totals.basicMinimum),
    ("advanced_min", .real totals.advancedMinimum),
    ("total_ok", .bool totals.totalOk),
    ("basic_ok", .bool totals.basicOk),
    ("advanced_ok", .bool totals.advancedOk)
  ]

/-- Mathematics. -/
def mathDocument (math : MathResult Float) : Json :=
  .object [
    ("credits", tallyDocument math.credits),
    ("need", .real math.need),
    ("required_all", codesDocument math.required),
    ("missing", codesDocument math.missing),
    ("all_ok", .bool math.requiredOk),
    ("group_credits", tallyDocument math.electiveCredits),
    ("group_need", .real math.electiveNeed),
    ("group_ok", .bool math.electiveOk),
    ("ok", .bool math.ok)
  ]

/-- One of the sciences. -/
def scienceAreaDocument (area : ScienceAreaResult Float) : Json :=
  .object [
    ("credits", tallyDocument area.credits),
    ("theory_all_ok", .bool area.theoryAllOk),
    ("theory_any_ok", .bool area.theoryAnyOk),
    ("lab_ok", .bool area.labOk),
    ("ok", .bool area.ok)
  ]

/-- The sciences. -/
def scienceDocument (science : ScienceResult Float) : Json :=
  .object [
    ("total", tallyDocument science.total),
    ("need", .real science.need),
    ("total_ok", .bool science.totalOk),
    ("physics", scienceAreaDocument science.physics),
    ("chem", scienceAreaDocument science.chemistry),
    ("bio", scienceAreaDocument science.biology),
    ("adds", codesDocument science.additions),
    ("adds_ok", .bool science.additionsOk),
    ("ok", .bool science.ok)
  ]

/-- An area with one bucket. -/
def areaDocument (area : AreaResult Float) : Json :=
  .object [
    ("credits", tallyDocument area.credits),
    ("need", .real area.need),
    ("credits_ok", .bool area.creditsOk),
    ("required_all", codesDocument area.required),
    ("missing", codesDocument area.missing),
    ("required_ok", .bool area.requiredOk),
    ("any_of", codesDocument? area.choice),
    ("any_ok", (area.choiceOk.map Json.bool).getD .null),
    ("ok", .bool area.ok)
  ]

/-- A bucket of the advanced part. -/
def floorDocument (floor : FloorResult Float) : Json :=
  .object [
    ("credits", tallyDocument floor.credits),
    ("need", .real floor.need),
    ("ok", .bool floor.ok)
  ]

/-- The checklist of the track. -/
def checklistDocument (checklist : ChecklistResult) : Json :=
  .object [
    ("must_all", codesDocument checklist.all),
    ("missing", codesDocument checklist.missing),
    ("must_all_ok", .bool checklist.allOk),
    ("must_one", codesDocument? checklist.one),
    ("must_one_ok", .bool checklist.oneOk),
    ("ok", .bool checklist.ok)
  ]

/-- The report, with the verdict as its last entry. -/
def document (report : Report Float) : Json :=
  .object [
    ("cohort_id", .string report.cohortId),
    ("track_id", .string report.trackId),
    ("track_type", .string report.trackType.id),
    ("totals", totalsDocument report.totals),
    ("math", mathDocument report.math),
    ("science", scienceDocument report.science),
    ("eng_core", areaDocument report.engineeringCore),
    ("eng_select", areaDocument report.engineeringSelect),
    ("hss", areaDocument report.humanities),
    ("english", areaDocument report.english),
    ("arts_pe", (report.artsAndSports.map areaDocument).getD .null),
    ("track", floorDocument report.track),
    ("non_track", floorDocument report.nonTrack),
    ("ugrp", floorDocument report.ugrp),
    ("intern", floorDocument report.internship),
    ("extra_track", (report.checklist.map checklistDocument).getD .null),
    ("bucket_totals",
      .object (report.bucketTotals.map fun (bucket, tally) => (bucket.id, tallyDocument tally))),
    ("satisfied", .bool report.satisfied)
  ]

end Report
end DegreeAudit
