import DegreeAudit.Audit.Report
import DegreeAudit.Number.Layout
import DegreeAudit.Requirement.Basic

namespace DegreeAudit

/-!
The report as lines of text. Every requirement is a line with the credits there are, the credits
needed and a badge; what is missing and what can be chosen stands on indented lines below.
-/

namespace Summary

/-- An amount of credits. -/
def amount (credits : Float) : String :=
  String.ofList (Number.amountText credits)

/-- The badge of a requirement. -/
def badge (ok : Bool) : String :=
  if ok then "OK" else "missing"

/-- A list of codes in a line. -/
def codeList (codes : List String) : String :=
  Text.joinStrings ", " codes

/-- A list of options in a line. -/
def optionList (options : List String) : String :=
  Text.joinStrings " / " options

/-- The line of a requirement. -/
def line (title : String) (held need : Float) (ok : Bool) : String :=
  "  " ++ title ++ ": " ++ amount held ++ " / " ++ amount need ++ " [" ++ badge ok ++ "]"

/-- The line of the codes that are required and not held, unless there are none. -/
def missingLines (codes : List String) : List String :=
  if codes.isEmpty then [] else ["      required, not taken: " ++ codeList codes]

/-- The line of a choice. -/
def choiceLine (options : List String) (ok : Bool) : String :=
  "      one of " ++ optionList options ++ " [" ++ badge ok ++ "]"

/-- The lines of all credits and of the two parts. -/
def totalsLines (totals : TotalsResult Float) : List String :=
  [
    line "Total" totals.total.value totals.totalMinimum totals.totalOk,
    line "Basic" totals.basic.value totals.basicMinimum totals.basicOk,
    line "Advanced" totals.advanced.value totals.advancedMinimum totals.advancedOk
  ]

/-- The lines of mathematics. -/
def mathLines (math : MathResult Float) : List String :=
  [line "Math" math.credits.value math.need math.ok]
    ++ missingLines math.missing
    ++ ["      elective group: " ++ amount math.electiveCredits.value ++ " / "
      ++ amount math.electiveNeed ++ " [" ++ badge math.electiveOk ++ "]"]

/-- The line of one of the sciences. -/
def scienceAreaLine (title : String) (area : ScienceAreaResult Float) : String :=
  "      " ++ title ++ ": " ++ amount area.credits.value ++ " credits, theory+lab ["
    ++ badge area.ok ++ "]"

/-- The lines of the sciences. -/
def scienceLines (science : ScienceResult Float) : List String :=
  [
    line "Science" science.total.value science.need science.ok,
    scienceAreaLine "physics" science.physics,
    scienceAreaLine "chemistry" science.chemistry,
    scienceAreaLine "biology" science.biology
  ]
    ++ if science.additions.isEmpty then []
      else ["      track additions " ++ codeList science.additions ++ " ["
        ++ badge science.additionsOk ++ "]"]

/-- The lines of an area with one bucket. -/
def areaLines (title : String) (area : AreaResult Float) : List String :=
  [line title area.credits.value area.need area.ok]
    ++ missingLines area.missing
    ++ match area.choice with
      | none => []
      | some options => [choiceLine options (area.choiceOk.getD false)]

/-- The line of a bucket of the advanced part. -/
def floorLine (title : String) (floor : FloorResult Float) : String :=
  line title floor.credits.value floor.need floor.ok

/-- The lines of the checklist of the track. -/
def checklistLines (checklist : ChecklistResult) : List String :=
  [
    "  Track checklist [" ++ badge checklist.ok ++ "]",
    "      all of " ++ codeList checklist.all ++ " [" ++ badge checklist.allOk ++ "]"
  ]
    ++ match checklist.one with
      | none | some [] => []
      | some options => [choiceLine options checklist.oneOk]

/-- The last line: the verdict. -/
def verdictLine (report : Report Float) : String :=
  if report.satisfied then "All graduation requirements are met."
  else "Not yet met: " ++ codeList report.unmet

/-- The lines of a report, with the labels of its cohort and track. -/
def lines (report : Report Float) (cohortLabel trackLabel : String) : List String :=
  ["Cohort " ++ cohortLabel ++ " / track " ++ trackLabel ++ " (" ++ report.trackType.id ++ ")"]
    ++ totalsLines report.totals
    ++ ["Basic"]
    ++ mathLines report.math
    ++ scienceLines report.science
    ++ areaLines "Engineering core" report.engineeringCore
    ++ areaLines "Engineering elective" report.engineeringSelect
    ++ areaLines "Writing / HSS" report.humanities
    ++ areaLines "English" report.english
    ++ (match report.artsAndSports with
      | none => []
      | some area => areaLines "Arts / PE" area)
    ++ ["Advanced"]
    ++ [
      floorLine "Track" report.track,
      floorLine "Non-track" report.nonTrack,
      floorLine "UGRP" report.ugrp,
      floorLine "Internship" report.internship
    ]
    ++ (match report.checklist with
      | none => []
      | some checklist => checklistLines checklist)
    ++ [verdictLine report]

/-- The text of a report. The labels are those of the first cohort and the first track with the
ids of the report. -/
def text (report : Report Float) (requirements : Requirements Float) :
    Except Requirements.Gap String := do
  let cohort <- requirements.cohort (some report.cohortId)
  let track <- requirements.track (some report.trackId)
  pure (Text.joinStrings "\n" (lines report cohort.label track.label))

end Summary
end DegreeAudit
