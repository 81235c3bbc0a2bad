import DegreeAudit.Requirement.Basic

namespace DegreeAudit

/-!
The requirements that come with the planner: three cohorts of students and six tracks. The cohorts
differ in the least credits of the basic part, in what is asked for in writing and reading, and in
whether arts and sports are asked for.
-/

namespace Packaged

/-- What all cohorts have to take in mathematics. -/
def math : MathRule Float :=
  {
    minimum := 9
    required := ⟨["BS102A", "BS101"]⟩
    elective := ⟨["BS201A", "BS203", "BS202"], 3⟩
  }

/-- What all cohorts have to take in the sciences. -/
def science : ScienceRule Float :=
  {
    minimum := 18
    physics := ⟨some ["BS103A"], ["BS104A"], ["BS105A", "BS106A"]⟩
    chemistry := ⟨some ["BS113"], ["CHEM206"], ["BS118", "BS119"]⟩
    biology := ⟨some ["BS114"], ["BS115"], ["BS116", "BS117"]⟩
  }

/-- The core of engineering. -/
def engineeringCore : AreaRule Float :=
  { minimum := 9, required := ⟨["BE101A", "BE201", "BE202"]⟩, choice := none }

/-- The elective part of engineering. -/
def engineeringSelect : AreaRule Float :=
  {
    minimum := 3
    required := ⟨[]⟩
    choice := some ⟨[["BE203"], ["BE204"], ["BE205", "BE206"]]⟩
  }

/-- The writing courses to choose from. -/
def writing : AnyOf := ⟨[["HSS109A"], ["HSS110"]]⟩

/-- What all cohorts have to take in English. -/
def english : AreaRule Float :=
  { minimum := 4, required := ⟨["ENG_AE1", "ENG_AE2"]⟩, choice := none }

/-- The least credits of the advanced part. -/
def advanced : AdvancedRule Float :=
  { track := 27, nonTrack := 6, ugrp := 6, internship := 1 }

/-- The cohort of 2020. -/
def cohort2020 : Cohort Float :=
  {
    id := "2020"
    label := "2020학번"
    totals := ⟨130, 62, 42⟩
    math
    science
    engineeringCore
    engineeringSelect
    humanities := { minimum := 12, required := ⟨[]⟩, choice := some writing }
    english
    artsAndSports := some { minimum := 4, required := ⟨["PE1", "PE2"]⟩, choice := none }
    advanced
  }

/-- The cohorts of 2021 to 2024. -/
def cohort2021 : Cohort Float :=
  {
    id := "2023_2024"
    label := "2021~2024학번"
    totals := ⟨130, 58, 42⟩
    math
    science
    engineeringCore
    engineeringSelect
    humanities := { minimum := 12, required := ⟨[]⟩, choice := some writing }
    english
    artsAndSports := none
    advanced
  }

/-- The cohorts from 2025 on. -/
def cohort2025 : Cohort Float :=
  {
    id := "2025_plus"
    label := "2025학번 이후"
    totals := ⟨130, 60, 42⟩
    math
    science
    engineeringCore
    engineeringSelect
    humanities :=
      { minimum := 14, required := ⟨["HSS190", "HSS191", "HSS192"]⟩, choice := some writing }
    english
    artsAndSports := none
    advanced
  }

/-- A track without courses to take in addition. -/
def plainTrack (id label : String) (codeStarts : List String) : Track :=
  { id, label, codeStarts, additions := ⟨[]⟩, checklists := .empty }

/-- The checklists of physics. -/
def physicsChecklists : Checklists :=
  {
    major := some ⟨⟨["PH301", "PH302", "PH311"]⟩, some ⟨[["PH401L"], ["PH402L"]]⟩⟩
    minor := some ⟨⟨["PH301", "PH302"]⟩, none⟩
  }

/-- The checklists of chemistry. -/
def chemistryChecklists : Checklists :=
  {
    major := some ⟨⟨["CH301", "CH302", "CH311"]⟩, some ⟨[["CH401L"], ["CH402L"]]⟩⟩
    minor := some ⟨⟨["CH301"]⟩, none⟩
  }

/-- All tracks. -/
def tracks : List Track :=
  [
    { plainTrack "EE" "전자공학" ["EC", "EE"] with additions := ⟨["BS104A"]⟩ },
    plainTrack "CSE" "컴퓨터공학" ["SE", "CSE"],
    plainTrack "ME" "기계공학" ["MEC"],
    {
      plainTrack "PHY" "물리학" ["PH"] with
      additions := ⟨["BS104A"]⟩
      checklists := physicsChecklists
    },
    { plainTrack "CHEM" "화학" ["CH"] with checklists := chemistryChecklists },
    plainTrack "BIO" "생명과학" ["BIO"]
  ]

/-- The requirements that come with the planner. -/
def requirements : Requirements Float :=
  { cohorts := [cohort2020, cohort2021, cohort2025], tracks }

end Packaged
end DegreeAudit
