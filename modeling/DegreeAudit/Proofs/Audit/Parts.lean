import DegreeAudit.Audit.Evaluation

namespace DegreeAudit

/-!
# The parts of a report

A report is gone through several times: for the verdict, for its truth values, for the lines that
people read.  Each time the same parts are asked for something, the areas all alike and the buckets
of the advanced part too, and parts that are absent are passed over.

Two such questions have the same answer about every evaluated report if they have about every
evaluated part.  There more is known: a part is met just if what it is made of is, and codes are
missing just if not all that are required are held.
-/

/-- What is asked of the parts of a report, of every kind of part on its own. -/
structure PartTest (κ : Type) where
  totals : TotalsResult κ -> Prop
  math : MathResult κ -> Prop
  science : ScienceResult κ -> Prop
  area : AreaResult κ -> Prop
  floor : FloorResult κ -> Prop
  checklist : ChecklistResult -> Prop

namespace Report

variable {κ : Type}

/-- The areas with one bucket; arts and sports are among them if the cohort has that area. -/
def areas (report : Report κ) : List (AreaResult κ) :=
  [report.engineeringCore, report.engineeringSelect, report.humanities, report.english]
    ++ report.artsAndSports.toList

/-- The buckets of the advanced part. -/
def floors (report : Report κ) : List (FloorResult κ) :=
  [report.track, report.nonTrack, report.ugrp, report.internship]

/-- Every part that is there passes a test. -/
structure Every (test : PartTest κ) (report : Report κ) : Prop where
  totals : test.totals report.totals
  math : test.math report.math
  science : test.science report.science
  areas : forall area, area ∈ report.areas -> test.area area
  floors : forall floor, floor ∈ report.floors -> test.floor floor
  checklist : forall list, list ∈ report.checklist -> test.checklist list

variable (report : Report κ)

theorem forall_areas {property : AreaResult κ -> Prop} :
    (forall area, area ∈ report.areas -> property area)
      <-> property report.engineeringCore ∧ property report.engineeringSelect
        ∧ property report.humanities ∧ property report.english
        ∧ forall area, area ∈ report.artsAndSports -> property area := by
  simp only [areas, List.forall_mem_append, List.forall_mem_cons, List.not_mem_nil, false_implies,
    implies_true, and_true, and_assoc, Option.mem_toList, Option.mem_def]

theorem forall_floors {property : FloorResult κ -> Prop} :
    (forall floor, floor ∈ report.floors -> property floor)
      <-> property report.track ∧ property report.nonTrack ∧ property report.ugrp
        ∧ property report.internship := by
  simp only [floors, List.forall_mem_cons, List.not_mem_nil, false_implies, implies_true, and_true]

/-- The parts in the order of the report. -/
theorem every_iff {test : PartTest κ} :
    report.Every test
      <-> test.totals report.totals ∧ test.math report.math ∧ test.science report.science
        ∧ test.area report.engineeringCore ∧ test.area report.engineeringSelect
        ∧ test.area report.humanities ∧ test.area report.english
        ∧ (forall area, area ∈ report.artsAndSports -> test.area area)
        ∧ test.floor report.track ∧ test.floor report.nonTrack ∧ test.floor report.ugrp
        ∧ test.floor report.internship
        ∧ forall list, list ∈ report.checklist -> test.checklist list := by
  constructor
  · rintro ⟨totals, math, science, inAreas, inFloors, checklist⟩
    rcases (forall_areas report).mp inAreas with ⟨core, select, humanities, english, arts⟩
    rcases (forall_floors report).mp inFloors with ⟨track, nonTrack, ugrp, internship⟩
    exact ⟨totals, math, science, core, select, humanities, english, arts, track, nonTrack, ugrp,
      internship, checklist⟩
  · rintro ⟨totals, math, science, core, select, humanities, english, arts, track, nonTrack, ugrp,
      internship, checklist⟩
    exact ⟨totals, math, science,
      (forall_areas report).mpr ⟨core, select, humanities, english, arts⟩,
      (forall_floors report).mpr ⟨track, nonTrack, ugrp, internship⟩, checklist⟩

end Report

/-- A part is met.  All credits and mathematics are met with what they are made of. -/
def PartTest.met (κ : Type) : PartTest κ where
  totals totals := totals.totalOk = true ∧ totals.basicOk = true ∧ totals.advancedOk = true
  math math := math.requiredOk = true ∧ math.electiveOk = true
  science science := science.ok = true
  area area := area.ok = true
  floor floor := floor.ok = true
  checklist list := list.ok = true

namespace Report

variable {κ : Type} (report : Report κ)

/-- The verdict is that every part is met. -/
theorem satisfied_iff_every : report.satisfied = true <-> report.Every (.met κ) := by
  have option {Part : Type} (part : Option Part) (ok : Part -> Bool) :
      (part.map ok).getD true = true <-> forall present, present ∈ part -> ok present = true := by
    cases part <;> simp
  simp only [satisfied, clauses, List.all_cons, List.all_nil, Bool.and_true, Bool.and_eq_true,
    option, every_iff, PartTest.met, and_assoc]

/-- It is as well that no clause is named as not met. -/
theorem unmet_eq_nil_iff : report.unmet = [] <-> report.satisfied = true := by
  simp [unmet, satisfied]

end Report

namespace Audit

section Evaluated

/-! ## Evaluated parts -/

variable {κ : Type} [OfNat κ 0] [Add κ] [LE κ] [DecidableLE κ] {courses : List (Course κ)}
  {cohort : Cohort κ} {track : Track} {trackType : TrackType}

theorem area_of_mem_areas {result : AreaResult κ}
    (member : result ∈ (evaluate courses cohort track trackType).areas) :
    ∃ rule bucket, result = area courses rule bucket := by
  rcases List.mem_append.mp member with basic | arts
  · simp only [List.mem_cons, List.not_mem_nil, or_false] at basic
    rcases basic with rfl | rfl | rfl | rfl <;> exact ⟨_, _, rfl⟩
  · rcases Option.map_eq_some_iff.mp (Option.mem_toList.mp arts) with ⟨rule, _, same⟩
    exact ⟨rule, .artsAndSports, same.symm⟩

theorem floor_of_mem_floors {result : FloorResult κ}
    (member : result ∈ (evaluate courses cohort track trackType).floors) :
    ∃ bucket need, result = floor courses bucket need := by
  simp only [Report.floors, List.mem_cons, List.not_mem_nil, or_false] at member
  rcases member with rfl | rfl | rfl | rfl <;> exact ⟨_, _, rfl⟩

theorem checklist_of_mem {result : ChecklistResult}
    (member : result ∈ (evaluate courses cohort track trackType).checklist) :
    ∃ list, result = checklist courses list := by
  rcases Option.map_eq_some_iff.mp member with ⟨list, _, same⟩
  exact ⟨list, same.symm⟩

/-- Two tests agree about the courses if they do about every part that is evaluated on them. -/
structure PartTestsAgree (courses : List (Course κ)) (first second : PartTest κ) : Prop where
  totals : forall rule, first.totals (totals courses rule) <-> second.totals (totals courses rule)
  math : forall rule, first.math (math courses rule) <-> second.math (math courses rule)
  science : forall rule additions, first.science (science courses rule additions)
    <-> second.science (science courses rule additions)
  area : forall rule bucket,
    first.area (area courses rule bucket) <-> second.area (area courses rule bucket)
  floor : forall bucket need,
    first.floor (floor courses bucket need) <-> second.floor (floor courses bucket need)
  checklist : forall list,
    first.checklist (checklist courses list) <-> second.checklist (checklist courses list)

theorem PartTestsAgree.symm {first second : PartTest κ}
    (agree : PartTestsAgree courses first second) :
    PartTestsAgree courses second first where
  totals := fun rule => (agree.totals rule).symm
  math := fun rule => (agree.math rule).symm
  science := fun rule additions => (agree.science rule additions).symm
  area := fun rule bucket => (agree.area rule bucket).symm
  floor := fun bucket need => (agree.floor bucket need).symm
  checklist := fun list => (agree.checklist list).symm

theorem PartTestsAgree.every {first second : PartTest κ}
    (agree : PartTestsAgree courses first second)
    (passed : (evaluate courses cohort track trackType).Every first) :
    (evaluate courses cohort track trackType).Every second := by
  refine ⟨(agree.totals _).mp passed.totals, (agree.math _).mp passed.math,
    (agree.science _ _).mp passed.science, ?_, ?_, ?_⟩
  · intro result member
    rcases area_of_mem_areas member with ⟨rule, bucket, rfl⟩
    exact (agree.area rule bucket).mp (passed.areas _ member)
  · intro result member
    rcases floor_of_mem_floors member with ⟨bucket, need, rfl⟩
    exact (agree.floor bucket need).mp (passed.floors _ member)
  · intro result member
    rcases checklist_of_mem member with ⟨list, rfl⟩
    exact (agree.checklist list).mp (passed.checklist _ member)

/-- Tests that agree about the courses pass the same reports on them. -/
theorem PartTestsAgree.every_iff {first second : PartTest κ}
    (agree : PartTestsAgree courses first second) :
    (evaluate courses cohort track trackType).Every first
      <-> (evaluate courses cohort track trackType).Every second :=
  ⟨agree.every, agree.symm.every⟩

/-! ## What evaluated parts are made of -/

omit [OfNat κ 0] [Add κ] [LE κ] [DecidableLE κ] in
theorem check_iff_missing (clause : AllOf) :
    clause.check courses = true <-> clause.missing courses = [] := by
  simp [AllOf.check, AllOf.missing, Holdings.hasAll, Holdings.missing]

theorem area_iff_findings (rule : AreaRule κ) (bucket : Bucket) :
    let result := area courses rule bucket
    result.ok = true <-> result.creditsOk = true ∧ result.requiredOk = true
      ∧ forall ok, ok ∈ result.choiceOk -> ok = true := by
  have undenied (choice : Option Bool) :
      (choice != some false) = true <-> forall ok, ok ∈ choice -> ok = true := by
    rcases choice with _ | _ | _ <;> simp
  change (_ && _ && _) = true <-> _
  rw [Bool.and_eq_true, Bool.and_eq_true, undenied, and_assoc]
  exact Iff.rfl

omit [OfNat κ 0] [Add κ] [LE κ] [DecidableLE κ] in
theorem checklist_iff_findings (list : Checklist) :
    let result := checklist courses list
    result.ok = true <-> result.allOk = true ∧ result.oneOk = true := by
  exact Bool.and_eq_true_iff

omit [LE κ] [DecidableLE κ] in
theorem lab_of_scienceArea {rule : TheoryLab} {bucket : Bucket}
    (ok : (scienceArea courses rule bucket).ok = true) :
    (scienceArea courses rule bucket).labOk = true := by
  change (_ && _) = true at ok
  exact (Bool.and_eq_true_iff.mp ok).2

theorem science_iff_findings (rule : ScienceRule κ) (additions : AllOf) :
    let result := science courses rule additions
    result.ok = true <-> result.totalOk = true ∧ result.physics.ok = true
      ∧ result.chemistry.ok = true ∧ result.biology.ok = true ∧ result.additionsOk = true := by
  change (_ && _ && _ && _ && _) = true <-> _
  simp only [Bool.and_eq_true, and_assoc]
  exact Iff.rfl

end Evaluated

end Audit
end DegreeAudit
