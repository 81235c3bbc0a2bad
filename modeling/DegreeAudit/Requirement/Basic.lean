import DegreeAudit.Requirement.Clause
import DegreeAudit.TrackType

namespace DegreeAudit

/-!
The requirements for graduation: one set for every cohort of students, and what every track adds.
-/

/-- The least credits in all, in the basic part and in the advanced part. -/
structure Totals (κ : Type) where
  total : κ
  basic : κ
  advanced : κ
  deriving DecidableEq, Repr

/-- What is required in mathematics. -/
structure MathRule (κ : Type) where
  minimum : κ
  required : AllOf
  elective : CreditsFrom κ
  deriving DecidableEq, Repr

/-- What is required in the sciences. -/
structure ScienceRule (κ : Type) where
  minimum : κ
  physics : TheoryLab
  chemistry : TheoryLab
  biology : TheoryLab
  deriving DecidableEq, Repr

/-- What is required in an area with one bucket. -/
structure AreaRule (κ : Type) where
  minimum : κ
  required : AllOf
  choice : Option AnyOf
  deriving DecidableEq, Repr

/-- The least credits in the buckets of the advanced part. -/
structure AdvancedRule (κ : Type) where
  track : κ
  nonTrack : κ
  ugrp : κ
  internship : κ
  deriving DecidableEq, Repr

/-- The requirements for the students of one cohort. -/
structure Cohort (κ : Type) where
  id : String
  label : String
  totals : Totals κ
  math : MathRule κ
  science : ScienceRule κ
  engineeringCore : AreaRule κ
  engineeringSelect : AreaRule κ
  humanities : AreaRule κ
  english : AreaRule κ
  artsAndSports : Option (AreaRule κ)
  advanced : AdvancedRule κ
  deriving DecidableEq, Repr

/-- The courses a track asks for in addition. -/
structure Checklist where
  all : AllOf
  one : Option AnyOf
  deriving DecidableEq, Repr

/-- The checklists of a track, one for each way to declare it. -/
structure Checklists where
  major : Option Checklist
  minor : Option Checklist
  deriving DecidableEq, Repr

namespace Checklists

/-- No checklists. -/
def empty : Checklists := ⟨none, none⟩

/-- The checklist for a declaration. -/
def get? (lists : Checklists) : TrackType -> Option Checklist
  | .major => lists.major
  | .minor => lists.minor

/-- The checklists with the one for a declaration set. -/
def set (lists : Checklists) (trackType : TrackType) (list : Checklist) : Checklists :=
  match trackType with
  | .major => { lists with major := some list }
  | .minor => { lists with minor := some list }

@[simp]
theorem get?_empty (trackType : TrackType) : empty.get? trackType = none := by
  cases trackType <;> rfl

theorem get?_set (lists : Checklists) (trackType other : TrackType) (list : Checklist) :
    (lists.set trackType list).get? other
      = if other = trackType then some list else lists.get? other := by
  cases trackType <;> cases other <;> rfl

end Checklists

/-- A track of the studies. The codes of its courses begin with one of the starts. -/
structure Track where
  id : String
  label : String
  codeStarts : List String
  additions : AllOf
  checklists : Checklists
  deriving DecidableEq, Repr

/-- The requirements of all cohorts and tracks. -/
structure Requirements (κ : Type) where
  cohorts : List (Cohort κ)
  tracks : List Track
  deriving DecidableEq, Repr

namespace Requirements

variable {κ : Type}

/-- Why there is nothing to fall back on. -/
inductive Gap where
  | noCohorts
  | noTracks
  deriving DecidableEq, Repr

/-- The wording of a gap. -/
def Gap.message : Gap -> String
  | .noCohorts => "requirement specification has no cohorts"
  | .noTracks => "requirement specification has no tracks"

/-- The cohort of an id, or the first one if there is no such cohort. -/
def cohort (requirements : Requirements κ) (id : Option String) : Except Gap (Cohort κ) :=
  match requirements.cohorts with
  | [] => .error .noCohorts
  | first :: _ =>
      .ok ((requirements.cohorts.find? fun cohort => some cohort.id == id).getD first)

/-- The track of an id, or the first one if there is no such track. -/
def track (requirements : Requirements κ) (id : Option String) : Except Gap Track :=
  match requirements.tracks with
  | [] => .error .noTracks
  | first :: _ => .ok ((requirements.tracks.find? fun track => some track.id == id).getD first)

/-- Whether there is a cohort of an id. -/
def hasCohort (requirements : Requirements κ) (id : String) : Bool :=
  requirements.cohorts.any fun cohort => cohort.id == id

/-- Whether there is a track of an id. -/
def hasTrack (requirements : Requirements κ) (id : String) : Bool :=
  requirements.tracks.any fun track => track.id == id

end Requirements
end DegreeAudit
