import DegreeAudit.Course
import DegreeAudit.TrackType

namespace DegreeAudit

/-!
What the planner keeps for a student: the cohort, the track and how it is declared, and the courses
that are held, the newest first. Ids for new courses come from a supply.
-/

/-- The state of the planner. -/
structure PlannerState where
  cohortId : String
  trackId : String
  trackType : TrackType
  courses : List (Course Float)
  deriving DecidableEq, Repr

namespace PlannerState

/-- The state before anything is entered. -/
def initial : PlannerState :=
  { cohortId := "2023_2024", trackId := "EE", trackType := .major, courses := [] }

/-- The first course of an id. -/
def course? (state : PlannerState) (id : String) : Option (Course Float) :=
  state.courses.find? fun course => course.id == id

/-- The state with a course put before the others. -/
def addFirst (course : Course Float) (state : PlannerState) : PlannerState :=
  { state with courses := course :: state.courses }

/-- The courses with a new bucket for the first one of an id. -/
def moveCourse (id : String) (bucket : Bucket) : List (Course Float) -> List (Course Float)
  | [] => []
  | course :: courses =>
      if course.id = id then { course with bucket } :: courses
      else course :: moveCourse id bucket courses

end PlannerState

/-- A supply of ids, and how many of them are taken. -/
structure IdSupply where
  name : Nat -> String
  taken : Nat

namespace IdSupply

/-- The next id. -/
def next (ids : IdSupply) : String :=
  ids.name ids.taken

/-- The supply without the next id. -/
def rest (ids : IdSupply) : IdSupply :=
  { ids with taken := ids.taken + 1 }

/-- The supply without the next ids. -/
def skip (count : Nat) (ids : IdSupply) : IdSupply :=
  { ids with taken := ids.taken + count }

/-- Courses with the next ids, in their order. -/
def assign (ids : IdSupply) : List (CourseData Float) -> List (Course Float)
  | [] => []
  | course :: courses => course.withId ids.next :: ids.rest.assign courses

theorem length_assign (ids : IdSupply) (courses : List (CourseData Float)) :
    (ids.assign courses).length = courses.length := by
  induction courses generalizing ids with
  | nil => rfl
  | cons course courses ih => simp [assign, ih]

end IdSupply
end DegreeAudit
