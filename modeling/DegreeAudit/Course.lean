import DegreeAudit.Bucket
import DegreeAudit.Text.LetterCase

namespace DegreeAudit

/-!
Courses. Their credits may be of any type `κ`: the planner counts in binary64, and statements about
sums may be made over exact numbers.
-/

/-- The form of a course code in which codes are compared: without blanks around it and in upper
case. -/
def normalizeCode (code : String) : String :=
  String.ofList (Text.upper (Text.trim code.toList))

/-- What is known of a course before it has an id. -/
structure CourseData (κ : Type) where
  code : String
  name : String
  credits : κ
  bucket : Bucket
  deriving DecidableEq, Repr

/-- A course that is held; its id tells it from the others. -/
structure Course (κ : Type) extends CourseData κ where
  id : String
  deriving DecidableEq, Repr

namespace CourseData

variable {κ : Type}

/-- The code by which a course is looked up. -/
def key (course : CourseData κ) : String :=
  normalizeCode course.code

/-- The course with an id. -/
def withId (id : String) (course : CourseData κ) : Course κ :=
  { course with id }

end CourseData
end DegreeAudit
