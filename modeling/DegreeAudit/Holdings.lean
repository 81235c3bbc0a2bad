import DegreeAudit.Course
import DegreeAudit.Tally

namespace DegreeAudit

/-!
What a list of held courses answers: which codes are held and how many credits there are. Codes are
compared in their normalized form, so a code is held in whatever spelling it was entered.
-/

namespace Holdings

variable {κ : Type}

/-- Whether some course has a code. -/
def has (courses : List (Course κ)) (code : String) : Bool :=
  courses.any fun course => course.key == normalizeCode code

/-- Whether all codes of a list are held. -/
def hasAll (courses : List (Course κ)) (codes : List String) : Bool :=
  codes.all (has courses)

/-- Whether some code of a list is held. -/
def hasAny (courses : List (Course κ)) (codes : List String) : Bool :=
  codes.any (has courses)

/-- The codes of a list that are not held, in the order of the list. -/
def missing (courses : List (Course κ)) (codes : List String) : List String :=
  codes.filter fun code => !has courses code

variable [OfNat κ 0] [Add κ]

/-- The credits of the courses that satisfy a test. -/
def creditsWhere (test : Course κ -> Bool) (courses : List (Course κ)) : Tally κ :=
  Tally.sum ((courses.filter test).map fun course => course.credits)

/-- The credits of the courses whose code is on a list. -/
def creditsFor (courses : List (Course κ)) (codes : List String) : Tally κ :=
  let wanted := codes.map normalizeCode
  creditsWhere (fun course => wanted.contains course.key) courses

/-- The credits in some buckets together. -/
def bucketCredits (courses : List (Course κ)) (buckets : List Bucket) : Tally κ :=
  creditsWhere (fun course => buckets.contains course.bucket) courses

/-- All credits. -/
def totalCredits (courses : List (Course κ)) : Tally κ :=
  Tally.sum (courses.map fun course => course.credits)

/-- The credits of the basic part. -/
def basicCredits (courses : List (Course κ)) : Tally κ :=
  creditsWhere (fun course => course.bucket.isBasic) courses

/-- The credits of the advanced part. -/
def advancedCredits (courses : List (Course κ)) : Tally κ :=
  creditsWhere (fun course => course.bucket.isAdvanced) courses

/-- The totals with the credits of one more course added to those of its bucket. -/
def addToBucket (course : Course κ) (totals : List (Bucket × Tally κ)) :
    List (Bucket × Tally κ) :=
  totals.map fun (bucket, tally) =>
    (bucket, if bucket = course.bucket then tally.plus course.credits else tally)

/-- The credits of every bucket, counted in one pass over the courses. -/
def bucketTotals (courses : List (Course κ)) : List (Bucket × Tally κ) :=
  courses.foldl (fun totals course => addToBucket course totals)
    (Bucket.all.map fun bucket => (bucket, .nothing))

end Holdings
end DegreeAudit
