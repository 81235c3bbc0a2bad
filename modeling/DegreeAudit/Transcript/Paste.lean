import DegreeAudit.Classification
import DegreeAudit.Notice
import DegreeAudit.Transcript.Cells
import DegreeAudit.Transcript.Credit
import DegreeAudit.Transcript.Name

namespace DegreeAudit

/-!
The courses of a pasted transcript. A line gives a course if a code and credits are found in its
cells, and the course is taken if its code is neither known before nor that of a line above.
-/

namespace Transcript

/-- What is recognized in the cells of a row. The name may be empty. -/
structure Row where
  code : String
  name : String
  credits : Float
  deriving DecidableEq, Repr

/-- What is recognized in the cells of a row, if there are a code and credits. -/
def recognize? (cells : List (List Char)) : Option Row :=
  match findCode? cells, findCredits? cells with
  | some code, some credit =>
      some {
        code := String.ofList code
        name := String.ofList (guessName cells (some credit.index))
        credits := credit.credits
      }
  | _, _ => none

/-- The course of a row. A course without a name is called by its code, but that is no help in
finding its bucket. -/
def Row.course (track : Option Track) (row : Row) : CourseData Float :=
  {
    code := row.code
    name := if row.name.isEmpty then row.code else row.name
    credits := row.credits
    bucket := classify row.code row.name track
  }

/-- What becomes of a line. -/
inductive Reading where
  | added (course : CourseData Float)
  | duplicate (code : String)
  | unrecognized (line : List Char)
  deriving DecidableEq, Repr

/-- What becomes of lines after those whose normalized codes are given. -/
def readLines (track : Option Track) : (seen : List String) -> List (List Char) -> List Reading
  | _, [] => []
  | seen, line :: lines =>
      match recognize? (cells line) with
      | none => .unrecognized line :: readLines track seen lines
      | some row =>
          let key := normalizeCode row.code
          if seen.contains key then .duplicate row.code :: readLines track seen lines
          else .added (row.course track) :: readLines track (key :: seen) lines

/-- What becomes of the lines of a text, for codes that are known already. -/
def read (track : Option Track) (known : List String) (text : List Char) : List Reading :=
  readLines track (known.map normalizeCode) (lines text)

namespace Reading

/-- The course that a line adds. -/
def course? : Reading -> Option (CourseData Float)
  | added course => some course
  | _ => none

/-- The remark on a line that is skipped. -/
def notice? : Reading -> Option Notice
  | added _ => none
  | duplicate code => some (.duplicateSkipped code)
  | unrecognized line => some (.lineSkipped (String.ofList line))

end Reading

/-- The courses that lines add, in the order of the lines. -/
def courses (readings : List Reading) : List (CourseData Float) :=
  readings.filterMap Reading.course?

/-- The count of lines, of courses added and of lines skipped. -/
structure Counts where
  lines : Nat
  added : Nat
  skipped : Nat
  deriving DecidableEq, Repr

/-- The counts of what became of lines. -/
def counts (readings : List Reading) : Counts :=
  let added := readings.countP fun reading => reading.course?.isSome
  { lines := readings.length, added, skipped := readings.countP fun reading => reading.course?.isNone }

end Transcript
end DegreeAudit
