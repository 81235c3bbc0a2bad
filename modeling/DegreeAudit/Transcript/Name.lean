import DegreeAudit.Slice
import DegreeAudit.Transcript.Code

namespace DegreeAudit

/-!
The name of a course in the cells of its row: the longest cell before the credits that is neither
a number nor a code nor one of the words for the kind of a course.
-/

namespace Transcript

/-- The words for the kind of a course, which are never its name. -/
def kindWords : List String :=
  [
    "기초", "심화", "교과", "전공", "필수", "선택", "인문사회", "기초과학", "기초공학", "영어",
    "글로벌커뮤니케이션", "쓰기·읽기 중점", "미래소양강좌"
  ]

/-- Whether a text is digits, or digits with one point between them. -/
def isPlainNumber (text : List Char) : Bool :=
  let whole := text.takeWhile Char.isDigit
  let fraction :=
    match text.dropWhile Char.isDigit with
    | [] => true
    | '.' :: digits => !digits.isEmpty && digits.all Char.isDigit
    | _ => false
  !whole.isEmpty && fraction

/-- Whether a trimmed cell may be the name of a course. -/
def isNameLike (cell : List Char) : Bool :=
  !cell.isEmpty && !(kindWords.any fun word => word.toList == cell) && !isPlainNumber cell
    && !isCode cell

/-- The first of the longest texts, and the empty one if there is none. -/
def longest (texts : List (List Char)) : List Char :=
  texts.foldl (fun best text => if best.length < text.length then text else best) []

/-- The name of the course of a row, from the cells before a column if one is given. -/
def guessName (cells : List (List Char)) (column : Option Int) : List Char :=
  let before :=
    match column with
    | none => cells
    | some column => takeFirst (min (Int.ofNat cells.length) column) cells
  longest ((before.map Text.trim).filter isNameLike)

end Transcript
end DegreeAudit
