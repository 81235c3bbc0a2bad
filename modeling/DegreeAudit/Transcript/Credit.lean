import DegreeAudit.Json.Field
import DegreeAudit.Text.LetterCase
import DegreeAudit.Text.Split

namespace DegreeAudit

/-!
The credits in the cells of a row. Any number may be the credits if a course can have as many; the
one before a letter grade is, and if there is no grade after a number, the last one is taken.
-/

namespace Transcript

/-- The first number in a text that is read as it stands: digits, and a fraction if a point with a
digit after it follows directly. -/
def firstNumber? (text : List Char) : Option Float :=
  let start := text.dropWhile fun c => !c.isDigit
  let whole := start.takeWhile Char.isDigit
  let fraction :=
    match start.dropWhile Char.isDigit with
    | '.' :: rest => rest.takeWhile Char.isDigit
    | _ => []
  if whole.isEmpty then none
  else
    some (Number.realOfDecimal (Text.valueOfDigits (whole ++ fraction))
      (-Int.ofNat fraction.length))

/-- The first number in a text, in which the first comma stands for a point. -/
def numberIn? (text : List Char) : Option Float :=
  firstNumber? (Text.replaceFirst ',' '.' text)

/-- The first number in the text of a value; null has none. -/
def numberOf? : Json -> Except Json.Mismatch (Option Float)
  | .null => .ok none
  | value => do
      let text <- value.toText
      pure (numberIn? text.toList)

/-- The least credits of a course. -/
def leastCredits : Float := 0.5

/-- The most credits of a course. -/
def mostCredits : Float := 6.0

/-- A number of credits and the cell it stands in. -/
structure CreditCell where
  index : Nat
  credits : Float
  deriving DecidableEq, Repr

/-- The credits that a cell may give. -/
def plausibleCredits? (cell : List Char) : Option Float :=
  (numberIn? cell).filter fun number => leastCredits <= number && number <= mostCredits

/-- The cells that may give the credits, from a cell on whose index is given. -/
def plausibleFrom (index : Nat) : List (List Char) -> List CreditCell
  | [] => []
  | cell :: cells =>
      match plausibleCredits? cell with
      | some credits => ⟨index, credits⟩ :: plausibleFrom (index + 1) cells
      | none => plausibleFrom (index + 1) cells

/-- The cells that may give the credits. -/
def plausibleCells (cells : List (List Char)) : List CreditCell :=
  plausibleFrom 0 cells

/-- The letter grades. -/
def grades : List String :=
  [
    "S", "U", "P", "NP", "A+", "A0", "A-", "B+", "B0", "B-", "C+", "C0", "C-", "D+", "D0", "D-",
    "F"
  ]

/-- A dash in place of each of the longer dashes and the minus sign. -/
def plainDash (c : Char) : Char :=
  if c.toNat == 0x2013 || c.toNat == 0x2014 || c.toNat == 0x2212 then '-' else c

/-- A cell as it is compared with the grades. -/
def gradeText (cell : List Char) : List Char :=
  (Text.trim cell).map plainDash

/-- Whether a cell is a letter grade, in upper or lower case. -/
def isGrade (cell : List Char) : Bool :=
  let folded := (gradeText cell).map Text.foldLetter
  grades.any fun grade => grade.toList.map Text.foldLetter == folded

/-- The first cell that may give the credits and has a grade after it. -/
def creditsBeforeGrade? (cells : List (List Char)) : Option CreditCell :=
  (plausibleCells cells).find? fun cell => ((cells[cell.index + 1]?).map isGrade).getD false

/-- The last cell that may give the credits. -/
def creditsLast? (cells : List (List Char)) : Option CreditCell :=
  (plausibleCells cells).getLast?

/-- The cell that gives the credits. -/
def findCredits? (cells : List (List Char)) : Option CreditCell :=
  (creditsBeforeGrade? cells).or (creditsLast? cells)

end Transcript
end DegreeAudit
