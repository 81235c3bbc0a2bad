import DegreeAudit.Text.Blank
import DegreeAudit.Text.Split

namespace DegreeAudit

/-!
A transcript as it is copied out of a table: lines, and on each line the cells of a row. Cells are
cut at tabs if the line has one, and otherwise wherever two blanks or more stand together.
-/

namespace Transcript

/-- The wide and the unbreakable space, which stand for a space. -/
def isSpaceLike (c : Char) : Bool :=
  c.toNat == 0xA0 || c.toNat == 0x3000

/-- The text with every space written as the plain one. -/
def plainSpaces (text : List Char) : List Char :=
  text.map fun c => if isSpaceLike c then ' ' else c

/-- The lines of a text that are not blank, without the blanks around them. Carriage returns are
left out. -/
def lines (text : List Char) : List (List Char) :=
  ((Text.splitOn '\n' ((plainSpaces text).filter fun c => c != '\r')).map Text.trim).filter
    fun line => !line.isEmpty

/-- The pieces of a text between the places where two blanks or more stand together. -/
def splitWide : List Char -> List (List Char)
  | [] => [[]]
  | [c] => [[c]]
  | c :: d :: rest =>
      if Text.isBlank c && Text.isBlank d then
        [] :: splitWide (rest.dropWhile Text.isBlank)
      else
        match splitWide (d :: rest) with
        | [] => [[c]]
        | piece :: pieces => (c :: piece) :: pieces
termination_by text => text.length
decreasing_by
  · have shorter := (List.dropWhile_suffix (l := rest) Text.isBlank).length_le
    simp only [List.length_cons]
    omega
  · simp

/-- The cells of a line that are not blank, without the blanks around them. -/
def cells (line : List Char) : List (List Char) :=
  let pieces := if line.contains '\t' then Text.splitOn '\t' line else splitWide line
  (pieces.map Text.trim).filter fun cell => !cell.isEmpty

end Transcript
end DegreeAudit
