import DegreeAudit.Course
import DegreeAudit.Text.Split

namespace DegreeAudit

/-!
Compound codes. A requirement that is met by several courses together is written as their codes
with plus signs between them, and so is a course that stands for several.
-/

/-- The parts of a compound code that are not blank, without the blanks around them. -/
def splitCompound (text : String) : List String :=
  (((Text.splitOn '+' text.toList).map Text.trim).filter fun part => !part.isEmpty).map
    String.ofList

/-- The compound code of some parts. -/
def joinCompound (parts : List String) : String :=
  Text.joinStrings "+" parts

/-- A code as it is entered: without blanks around it, and if it is compound, with its parts
normalized and without the blank ones. -/
def normalizeCompound (code : String) : String :=
  let trimmed := Text.trim code.toList
  if trimmed.contains '+' then
    let parts := (Text.splitOn '+' trimmed).filter fun part => !Text.allBlank part
    joinCompound (parts.map fun part => normalizeCode (String.ofList part))
  else String.ofList trimmed

end DegreeAudit
