import DegreeAudit.Planner.State
import DegreeAudit.Text.Quoted

namespace DegreeAudit

/-!
Ids for new courses outside of tests: 32 hexadecimal digits that come from a random number. The
thirteenth digit tells that they are random, and the seventeenth begins with a fixed bit, as is the
custom for universally unique ids.
-/

/-- The id of a random number. -/
def randomId (number : Nat) : String :=
  let digits := Text.hexCode 32 number
  let kind := Text.hexDigit (8 + number / Nat.pow 2 60 % 4)
  String.ofList (digits.take 12 ++ ['4'] ++ (digits.drop 13).take 3 ++ [kind] ++ digits.drop 17)

/-- The ids that follow from a random number. -/
def IdSupply.random (seed : Nat) : IdSupply :=
  { name := fun taken => randomId (seed + taken), taken := 0 }

end DegreeAudit
