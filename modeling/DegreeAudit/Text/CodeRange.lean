namespace DegreeAudit
namespace Text

/-!
Sets of characters given by inclusive ranges of code points, as tables of character properties
are written. A search stops at the first range that begins above the code it looks for, so the
ranges of a table are to be in ascending order.
-/

/-- Whether a code point lies in one of the ascending ranges. -/
def inRanges : List (Nat × Nat) -> Nat -> Bool
  | [], _ => false
  | (first, last) :: ranges, code =>
      if code < first then false
      else if code <= last then true
      else inRanges ranges code

end Text
end DegreeAudit
