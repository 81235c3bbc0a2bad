namespace DegreeAudit

/-!
The beginning of a list, up to a count that may also be given from the end.
-/

/-- The first items of a list; a negative count says how many are left out at its end. -/
def takeFirst {α : Type} (count : Int) (items : List α) : List α :=
  if 0 <= count then items.take count.toNat else items.take (items.length - count.natAbs)

theorem takeFirst_ofNat {α : Type} (count : Nat) (items : List α) :
    takeFirst (Int.ofNat count) items = items.take count := by
  simp [takeFirst]

end DegreeAudit
