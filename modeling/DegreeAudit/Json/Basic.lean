namespace DegreeAudit

/-!
Documents in JSON notation. Whole numbers are kept apart from real numbers, and the entries of an
object are kept in their order, with one entry for a key.
-/

/-- A value of a document. -/
inductive Json where
  | null
  | bool (value : Bool)
  | int (value : Int)
  | real (value : Float)
  | string (value : String)
  | list (items : List Json)
  | object (entries : List (String × Json))
  deriving Inhabited

namespace Json

/-- The entries with a key set to a value: in the place of the entry of that key, or at the end. -/
def put (key : String) (value : Json) : List (String × Json) -> List (String × Json)
  | [] => [(key, value)]
  | entry :: entries =>
      if entry.1 = key then (key, value) :: entries else entry :: put key value entries

/-- The value of a key among entries. -/
def lookup (key : String) : List (String × Json) -> Option Json
  | [] => none
  | entry :: entries => if entry.1 = key then some entry.2 else lookup key entries

theorem lookup_put_self (key : String) (value : Json) (entries : List (String × Json)) :
    lookup key (put key value entries) = some value := by
  induction entries with
  | nil => simp [put, lookup]
  | cons entry entries ih =>
      simp only [put]
      split
      · simp [lookup]
      · rename_i different
        simp [lookup, different, ih]

theorem lookup_put_of_ne {key other : String} (different : other ≠ key) (value : Json)
    (entries : List (String × Json)) :
    lookup other (put key value entries) = lookup other entries := by
  induction entries with
  | nil => simp [put, lookup, different.symm]
  | cons entry entries ih =>
      simp only [put]
      split
      · rename_i same
        simp [lookup, different.symm, same]
      · simp [lookup, ih]

/-- Whether a value says nothing: null, false, zero, and whatever is empty. -/
def isNothing : Json -> Bool
  | .null => true
  | .bool value => !value
  | .int value => value == 0
  | .real value => value == 0
  | .string value => value.isEmpty
  | .list items => items.isEmpty
  | .object entries => entries.isEmpty

/-- The value, unless it says nothing. -/
def something? (value : Option Json) : Option Json :=
  value.filter (fun json => !json.isNothing)

end Json
end DegreeAudit
