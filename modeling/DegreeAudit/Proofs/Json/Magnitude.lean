import DegreeAudit.Proofs.Json.Display
import DegreeAudit.Proofs.Number.Overflow

namespace DegreeAudit
namespace Json

/-!
# Whole numbers in a document

A document may hold whole numbers of any size, but a real number is only made of those that have a
nearest one.  A document is moderate if that goes for all of them, wherever they stand, and taking
such a document apart never meets a number that is too large.
-/

/-- A value is a whole number without a nearest real one. -/
def TooLarge : Json -> Prop
  | .int number => Number.IsTooLarge number
  | _ => False

mutual

/-- Whether each whole number of a document has a nearest real one. -/
def isModerate : Json -> Bool
  | .int number => !decide (Number.IsTooLarge number)
  | .list items => areModerate items
  | .object entries => haveModerate entries
  | _ => true

/-- Whether each whole number in the items of a list has a nearest real one. -/
def areModerate : List Json -> Bool
  | [] => true
  | item :: items => isModerate item && areModerate items

/-- Whether each whole number in the entries of an object has a nearest real one. -/
def haveModerate : List (String × Json) -> Bool
  | [] => true
  | (_, value) :: entries => isModerate value && haveModerate entries

end

theorem isModerate_list (items : List Json) :
    isModerate (.list items) = true ↔ forall item, item ∈ items -> isModerate item = true := by
  rw [isModerate]
  induction items with
  | nil => simp [areModerate]
  | cons item items inductionHypothesis =>
      rw [areModerate, Bool.and_eq_true, inductionHypothesis, List.forall_mem_cons]

theorem isModerate_object (entries : List (String × Json)) :
    isModerate (.object entries) = true
      ↔ forall entry, entry ∈ entries -> isModerate entry.2 = true := by
  rw [isModerate]
  induction entries with
  | nil => simp [haveModerate]
  | cons entry entries inductionHypothesis =>
      rw [haveModerate, Bool.and_eq_true, inductionHypothesis, List.forall_mem_cons]

/-- Only a whole number is too large to be turned into a real one. -/
theorem toReal_eq_tooLarge_iff (value : Json) :
    value.toReal = .error .tooLarge ↔ value.TooLarge := by
  cases value with
  | int number =>
      rw [TooLarge, <- Number.realOfInt?_eq_none_iff, toReal]
      cases Number.realOfInt? number <;> simp
  | string text =>
      rw [toReal]
      cases Number.readReal? text.toList <;> simp [TooLarge]
  | _ => simp [toReal, TooLarge]

theorem isModerate_of_lookup {key : String} {entries : List (String × Json)} {value : Json}
    (moderate : isModerate (.object entries) = true) (found : lookup key entries = some value) :
    value.isModerate = true := by
  rcases mem_of_lookup found with ⟨entry, listed, rfl⟩
  exact (isModerate_object entries).mp moderate entry listed

/-- A whole number with too many digits is too large as well. -/
theorem isTooLarge_of_isOverlong {number : Int} (overlong : Number.IsOverlong number) :
    Number.IsTooLarge number :=
  (show Number.overflow ≤ 10 ^ Number.mostDigits by decide +kernel).trans overlong

theorem not_holdsOverlong_of_isModerate {value : Json} (moderate : value.isModerate = true) :
    ¬ value.HoldsOverlong := by
  intro holds
  induction holds with
  | int overlong =>
      simp [isModerate, isTooLarge_of_isOverlong overlong] at moderate
  | item listed _ inductionHypothesis =>
      exact inductionHypothesis ((isModerate_list _).mp moderate _ listed)
  | entry listed _ inductionHypothesis =>
      exact inductionHypothesis ((isModerate_object _).mp moderate _ listed)

section Yields

/-! ## Taking a moderate document apart -/

variable {α β : Type} {good : α -> Prop} {fine : β -> Prop}

/-- What is taken apart is not too large, and what comes of it is good. -/
def Yields (good : α -> Prop) : Except Mismatch α -> Prop
  | .ok value => good value
  | .error mismatch => mismatch ≠ .tooLarge

theorem Yields.ne_tooLarge {outcome : Except Mismatch α} (yields : Yields good outcome) :
    outcome ≠ .error .tooLarge := by
  rintro rfl
  exact yields rfl

theorem Yields.bind {outcome : Except Mismatch α} {next : α -> Except Mismatch β}
    (yields : Yields good outcome) (later : forall value, good value -> Yields fine (next value)) :
    Yields fine (outcome >>= next) := by
  cases outcome with
  | ok value => exact later value yields
  | error mismatch => exact yields

/-- A step of which nothing is known but that it meets no number that is too large. -/
theorem Yields.andThen {outcome : Except Mismatch α} {next : α -> Except Mismatch β}
    (yields : Yields (fun _ => True) outcome) (later : forall value, Yields fine (next value)) :
    Yields fine (outcome >>= next) :=
  yields.bind fun value _ => later value

theorem Yields.map {outcome : Except Mismatch α} (f : α -> β)
    (yields : Yields (fun _ => True) outcome) : Yields (fun _ => True) (f <$> outcome) := by
  cases outcome with
  | ok value => trivial
  | error mismatch => exact yields

variable {value : Json}

theorem yields_need (key : String) (moderate : value.isModerate = true) :
    Yields (fun found => found.isModerate = true) (value.need key) := by
  unfold need
  split
  · split
    · rename_i found
      exact isModerate_of_lookup moderate found
    · exact nofun
  · exact nofun

/-- A part of an object is taken out and read. -/
theorem yields_part {read : Json -> Except Mismatch α} (key : String)
    (moderate : value.isModerate = true)
    (reads : forall part, part.isModerate = true -> Yields (fun _ => True) (read part))
    {next : α -> Except Mismatch β} (later : forall value, Yields fine (next value)) :
    Yields fine (value.need key >>= fun part => read part >>= next) :=
  (yields_need key moderate).bind fun part inner => (reads part inner).andThen later

theorem yields_find? (key : String) (moderate : value.isModerate = true) :
    Yields (fun found => forall item, found = some item -> item.isModerate = true)
      (value.find? key) := by
  unfold find?
  split
  · intro item found
    exact isModerate_of_lookup moderate found
  · exact nofun

theorem yields_has (key : String) : Yields (fun _ => True) (value.has key) := by
  unfold has
  split
  · trivial
  · trivial
  · trivial
  · exact nofun

theorem yields_elements (moderate : value.isModerate = true) :
    Yields (fun items => forall item, item ∈ items -> item.isModerate = true) value.elements := by
  unfold elements
  split
  · rwa [isModerate_list] at moderate
  · intro item member
    rcases List.mem_map.mp member with ⟨entry, _, rfl⟩
    rfl
  · intro item member
    rcases List.mem_map.mp member with ⟨c, _, rfl⟩
    rfl
  · exact nofun

theorem yields_toReal (moderate : value.isModerate = true) :
    Yields (fun _ => True) value.toReal := by
  have fits : value.toReal ≠ .error .tooLarge := by
    rw [ne_eq, toReal_eq_tooLarge_iff]
    cases value with
    | int number => simpa [isModerate, TooLarge] using moderate
    | _ => exact id
  cases outcome : value.toReal with
  | ok real => trivial
  | error mismatch =>
      rintro rfl
      exact fits outcome

/-- Each of several values is read. -/
theorem yields_mapM {read : Json -> Except Mismatch α} {items : List Json}
    (reads : forall item, item ∈ items -> Yields (fun _ => True) (read item)) :
    Yields (fun _ => True) (items.mapM read) := by
  induction items with
  | nil => trivial
  | cons item items inductionHypothesis =>
      rw [List.forall_mem_cons] at reads
      rw [List.mapM_cons]
      refine reads.1.andThen fun first => ?_
      exact (inductionHypothesis reads.2).andThen fun rest => trivial

theorem yields_toText : Yields (fun _ => True) value.toText := by
  unfold toText
  split
  · trivial
  · exact nofun

theorem yields_toCodes : Yields (fun _ => True) value.toCodes := by
  unfold toCodes
  split
  · trivial
  · trivial
  · have runs : Yields (fun _ => True) value.elements := by
      unfold elements
      split
      · trivial
      · trivial
      · trivial
      · exact nofun
    exact runs.andThen fun items => yields_mapM fun _ _ => yields_toText

theorem yields_codesAt (key : String) (moderate : value.isModerate = true) :
    Yields (fun _ => True) (value.codesAt key) := by
  refine (yields_find? key moderate).bind fun found _ => ?_
  split
  · exact yields_toCodes
  · trivial

theorem yields_realAt (key : String) (moderate : value.isModerate = true) :
    Yields (fun _ => True) (value.realAt key) :=
  (yields_need key moderate).bind fun _ inner => yields_toReal inner

theorem yields_realOrZero (key : String) (moderate : value.isModerate = true) :
    Yields (fun _ => True) (value.realOrZero key) := by
  refine (yields_find? key moderate).bind fun found inner => ?_
  split
  · exact yields_toReal (inner _ rfl)
  · trivial

end Yields

end Json
end DegreeAudit
