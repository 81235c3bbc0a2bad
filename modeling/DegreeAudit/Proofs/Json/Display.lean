import DegreeAudit.Json.Field
import DegreeAudit.Json.Reader
import DegreeAudit.Proofs.Outcome
import DegreeAudit.Proofs.Text.Digit
import Mathlib.Data.Nat.Digits.Lemmas

namespace DegreeAudit

/-!
# Values that have a text

Any value may stand where a text is expected, and its text is taken, unless there is none.  The one
obstacle is a whole number with too many digits, however deep it stands in the value.

Whole numbers are read with the same limit as they are written, so there is no obstacle in a
document that is read from a text or from bytes.  It is only met in one that is handed over as a
value.
-/

namespace Number

/-- A whole number has more digits than are ever written. -/
def IsOverlong (number : Int) : Prop :=
  10 ^ mostDigits ≤ number.natAbs

theorem isOverlong_iff (number : Int) :
    IsOverlong number ↔ mostDigits < digitCount number.natAbs := by
  rw [IsOverlong, <- not_lt, <- Nat.length_toDigits_le_iff (by decide) (by decide), not_le]
  rfl

end Number

namespace Json

/-- A whole number with too many digits stands somewhere in a value. -/
inductive HoldsOverlong : Json -> Prop where
  | int {number : Int} (overlong : Number.IsOverlong number) : HoldsOverlong (.int number)
  | item {items : List Json} {item : Json} (listed : item ∈ items) (inside : HoldsOverlong item) :
      HoldsOverlong (.list items)
  | entry {entries : List (String × Json)} {entry : String × Json} (listed : entry ∈ entries)
      (inside : HoldsOverlong entry.2) : HoldsOverlong (.object entries)

section Values

/-! ## The text of a value -/

theorem holdsOverlong_int_iff (number : Int) :
    HoldsOverlong (.int number) ↔ Number.IsOverlong number :=
  ⟨fun | .int overlong => overlong, .int⟩

theorem holdsOverlong_list_iff (items : List Json) :
    HoldsOverlong (.list items) ↔ ∃ item, item ∈ items ∧ HoldsOverlong item :=
  ⟨fun | .item listed inside => ⟨_, listed, inside⟩, fun ⟨_, listed, inside⟩ => .item listed inside⟩

theorem holdsOverlong_object_iff (entries : List (String × Json)) :
    HoldsOverlong (.object entries) ↔ ∃ entry, entry ∈ entries ∧ HoldsOverlong entry.2 :=
  ⟨fun | .entry listed inside => ⟨_, listed, inside⟩,
    fun ⟨_, listed, inside⟩ => .entry listed inside⟩

theorem mem_of_lookup {key : String} {entries : List (String × Json)} {value : Json}
    (found : lookup key entries = some value) : ∃ entry, entry ∈ entries ∧ entry.2 = value := by
  induction entries with
  | nil => cases found
  | cons entry entries inductionHypothesis =>
      rw [lookup] at found
      split at found
      · exact ⟨entry, List.mem_cons_self, Option.some.inj found⟩
      · rcases inductionHypothesis found with ⟨other, listed, same⟩
        exact ⟨other, List.mem_cons_of_mem entry listed, same⟩

theorem holdsOverlong_of_lookup {key : String} {entries : List (String × Json)} {value : Json}
    (found : lookup key entries = some value) (overlong : value.HoldsOverlong) :
    HoldsOverlong (.object entries) := by
  rcases mem_of_lookup found with ⟨entry, listed, rfl⟩
  exact .entry listed overlong

theorem not_holdsOverlong_string (text : String) : ¬ HoldsOverlong (.string text) :=
  nofun

mutual

theorem shown?_eq_none_iff : (value : Json) -> (value.shown? = none ↔ value.HoldsOverlong)
  | .null => iff_of_false nofun nofun
  | .bool true => iff_of_false nofun nofun
  | .bool false => iff_of_false nofun nofun
  | .int number => by
      rw [holdsOverlong_int_iff, Number.isOverlong_iff, shown?]
      split <;> simp_all
  | .real number => by
      rw [shown?]
      exact iff_of_false nofun nofun
  | .string text => by
      rw [shown?]
      exact iff_of_false nofun nofun
  | .list items => by
      rw [holdsOverlong_list_iff, <- shownItems?_eq_none_iff items, shown?]
      cases shownItems? items <;> simp
  | .object entries => by
      rw [holdsOverlong_object_iff, <- shownEntries?_eq_none_iff entries, shown?]
      cases shownEntries? entries <;> simp

theorem shownItems?_eq_none_iff :
    (items : List Json) -> (shownItems? items = none ↔ ∃ item, item ∈ items ∧ item.HoldsOverlong)
  | [] => by simp [shownItems?]
  | [item] => by simpa [shownItems?] using shown?_eq_none_iff item
  | first :: second :: items => by
      rw [List.exists_mem_cons_iff, <- shown?_eq_none_iff first,
        <- shownItems?_eq_none_iff (second :: items), shownItems?]
      · cases shown? first <;> cases shownItems? (second :: items) <;> simp
      · exact nofun

theorem shownEntries?_eq_none_iff : (entries : List (String × Json)) ->
    (shownEntries? entries = none ↔ ∃ entry, entry ∈ entries ∧ entry.2.HoldsOverlong)
  | [] => by simp [shownEntries?]
  | [(key, value)] => by
      have inside := shown?_eq_none_iff value
      rw [shownEntries?]
      cases found : shown? value <;> simp_all
  | (key, value) :: second :: entries => by
      rw [List.exists_mem_cons_iff, <- shown?_eq_none_iff value,
        <- shownEntries?_eq_none_iff (second :: entries), shownEntries?]
      · cases shown? value <;> cases shownEntries? (second :: entries) <;> simp
      · exact nofun

end

/-- A value has no text just if a whole number with too many digits is in the way. -/
theorem asText?_eq_none_iff (value : Json) : value.asText? = none ↔ value.HoldsOverlong := by
  have shown := shown?_eq_none_iff value
  cases value with
  | string text => exact iff_of_false nofun (not_holdsOverlong_string text)
  | _ => exact Option.map_eq_none_iff.trans shown

theorem eq_some_of_something? {value : Option Json} {item : Json}
    (something : something? value = some item) : value = some item :=
  (Option.filter_eq_some_iff.mp something).1

/-- What has no text does not count as absent. -/
theorem something?_of_holdsOverlong {value : Json} (overlong : value.HoldsOverlong) :
    something? (some value) = some value := by
  have something : value.isNothing = false := by
    cases overlong with
    | @int number overlong =>
        refine decide_eq_false ?_
        rintro rfl
        exact absurd overlong (by simp [Number.IsOverlong])
    | @item items item listed inside =>
        cases items with
        | nil => cases listed
        | cons => rfl
    | @entry entries entry listed inside =>
        cases entries with
        | nil => cases listed
        | cons => rfl
  simp [something?, something]

theorem something?_without_text_iff (given : Option Json) :
    (∃ value, something? given = some value ∧ value.asText? = none)
      ↔ ∃ value, given = some value ∧ value.HoldsOverlong := by
  simp only [asText?_eq_none_iff]
  constructor
  · rintro ⟨value, found, overlong⟩
    exact ⟨value, eq_some_of_something? found, overlong⟩
  · rintro ⟨value, rfl, overlong⟩
    exact ⟨value, something?_of_holdsOverlong overlong, overlong⟩

theorem asText?_of_toText {value : Json} {text : String} (written : value.toText = .ok text) :
    value.asText? = some text := by
  unfold toText at written
  split at written
  · rename_i other found
    rcases Except.ok.inj written with rfl
    exact found
  · cases written

theorem toText_of_asText? {value : Json} {text : String} (found : value.asText? = some text) :
    value.toText = .ok text := by
  rw [toText, found]

theorem toText_eq_error_iff (value : Json) (mismatch : Mismatch) :
    value.toText = .error mismatch ↔ mismatch = .tooManyDigits ∧ value.HoldsOverlong := by
  rw [<- asText?_eq_none_iff, toText]
  cases value.asText? <;> simp [eq_comm]

end Values

section Reading

/-! ## Documents that are read -/

theorem not_isOverlong_of_digits {digits : List Char}
    (all : forall c, c ∈ digits -> c.isDigit = true) (few : digits.length ≤ Number.mostDigits)
    (negative : Bool) :
    ¬ Number.IsOverlong (if negative then -Int.ofNat (Text.valueOfDigits digits)
      else Int.ofNat (Text.valueOfDigits digits)) := by
  have size : (if negative then -Int.ofNat (Text.valueOfDigits digits)
      else Int.ofNat (Text.valueOfDigits digits)).natAbs = Text.valueOfDigits digits := by
    cases negative <;> simp
  rw [Number.IsOverlong, size, not_le]
  exact (Text.valueOfDigits_lt all).trans_le (Nat.pow_le_pow_right (by decide) few)

theorem isDigit_of_mem_readWhole {text : List Char} {c : Char}
    (member : c ∈ (readWhole text).1) : c.isDigit = true := by
  unfold readWhole at member
  split at member
  · rcases List.mem_singleton.mp member with rfl
    decide
  · exact List.mem_takeWhile_imp member

/-- What a reader gives holds no whole number with too many digits. -/
abbrev Short (read : Read Json) : Prop :=
  Gives (fun result => ¬ result.1.HoldsOverlong) read

theorem short_readUnsigned (negative : Bool) (start text : List Char) :
    Short (readUnsigned negative start text) := by
  unfold readUnsigned
  dsimp only
  split
  · exact nofun
  split
  · split
    · exact nofun
    · rename_i few
      refine .ok ?_
      rw [holdsOverlong_int_iff]
      exact not_isOverlong_of_digits (fun _ => isDigit_of_mem_readWhole) (not_lt.mp few) negative
  · exact .ok nofun

theorem short_readNumber (text : List Char) : Short (readNumber text) := by
  unfold readNumber
  split
  · exact short_readUnsigned _ _ _
  · exact short_readUnsigned _ _ _

theorem not_holdsOverlong_of_readWord? {text : List Char} {read : Json × List Char}
    (found : readWord? text = some read) : ¬ read.1.HoldsOverlong := by
  rcases List.exists_of_findSome?_eq_some found with ⟨word, listed, matched⟩
  rcases Option.map_eq_some_iff.mp matched with ⟨rest, _, rfl⟩
  simp only [words, List.mem_cons, List.not_mem_nil, or_false] at listed
  rcases listed with rfl | rfl | rfl | rfl | rfl | rfl
  all_goals exact nofun

theorem mem_put {key : String} {item : Json} {entries : List (String × Json)}
    {entry : String × Json} (member : entry ∈ put key item entries) :
    entry = (key, item) ∨ entry ∈ entries := by
  induction entries with
  | nil => exact Or.inl (List.mem_singleton.mp member)
  | cons first entries inductionHypothesis =>
      rw [put] at member
      split at member
      · exact (List.mem_cons.mp member).imp_right (List.mem_cons_of_mem first)
      · rcases List.mem_cons.mp member with rfl | later
        · exact Or.inr List.mem_cons_self
        · exact (inductionHypothesis later).imp_right (List.mem_cons_of_mem first)

section Containers

variable {value : List Char -> Read Json} (short : forall text, Short (value text))

include short

theorem gives_readItems (fuel : Nat) (text : List Char) :
    Gives (fun result => forall item, item ∈ result.1 -> ¬ item.HoldsOverlong)
      (readItems value fuel text) := by
  induction fuel generalizing text with
  | zero => exact nofun
  | succ fuel inductionHypothesis =>
      unfold readItems
      split
      · exact nofun
      · rename_i item rest read
        have fits := short text _ read
        split
        · exact .ok (List.forall_mem_singleton.mpr fits)
        · split
          · exact nofun
          · rename_i readLater
            exact .ok (List.forall_mem_cons.mpr ⟨fits, inductionHypothesis _ _ readLater⟩)
        · exact nofun

theorem gives_readEntries (fuel : Nat) {entries : List (String × Json)}
    (before : forall entry, entry ∈ entries -> ¬ entry.2.HoldsOverlong) (text : List Char) :
    Gives (fun result => forall entry, entry ∈ result.1 -> ¬ entry.2.HoldsOverlong)
      (readEntries value fuel entries text) := by
  induction fuel generalizing entries text with
  | zero => exact nofun
  | succ fuel inductionHypothesis =>
      unfold readEntries
      split
      case h_2 => exact nofun
      split
      case h_1 => exact nofun
      rename_i key _ _
      split
      case h_2 => exact nofun
      split
      case h_1 => exact nofun
      rename_i item _ read
      have fits : forall entry, entry ∈ put (String.ofList key) item entries ->
          ¬ entry.2.HoldsOverlong := by
        intro entry member
        rcases mem_put member with rfl | earlier
        · exact short _ _ read
        · exact before entry earlier
      dsimp only
      split
      · split
        · exact .ok fits
        · split
          · exact inductionHypothesis fits _
          · exact nofun
      · exact nofun

theorem short_readList (fuel : Nat) (text : List Char) : Short (readList value fuel text) := by
  unfold readList
  split
  · refine .ok ?_
    rw [holdsOverlong_list_iff]
    exact nofun
  · intro result read
    rcases map_eq_ok.mp read with ⟨items, readItems, rfl⟩
    rw [holdsOverlong_list_iff]
    rintro ⟨item, listed, inside⟩
    exact gives_readItems short _ _ _ readItems item listed inside

theorem short_readObject (fuel : Nat) (text : List Char) : Short (readObject value fuel text) := by
  unfold readObject
  dsimp only
  split
  · refine .ok ?_
    rw [holdsOverlong_object_iff]
    exact nofun
  · intro result read
    rcases map_eq_ok.mp read with ⟨entries, readEntries, rfl⟩
    rw [holdsOverlong_object_iff]
    rintro ⟨entry, listed, inside⟩
    exact gives_readEntries short _ (List.forall_mem_nil _) _ _ readEntries entry listed inside

end Containers

/-- The containers in a container are read as a document of less depth. -/
theorem short_readValue (fuel depth : Nat) (text : List Char) :
    Short (readValue fuel depth text) := by
  induction depth using Nat.strongRecOn generalizing text with
  | ind depth inductionHypothesis =>
      fun_cases readValue fuel depth text with
      | case1 => exact nofun
      | case2 rest =>
          intro result read
          rcases map_eq_ok.mp read with ⟨_, _, rfl⟩
          exact not_holdsOverlong_string _
      | case3 rest => exact nofun
      | case4 rest inner =>
          exact short_readList (inductionHypothesis inner (Nat.lt_succ_self inner)) fuel rest
      | case5 => exact nofun
      | case6 c rest _ _ _ inner =>
          exact short_readObject (inductionHypothesis inner (Nat.lt_succ_self inner)) fuel rest
      | case7 =>
          rename_i read found
          rw [found]
          exact .ok (not_holdsOverlong_of_readWord? found)
      | case8 =>
          rename_i missing
          rw [missing]
          exact short_readNumber _

theorem not_holdsOverlong_of_readDocument {text : List Char} {document : Json}
    (read : readDocument text = .ok document) : ¬ document.HoldsOverlong := by
  unfold readDocument at read
  split at read
  · cases read
  · rename_i value rest found
    split at read
    · rcases Except.ok.inj read with rfl
      exact short_readValue _ _ _ _ found
    · cases read

/-- A text is no document with a whole number that could not be written again. -/
theorem not_holdsOverlong_of_read {text : List Char} {document : Json}
    (done : read text = .ok document) : ¬ document.HoldsOverlong := by
  unfold read at done
  split at done
  · cases done
  · exact not_holdsOverlong_of_readDocument done

theorem not_holdsOverlong_of_readBytes {bytes : List UInt8} {document : Json}
    (done : readBytes bytes = .ok document) : ¬ document.HoldsOverlong := by
  unfold readBytes at done
  split at done
  · cases done
  · exact not_holdsOverlong_of_readDocument done

end Reading

end Json
end DegreeAudit
