import DegreeAudit.Proofs.Number.Numeral
import DegreeAudit.Proofs.Transcript.Code
import DegreeAudit.Transcript.Name
import Mathlib.Data.List.Induction

namespace DegreeAudit
namespace Transcript

/-!
# The name that is found in a row

The cells before the credits are read in their order, and a text takes the place of the one that is
kept just if it is longer.  So the longest text is kept in the end, and of several the first.  What
is compared are the texts without the blanks around them; a cell that is wide only with blanks gains
nothing by them.

A cell is named here by its place in the row, since two cells may have the same text and only one
of them is the first.  What is said of the cells that are read is kept by each further one
(`IsGuess.concat`), and with a column given, they are the cells before it.
-/

/-- What a text has to be for a name: not empty, none of the words for the kind of a course, and
neither a plain number nor a code as a whole. -/
structure MayBeName (text : List Char) : Prop where
  present : text ≠ []
  notKind : String.ofList text ∉ kindWords
  notNumeral : ¬ Number.IsNumeral text
  notCode : ¬ IsCodeWord text

/-- The cell at a place, which is before the column if there is one, may be the name with its text
less the blanks around it. -/
structure OffersName (cells : List (List Char)) (column : Option Nat) (place : Nat)
    (text : List Char) : Prop where
  cell : cells[place]?.map Text.trim = some text
  before : forall limit, column = some limit -> place < limit
  mayBeName : MayBeName text

/-- No cell that may be the name has a longer text, and none before has one as long. -/
@[mk_iff]
structure IsFirstLongest (cells : List (List Char)) (column : Option Nat) (place : Nat)
    (text : List Char) : Prop where
  offers : OffersName cells column place text
  longest : forall other otherText, OffersName cells column other otherText ->
    otherText.length ≤ text.length
  first : forall other otherText, OffersName cells column other otherText ->
    otherText.length = text.length -> place ≤ other

/-- What is guessed from cells: the first of the longest texts that they offer, or the empty text
if they offer none. -/
def IsGuess (cells : List (List Char)) (column : Option Nat) (text : List Char) : Prop :=
  (∃ place, IsFirstLongest cells column place text)
    ∨ (¬ ∃ place other, OffersName cells column place other) ∧ text = []

section Texts

/-! ## Texts that may be names -/

variable {text : List Char}

/-- The cells that are passed over as plain numbers are the numerals. -/
theorem isPlainNumber_iff : isPlainNumber text = true ↔ Number.IsNumeral text := by
  unfold isPlainNumber
  dsimp only
  constructor
  · intro plain
    have parts := List.takeWhile_append_dropWhile (p := Char.isDigit) (l := text)
    have digit : forall c, c ∈ text.takeWhile Char.isDigit -> c.isDigit = true :=
      fun c member => List.mem_takeWhile_imp member
    rw [Bool.and_eq_true, Bool.not_eq_true', List.isEmpty_eq_false_iff] at plain
    rcases plain with ⟨present, rest⟩
    split at rest
    · rename_i empty
      rw [empty] at parts
      exact ⟨_, [], parts.symm, present, digit, nofun⟩
    · rename_i digits point
      rw [point] at parts
      rw [Bool.and_eq_true, Bool.not_eq_true', List.all_eq_true] at rest
      refine ⟨_, digits, ?_, present, digit, rest.2⟩
      rw [Number.fractionText, rest.1]
      exact parts.symm
    · cases rest
  · rintro ⟨whole, fraction, rfl, parts⟩
    have noDigit := Number.noDigit_fractionText fraction
    rw [Text.takeWhile_digits parts.whole noDigit, Text.dropWhile_digits parts.whole noDigit]
    cases fraction with
    | nil => simp [Number.fractionText, parts.present]
    | cons digit digits =>
        have inside := List.all_eq_true.mpr parts.fraction
        simp only [Number.fractionText, List.isEmpty_cons, Bool.false_eq_true, if_false]
        rw [inside]
        simp [parts.present]

instance (text : List Char) : Decidable (Number.IsNumeral text) :=
  decidable_of_iff _ isPlainNumber_iff

theorem any_kindWords_iff :
    kindWords.any (fun word => word.toList == text) = true ↔ String.ofList text ∈ kindWords := by
  rw [List.any_eq_true]
  constructor
  · rintro ⟨word, listed, same⟩
    rwa [<- beq_iff_eq.mp same, String.ofList_toList]
  · intro listed
    exact ⟨_, listed, beq_iff_eq.mpr (String.toList_ofList)⟩

/-- A trimmed cell is tried as the name just if its text may be one. -/
theorem isNameLike_iff : isNameLike text = true ↔ MayBeName text := by
  unfold isNameLike
  rw [Bool.and_eq_true, Bool.and_eq_true, Bool.and_eq_true]
  simp only [Bool.not_eq_true', <- Bool.not_eq_true, List.isEmpty_iff, any_kindWords_iff,
    isPlainNumber_iff, isCode_iff]
  constructor
  · rintro ⟨⟨⟨present, notKind⟩, notNumeral⟩, notCode⟩
    exact ⟨present, notKind, notNumeral, notCode⟩
  · rintro ⟨present, notKind, notNumeral, notCode⟩
    exact ⟨⟨⟨present, notKind⟩, notNumeral⟩, notCode⟩

theorem MayBeName.length_pos (may : MayBeName text) : 0 < text.length :=
  List.length_pos_iff.mpr may.present

end Texts

section Places

/-! ## Places in a row -/

variable {cells : List (List Char)} {cell text other : List Char} {column : Option Nat}
  {place otherPlace : Nat}

theorem OffersName.lt_length (offers : OffersName cells column place text) :
    place < cells.length := by
  rcases Option.map_eq_some_iff.mp offers.cell with ⟨cell, there, _⟩
  exact (List.getElem?_eq_some_iff.mp there).1

/-- The cells before a column are looked at as if there were no others. -/
theorem offersName_take_iff {limit : Nat} :
    OffersName (cells.take limit) none place text ↔ OffersName cells (some limit) place text := by
  constructor
  · rintro ⟨there, _, may⟩
    rw [List.getElem?_take] at there
    split at there
    · rename_i inside
      exact ⟨there, fun _ same => Option.some.inj same ▸ inside, may⟩
    · cases there
  · rintro ⟨there, before, may⟩
    refine ⟨?_, nofun, may⟩
    rw [List.getElem?_take_of_lt (before limit rfl), there]

/-- One more cell offers its own text, if that may be the name. -/
theorem offersName_concat_iff :
    OffersName (cells ++ [cell]) none place text
      ↔ OffersName cells none place text
        ∨ place = cells.length ∧ Text.trim cell = text ∧ MayBeName text := by
  constructor
  · rintro ⟨there, _, may⟩
    rcases Nat.lt_trichotomy place cells.length with inside | last | outside
    · rw [List.getElem?_append_left inside] at there
      exact Or.inl ⟨there, nofun, may⟩
    · rw [last, List.getElem?_concat_length, Option.map_some, Option.some.injEq] at there
      exact Or.inr ⟨last, there, may⟩
    · rw [List.getElem?_eq_none (by rw [List.length_append]; exact outside)] at there
      cases there
  · rintro (offers | ⟨rfl, rfl, may⟩)
    · refine ⟨?_, nofun, offers.mayBeName⟩
      rw [List.getElem?_append_left offers.lt_length]
      exact offers.cell
    · exact ⟨by rw [List.getElem?_concat_length, Option.map_some], nofun, may⟩

/-- There is one first of the longest texts. -/
theorem IsFirstLongest.text_eq (one : IsFirstLongest cells column place text)
    (another : IsFirstLongest cells column otherPlace other) : text = other := by
  have sameLength : other.length = text.length :=
    le_antisymm (one.longest _ _ another.offers) (another.longest _ _ one.offers)
  have samePlace : place = otherPlace :=
    le_antisymm (one.first _ _ another.offers sameLength)
      (another.first _ _ one.offers sameLength.symm)
  have there := one.offers.cell
  rw [samePlace, another.offers.cell] at there
  exact (Option.some.inj there).symm

theorem IsGuess.text_eq (guess : IsGuess cells column text) (another : IsGuess cells column other) :
    text = other := by
  rcases guess with ⟨place, first⟩ | ⟨absent, rfl⟩
  · rcases another with ⟨otherPlace, otherFirst⟩ | ⟨absent, _⟩
    · exact first.text_eq otherFirst
    · exact absurd ⟨place, text, first.offers⟩ absent
  · rcases another with ⟨otherPlace, otherFirst⟩ | ⟨_, rfl⟩
    · exact absurd ⟨otherPlace, other, otherFirst.offers⟩ absent
    · rfl

theorem IsGuess.length_le (guess : IsGuess cells column text)
    (offers : OffersName cells column otherPlace other) : other.length ≤ text.length := by
  rcases guess with ⟨_, first⟩ | ⟨absent, _⟩
  · exact first.longest _ _ offers
  · exact absurd ⟨otherPlace, other, offers⟩ absent

/-- The guess is empty just if no cell may be the name. -/
theorem IsGuess.eq_nil_iff (guess : IsGuess cells column text) :
    text = [] ↔ ¬ ∃ place other, OffersName cells column place other := by
  rcases guess with ⟨place, first⟩ | ⟨absent, empty⟩
  · refine iff_of_false first.offers.mayBeName.present ?_
    exact not_not_intro ⟨place, text, first.offers⟩
  · exact iff_of_true empty absent

end Places

section Reading

/-! ## Reading one cell after the other -/

variable {cells : List (List Char)} {cell text : List Char}

/-- Of the longest texts so far and one more, the later one is kept just if it is longer. -/
theorem longest_concat (texts : List (List Char)) (text : List Char) :
    longest (texts ++ [text])
      = if (longest texts).length < text.length then text else longest texts := by
  unfold longest
  rw [List.foldl_concat]

theorem guessName_concat_of_mayBeName (may : MayBeName (Text.trim cell)) :
    guessName (cells ++ [cell]) none
      = if (guessName cells none).length < (Text.trim cell).length then Text.trim cell
        else guessName cells none := by
  unfold guessName
  dsimp only
  rw [List.map_append, List.filter_append, List.map_singleton,
    List.filter_singleton, isNameLike_iff.mpr may, cond_true, longest_concat]

theorem guessName_concat_of_not (notName : ¬ MayBeName (Text.trim cell)) :
    guessName (cells ++ [cell]) none = guessName cells none := by
  rw [<- isNameLike_iff, Bool.not_eq_true] at notName
  unfold guessName
  dsimp only
  rw [List.map_append, List.filter_append, List.map_singleton, List.filter_singleton, notName,
    cond_false, List.append_nil]

/-- A longer text is the new guess, wherever the one before it stands. -/
theorem IsGuess.concat_longer (guess : IsGuess cells none text) (may : MayBeName (Text.trim cell))
    (longer : text.length < (Text.trim cell).length) :
    IsGuess (cells ++ [cell]) none (Text.trim cell) := by
  refine Or.inl ⟨cells.length, offersName_concat_iff.mpr (Or.inr ⟨rfl, rfl, may⟩), ?_, ?_⟩
  · intro other otherText offers
    rcases offersName_concat_iff.mp offers with earlier | ⟨_, rfl, _⟩
    · exact (guess.length_le earlier).trans longer.le
    · exact le_rfl
  · intro other otherText offers sameLength
    rcases offersName_concat_iff.mp offers with earlier | ⟨last, _, _⟩
    -- what the earlier cells offer is shorter, so nothing of this length stands before
    · exact absurd (guess.length_le earlier) (by omega)
    · exact last.ge

/-- A text that is no longer, also one of the same length, leaves the guess as it is. -/
theorem IsGuess.concat_shorter (guess : IsGuess cells none text)
    (short : MayBeName (Text.trim cell) -> (Text.trim cell).length ≤ text.length) :
    IsGuess (cells ++ [cell]) none text := by
  rcases guess with ⟨place, first⟩ | ⟨absent, rfl⟩
  · refine Or.inl ⟨place, offersName_concat_iff.mpr (Or.inl first.offers), ?_, ?_⟩
    · intro other otherText offers
      rcases offersName_concat_iff.mp offers with earlier | ⟨_, rfl, may⟩
      · exact first.longest _ _ earlier
      · exact short may
    · intro other otherText offers sameLength
      rcases offersName_concat_iff.mp offers with earlier | ⟨last, _, _⟩
      · exact first.first _ _ earlier sameLength
      · exact last ▸ first.offers.lt_length.le
  · refine Or.inr ⟨?_, rfl⟩
    rintro ⟨place, other, offers⟩
    rcases offersName_concat_iff.mp offers with earlier | ⟨_, rfl, may⟩
    · exact absent ⟨place, other, earlier⟩
    · exact absurd (short may) (Nat.not_le.mpr may.length_pos)

/-- What is guessed from cells stays right with each further cell. -/
theorem IsGuess.concat (guess : IsGuess cells none (guessName cells none)) (cell : List Char) :
    IsGuess (cells ++ [cell]) none (guessName (cells ++ [cell]) none) := by
  by_cases may : MayBeName (Text.trim cell)
  · rw [guessName_concat_of_mayBeName may]
    split
    · rename_i longer
      exact guess.concat_longer may longer
    · rename_i notLonger
      exact guess.concat_shorter fun _ => Nat.not_lt.mp notLonger
  · rw [guessName_concat_of_not may]
    exact guess.concat_shorter fun isName => absurd isName may

theorem isGuess_guessName (cells : List (List Char)) :
    IsGuess cells none (guessName cells none) := by
  induction cells using List.reverseRecOn with
  | nil =>
      refine Or.inr ⟨?_, rfl⟩
      rintro ⟨place, text, offers⟩
      exact absurd offers.lt_length (Nat.not_lt_zero place)
  | append_singleton cells cell inductionHypothesis => exact inductionHypothesis.concat cell

end Reading

section Columns

/-! ## Before a column -/

variable {cells : List (List Char)}

/-- Only the cells before the column are looked at for a name. -/
theorem guessName_column (cells : List (List Char)) (column : Nat) :
    guessName cells (some (column : Int)) = guessName (cells.take column) none := by
  have count : min (Int.ofNat cells.length) (column : Int)
      = Int.ofNat (min column cells.length) := by
    rw [Int.ofNat_eq_natCast, Int.ofNat_eq_natCast]
    omega
  unfold guessName
  dsimp only
  rw [count, takeFirst_ofNat, <- List.take_eq_take_min]

theorem isGuess_take_iff {limit : Nat} {text : List Char} :
    IsGuess (cells.take limit) none text ↔ IsGuess cells (some limit) text := by
  simp only [IsGuess, isFirstLongest_iff, offersName_take_iff]

/-- The name that is guessed is the guess of the cells before the column. -/
theorem isGuess_guessName_map (cells : List (List Char)) (column : Option Nat) :
    IsGuess cells column (guessName cells (column.map Int.ofNat)) := by
  cases column with
  | none => exact isGuess_guessName cells
  | some limit =>
      have guess := isGuess_guessName (cells.take limit)
      rw [isGuess_take_iff, <- guessName_column] at guess
      exact guess

/-- The name of a row is empty just if none of the cells before the column may be the name, and
otherwise the first of the longest texts that they offer. -/
theorem guessName_finds (cells : List (List Char)) (column : Option Nat) :
    (guessName cells (column.map Int.ofNat) = []
        ↔ ¬ ∃ place text, OffersName cells column place text)
      ∧ forall text, guessName cells (column.map Int.ofNat) = text ↔
        (∃ place, IsFirstLongest cells column place text)
          ∨ (¬ ∃ place other, OffersName cells column place other) ∧ text = [] := by
  have guess := isGuess_guessName_map cells column
  refine ⟨guess.eq_nil_iff, fun text => ⟨?_, guess.text_eq⟩⟩
  rintro rfl
  exact guess

/-- A word for a kind is passed over, blanks count for nothing, and of two texts of one length the
first is taken.  The longer text after the credits is not looked at. -/
example : guessName ["기초과학".toList, "EC301 ".toList, "a       ".toList, " circuit".toList,
    "signals".toList, "3".toList, "a long remark".toList] (some 5) = "circuit".toList := by
  decide

end Columns

end Transcript
end DegreeAudit
