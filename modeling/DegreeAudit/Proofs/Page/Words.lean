import DegreeAudit.Page.Word
import DegreeAudit.Proofs.Json.Magnitude
import DegreeAudit.Proofs.Outcome
import Mathlib.Data.List.Forall2

namespace DegreeAudit
namespace Word

/-!
# Words read from a document

A word is looked at as far as it is needed: where it stands and what its text is, always, and the
other two sides of the box around it only if its text is not blank.  Each side that is looked at
must not be a whole number without a nearest real one; anything else is a side or has a fallback.
Whatever stands for the text is written as one, which only fails for whole numbers with too many
digits.
-/

/-- What is read of a word in a document; nothing if its text is blank. -/
def read? (json : Json) : Except Json.Mismatch (Option (Word Float)) := do
  (<- PlacedWord.ofEntry json).read?

/-- The words of a document that are not blank, in the order of the document. -/
def readAll (words : List Json) : Except Json.Mismatch (List (Word Float)) := do
  pure ((<- words.mapM read?).filterMap id)

/-- The text of a word as it stands in a document, without the blanks around it. -/
def textIn (word : Json) : List Char :=
  (readText word).toOption.getD []

/-- A word of a document that says something. -/
def isVisible (word : Json) : Bool :=
  !(textIn word).isEmpty

/-- What is read of a word in a document. -/
structure Describes (json : Json) (word : Word Float) : Prop where
  text : readText json = .ok word.text.toList
  top : readCoordinate "top" 0 json = .ok word.top
  left : readCoordinate "x0" 0 json = .ok word.left
  right : readCoordinate "x1" word.left json = .ok word.right
  bottom : readCoordinate "bottom" (word.top + usualHeight) json = .ok word.bottom

/-- The keys of the box around a word. -/
def boxKeys : List String := ["top", "x0", "x1", "bottom"]

/-- The sides of the box around a word that are looked at. -/
def sidesRead (word : Json) : List String :=
  if isVisible word then boxKeys else ["top", "x0"]

/-- A side that is looked at is a whole number without a nearest real one. -/
def Overflows (word : Json) : Prop :=
  ∃ key, key ∈ sidesRead word ∧ ∃ value, word.find? key = .ok (some value) ∧ value.TooLarge

/-- What stands for the text has none, since a whole number with too many digits is in it. -/
def HasNoText (word : Json) : Prop :=
  ∃ value, word.find? "text" = .ok (some value) ∧ value.HoldsOverlong

section Sides

/-! ## Sides -/

variable {json : Json} {entries : List (String × Json)} {key : String} {fallback side : Float}

theorem exists_object_of_readCoordinate (read : readCoordinate key fallback json = .ok side) :
    ∃ entries, json = .object entries := by
  cases json with
  | object entries => exact ⟨entries, rfl⟩
  | _ => cases read

theorem exists_readCoordinate
    (fits : forall value, Json.lookup key entries = some value -> ¬ value.TooLarge)
    (fallback : Float) : ∃ side, readCoordinate key fallback (.object entries) = .ok side := by
  have there : Json.find? key (.object entries) = .ok (Json.lookup key entries) := rfl
  unfold readCoordinate
  rw [there]
  cases found : Json.lookup key entries with
  | none => exact ⟨fallback, rfl⟩
  | some value =>
      have moderate := fits value found
      rw [<- Json.toReal_eq_tooLarge_iff] at moderate
      dsimp only [bind, Except.bind]
      split
      · exact ⟨_, rfl⟩
      · rename_i large
        exact absurd large moderate
      · exact ⟨fallback, rfl⟩

/-- A side that can be read is not too large. -/
theorem not_tooLarge_of_readCoordinate
    (read : readCoordinate key fallback (.object entries) = .ok side) :
    forall value, Json.lookup key entries = some value -> ¬ value.TooLarge := by
  intro value found large
  rw [<- Json.toReal_eq_tooLarge_iff] at large
  have there : Json.find? key (.object entries) = .ok (some value) := congrArg Except.ok found
  unfold readCoordinate at read
  rw [there] at read
  dsimp only [bind, Except.bind] at read
  rw [large] at read
  cases read

theorem sidesRead_subset (word : Json) : sidesRead word ⊆ boxKeys := by
  unfold sidesRead
  split <;> decide

theorem not_overflows_iff :
    ¬ Overflows (.object entries) ↔ forall key, key ∈ sidesRead (.object entries) ->
      forall value, Json.lookup key entries = some value -> ¬ value.TooLarge := by
  constructor
  · intro fits key listed value found large
    exact fits ⟨key, listed, value, congrArg Except.ok found, large⟩
  · rintro fits ⟨key, listed, value, found, large⟩
    exact fits key listed value (Except.ok.inj found) large

end Sides

section Texts

/-! ## Texts -/

variable {json : Json} {entries : List (String × Json)} {text : List Char}

theorem textIn_of_readText (read : readText json = .ok text) : textIn json = text := by
  rw [textIn, read]
  rfl

theorem textIn_ne_nil_of_isVisible (visible : isVisible json = true) : textIn json ≠ [] := by
  rwa [isVisible, Bool.not_eq_true', List.isEmpty_eq_false_iff] at visible

theorem exists_readText_iff :
    (∃ text, readText (.object entries) = .ok text) ↔ ¬ HasNoText (.object entries) := by
  have unwritten : HasNoText (.object entries) ↔ ∃ value,
      Json.lookup "text" entries = some value ∧ value.HoldsOverlong := by
    simp only [HasNoText, Json.find?, Except.ok.injEq]
  rw [unwritten, <- Json.something?_without_text_iff]
  have there : Json.find? "text" (.object entries) = .ok (Json.lookup "text" entries) := rfl
  unfold readText Json.toText
  rw [there]
  dsimp only [bind, Except.bind]
  cases Json.something? (Json.lookup "text" entries) with
  | none => simp [pure, Except.pure]
  | some value => cases written : value.asText? <;> simp [written, pure, Except.pure]

end Texts

section Single

/-! ## A single word -/

variable {json : Json} {entries : List (String × Json)} {word other : Word Float}

/-- A word is read as far as it is needed. -/
theorem read?_eq (json : Json) :
    read? json
      = readCoordinate "top" 0 json >>= fun top =>
        readCoordinate "x0" 0 json >>= fun left =>
        readText json >>= fun text =>
        if text.isEmpty then .ok none
        else
          readCoordinate "x1" left json >>= fun right =>
          readCoordinate "bottom" (top + usualHeight) json >>= fun bottom =>
          .ok (some { text := String.ofList text, left, right, top, bottom }) := by
  unfold read? PlacedWord.ofEntry
  cases readCoordinate "top" 0 json with
  | error mismatch => rfl
  | ok top => cases readCoordinate "x0" 0 json <;> rfl

/-- What is read of a word tells how each part of it was read, and whether the text is blank. -/
theorem parts_of_read? {found : Option (Word Float)} (read : read? json = .ok found) :
    ∃ top left text, readCoordinate "top" 0 json = .ok top
      ∧ readCoordinate "x0" 0 json = .ok left
      ∧ readText json = .ok text
      ∧ (text = [] ∧ found = none
        ∨ text ≠ [] ∧ ∃ right bottom, readCoordinate "x1" left json = .ok right
          ∧ readCoordinate "bottom" (top + usualHeight) json = .ok bottom
          ∧ found = some { text := String.ofList text, left, right, top, bottom }) := by
  rw [read?_eq] at read
  rcases bind_eq_ok.mp read with ⟨top, topRead, read⟩
  rcases bind_eq_ok.mp read with ⟨left, leftRead, read⟩
  rcases bind_eq_ok.mp read with ⟨text, textRead, read⟩
  refine ⟨top, left, text, topRead, leftRead, textRead, ?_⟩
  split at read
  · rename_i blank
    exact Or.inl ⟨List.isEmpty_iff.mp blank, (Except.ok.inj read).symm⟩
  · rename_i visible
    rcases bind_eq_ok.mp read with ⟨right, rightRead, read⟩
    rcases bind_eq_ok.mp read with ⟨bottom, bottomRead, read⟩
    refine Or.inr ⟨fun empty => visible (List.isEmpty_iff.mpr empty), right, bottom, rightRead,
      bottomRead, (Except.ok.inj read).symm⟩

theorem isVisible_iff_of_readText {text : List Char} (read : readText json = .ok text) :
    isVisible json = true ↔ text ≠ [] := by
  rw [isVisible, textIn_of_readText read, Bool.not_eq_true', List.isEmpty_eq_false_iff]

theorem describes_of_read? (read : read? json = .ok (some word)) :
    isVisible json = true ∧ Describes json word := by
  rcases parts_of_read? read with ⟨top, left, text, topRead, leftRead, textRead,
    ⟨_, nothing⟩ | ⟨present, right, bottom, rightRead, bottomRead, same⟩⟩
  · cases nothing
  · rcases Option.some.inj same with rfl
    refine ⟨(isVisible_iff_of_readText textRead).mpr present, ?_, topRead, leftRead, rightRead,
      bottomRead⟩
    rw [textRead, String.toList_ofList]

theorem isVisible_of_read?_none (read : read? json = .ok none) : isVisible json = false := by
  rcases parts_of_read? read with ⟨_, _, text, _, _, textRead,
    ⟨blank, _⟩ | ⟨_, _, _, _, _, nothing⟩⟩
  · rw [<- Bool.not_eq_true, isVisible_iff_of_readText textRead]
    exact not_not_intro blank
  · cases nothing

theorem exists_read?_of_describes (describes : Describes json word) :
    ∃ found, read? json = .ok found := by
  rw [read?_eq, describes.top, describes.left, describes.text]
  dsimp only [bind, Except.bind]
  split
  · exact ⟨none, rfl⟩
  · rw [describes.right, describes.bottom]
    exact ⟨_, rfl⟩

/-- A word that is described begins at its place. -/
theorem Describes.ofEntry (describes : Describes json word) :
    PlacedWord.ofEntry json = .ok { word.place with entry := json } := by
  unfold PlacedWord.ofEntry
  rw [describes.top, describes.left]
  rfl

/-- No two words are read of one. -/
theorem Describes.unique (describes : Describes json word) (also : Describes json other) :
    word = other := by
  have text : word.text = other.text :=
    String.toList_inj.mp (Except.ok.inj (describes.text.symm.trans also.text))
  have top : word.top = other.top := Except.ok.inj (describes.top.symm.trans also.top)
  have left : word.left = other.left := Except.ok.inj (describes.left.symm.trans also.left)
  have right := describes.right
  have bottom := describes.bottom
  rw [left] at right
  rw [top] at bottom
  have right : word.right = other.right := Except.ok.inj (right.symm.trans also.right)
  have bottom : word.bottom = other.bottom := Except.ok.inj (bottom.symm.trans also.bottom)
  cases word
  cases other
  simp_all only

theorem not_overflows_of_read? {found : Option (Word Float)}
    (read : read? (.object entries) = .ok found) :
    ¬ Overflows (.object entries) ∧ ¬ HasNoText (.object entries) := by
  rcases parts_of_read? read with ⟨top, left, text, topRead, leftRead, textRead, whole⟩
  refine ⟨?_, exists_readText_iff.mp ⟨text, textRead⟩⟩
  rw [not_overflows_iff]
  intro key listed
  rw [sidesRead] at listed
  simp only [isVisible_iff_of_readText textRead] at listed
  rcases whole with ⟨blank, _⟩ | ⟨present, right, bottom, rightRead, bottomRead, _⟩
  · rw [if_neg (not_not_intro blank)] at listed
    rcases List.mem_pair.mp listed with rfl | rfl
    · exact not_tooLarge_of_readCoordinate topRead
    · exact not_tooLarge_of_readCoordinate leftRead
  · rw [if_pos present, boxKeys] at listed
    simp only [List.mem_cons, List.not_mem_nil, or_false] at listed
    rcases listed with rfl | rfl | rfl | rfl
    · exact not_tooLarge_of_readCoordinate topRead
    · exact not_tooLarge_of_readCoordinate leftRead
    · exact not_tooLarge_of_readCoordinate rightRead
    · exact not_tooLarge_of_readCoordinate bottomRead

theorem exists_read?_of_not_overflows (fits : ¬ Overflows (.object entries))
    (written : ¬ HasNoText (.object entries)) : ∃ found, read? (.object entries) = .ok found := by
  rw [not_overflows_iff] at fits
  have side (key : String) (listed : key ∈ sidesRead (.object entries)) (fallback : Float) :
      ∃ side, readCoordinate key fallback (.object entries) = .ok side :=
    exists_readCoordinate (fits key listed) fallback
  have always : ["top", "x0"] ⊆ sidesRead (.object entries) := by
    unfold sidesRead
    split <;> decide
  rcases side "top" (always (by decide)) 0 with ⟨top, topRead⟩
  rcases side "x0" (always (by decide)) 0 with ⟨left, leftRead⟩
  rcases exists_readText_iff.mpr written with ⟨text, textRead⟩
  rw [read?_eq, topRead, leftRead, textRead]
  dsimp only [bind, Except.bind]
  split
  · exact ⟨none, rfl⟩
  · rename_i visible
    rw [sidesRead, isVisible, textIn_of_readText textRead, Bool.eq_false_iff.mpr visible] at side
    rcases side "x1" (by decide) left with ⟨right, rightRead⟩
    rcases side "bottom" (by decide) (top + usualHeight) with ⟨bottom, bottomRead⟩
    rw [rightRead, bottomRead]
    exact ⟨_, rfl⟩

/-- A word can be read unless it overflows or has no text. -/
theorem exists_read?_iff :
    (∃ found, read? (.object entries) = .ok found)
      ↔ ¬ Overflows (.object entries) ∧ ¬ HasNoText (.object entries) :=
  ⟨fun ⟨_, read⟩ => not_overflows_of_read? read,
    fun ⟨fits, written⟩ => exists_read?_of_not_overflows fits written⟩

end Single

section Documents

/-! ## All words -/

variable {words : List Json} {read : List (Word Float)}

theorem readAll_cons (json : Json) (words : List Json) :
    readAll (json :: words)
      = read? json >>= fun found =>
        readAll words >>= fun others => .ok (found.toList ++ others) := by
  unfold readAll
  rw [List.mapM_cons]
  cases read? json with
  | error fault => rfl
  | ok found =>
      cases words.mapM read? with
      | error fault => rfl
      | ok others => cases found <;> rfl

/-- The words that say something are read one by one. -/
theorem describes_of_readAll (done : readAll words = .ok read) :
    List.Forall₂ Describes (words.filter isVisible) read := by
  induction words generalizing read with
  | nil =>
      rcases Except.ok.inj done with rfl
      exact List.Forall₂.nil
  | cons json words inductionHypothesis =>
      rw [readAll_cons] at done
      rcases bind_eq_ok.mp done with ⟨found, here, done⟩
      rcases bind_eq_ok.mp done with ⟨others, later, done⟩
      rcases Except.ok.inj done with rfl
      cases found with
      | none =>
          rw [List.filter_cons_of_neg (Bool.eq_false_iff.mp (isVisible_of_read?_none here))]
          exact inductionHypothesis later
      | some word =>
          rw [List.filter_cons_of_pos (describes_of_read? here).1]
          exact (inductionHypothesis later).cons (describes_of_read? here).2

/-- What is read of a document is read of one of its words. -/
theorem exists_of_mem_readAll (done : readAll words = .ok read) {word : Word Float}
    (member : word ∈ read) : ∃ json, json ∈ words ∧ read? json = .ok (some word) := by
  rcases bind_eq_ok.mp done with ⟨each, mapped, done⟩
  rcases Except.ok.inj done with rfl
  rcases List.mem_filterMap.mp member with ⟨found, listed, same⟩
  obtain rfl : found = some word := same
  exact (mem_mapM_iff mapped).mp listed

theorem exists_readAll_iff :
    (∃ read, readAll words = .ok read)
      ↔ forall json, json ∈ words -> ∃ found, read? json = .ok found := by
  rw [<- exists_mapM_iff]
  constructor
  · rintro ⟨read, done⟩
    rcases bind_eq_ok.mp done with ⟨each, mapped, _⟩
    exact ⟨each, mapped⟩
  · rintro ⟨each, mapped⟩
    exact ⟨_, bind_eq_ok.mpr ⟨each, mapped, rfl⟩⟩

/-- The same words in another order are read the same, each as it was. -/
theorem perm_of_readAll {others : List Json} {also : List (Word Float)}
    (done : readAll words = .ok read) (doneToo : readAll others = .ok also)
    (moved : (words.filter isVisible).Perm (others.filter isVisible)) : read.Perm also := by
  rcases List.perm_comp_forall₂ moved (describes_of_readAll doneToo) with
    ⟨between, described, perm⟩
  have unique : Relator.RightUnique Describes := fun _ _ _ => Describes.unique
  rwa [unique.forall₂ (describes_of_readAll done) described]

end Documents

end Word
end DegreeAudit
