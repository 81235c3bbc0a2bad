import DegreeAudit.Proofs.Page.Grouping
import Mathlib.Data.List.Pairwise

namespace DegreeAudit

/-!
# The order of words in a document

Words are sorted before they are put into rows.  The sort is stable, so it keeps the order of words
at the same place; but if no two of them are there, sorted words are in the only order they can be
in, and the rows do not depend on how the document stores them.  Words that say nothing make no row.

A word that says nothing is looked at nevertheless: where it stands must be readable, or there are
no rows at all.  The same goes for its text: where a word has none, not even a blank one, no rows are
made.
-/

namespace Word

/-- Where a word of a document stands, if that can be read: its height and its left end. -/
def placeIn (json : Json) : Except Json.Mismatch (Float × Float) := do
  pure (<- readCoordinate "top" 0 json, <- readCoordinate "x0" 0 json)

theorem Describes.place {json : Json} {word : Word Float} (describes : Describes json word) :
    placeIn json = .ok (word.top, word.left) := by
  unfold placeIn
  rw [describes.top, describes.left]
  rfl

/-- A word of a document that can be sorted: where it stands is given by numbers, if at all. -/
structure IsSortable (json : Json) : Prop where
  object : ∃ entries, json = .object entries
  number : forall place, placeIn json = .ok place ->
    place.1.isNaN = false ∧ place.2.isNaN = false

/-- Two words of a document do not stand at the same place. -/
def StandApart (json other : Json) : Prop :=
  forall place, placeIn json = .ok place -> forall otherPlace, placeIn other = .ok otherPlace ->
    (place.1 == otherPlace.1 && place.2 == otherPlace.2) = false

end Word

namespace WordRow

open Number (exact)

section Sorting

/-! ## Sorted words -/

variable {a b : Word Float} {words others : List (Word Float)}

/-- Two words do not stand at the same place. -/
def Apart (a b : Word Float) : Prop :=
  (a.top == b.top && a.left == b.left) = false

theorem apart_iff (first : a.place.IsNumeric) (second : b.place.IsNumeric) :
    Apart a b ↔ ¬ (exact a.top = exact b.top ∧ exact a.left = exact b.left) := by
  have top := Number.beq_iff_exact first.top second.top
  have left := Number.beq_iff_exact first.left second.left
  rw [Apart, Bool.eq_false_iff, ne_eq, Bool.and_eq_true]
  exact not_congr (and_congr top left)

/-- Sorted words are sorted by their values. -/
theorem pairwise_comesBefore_exact (placed : forall word, word ∈ words -> word.place.IsNumeric) :
    (words.mergeSort Word.comesBefore).Pairwise fun a b =>
      (a.map exact).comesBefore (b.map exact) = true := by
  have values : (words.mergeSort Word.comesBefore).map (Word.map exact)
      = (words.map (Word.map exact)).mergeSort Word.comesBefore :=
    List.map_mergeSort fun a listed b listedToo =>
      comesBefore_exact (placed a listed) (placed b listedToo)
  have sorted := pairwise_comesBefore (words.map (Word.map exact))
  rwa [<- values, List.pairwise_map] at sorted

/-- Words at different places have only one order. -/
theorem mergeSort_eq_of_perm (placed : forall word, word ∈ words -> word.place.IsNumeric)
    (apart : words.Pairwise Apart) (moved : words.Perm others) :
    words.mergeSort Word.comesBefore = others.mergeSort Word.comesBefore := by
  have placedToo : forall word, word ∈ others -> word.place.IsNumeric := fun word listed =>
    placed word (moved.mem_iff.mpr listed)
  have different := apart.imp_of_mem fun {a b} listed listedToo =>
    (apart_iff (placed a listed) (placed b listedToo)).mp
  have symmetric : Std.Symm fun a b : Word Float =>
      ¬ (exact a.top = exact b.top ∧ exact a.left = exact b.left) :=
    ⟨fun a b apart same => apart ⟨same.1.symm, same.2.symm⟩⟩
  refine List.Perm.eq_of_pairwise ?_ (pairwise_comesBefore_exact placed)
    (pairwise_comesBefore_exact placedToo)
    ((List.mergeSort_perm _ _).trans (moved.trans (List.mergeSort_perm _ _).symm))
  intro a b listed listedToo before after
  have first := List.mem_mergeSort.mp listed
  have second := moved.mem_iff.mpr (List.mem_mergeSort.mp listedToo)
  by_contra distinct
  exact different.forall first second distinct (Place.same_of_comesBefore before after)

end Sorting

section Documents

/-! ## Words of a document -/

variable {words first second : List Json} {read : List (Word Float)} {page : Int}
  {tolerance : Float}

theorem isNumeric_of_isSortable {json : Json} (sortable : Word.IsSortable json)
    {placed : PlacedWord} (read : PlacedWord.ofEntry json = .ok placed) :
    placed.toPlace.IsNumeric := by
  rcases bind_eq_ok.mp read with ⟨top, topRead, read⟩
  rcases bind_eq_ok.mp read with ⟨left, leftRead, read⟩
  rcases Except.ok.inj read with rfl
  have place : Word.placeIn json = .ok (top, left) :=
    bind_eq_ok.mpr ⟨top, topRead, bind_eq_ok.mpr ⟨left, leftRead, rfl⟩⟩
  rcases sortable.number _ place with ⟨above, before⟩
  exact ⟨above, before⟩

theorem isNumeric_of_mem_readAll (sortable : forall json, json ∈ words -> Word.IsSortable json)
    (done : Word.readAll words = .ok read) :
    forall word, word ∈ read -> word.place.IsNumeric := by
  intro word member
  rcases Word.exists_of_mem_readAll done member with ⟨json, given, here⟩
  exact isNumeric_of_isSortable (sortable json given) (Word.describes_of_read? here).2.ofEntry

/-- Words are apart where those of the document are. -/
theorem pairwise_apart_of_describes {visible : List Json}
    (described : List.Forall₂ Word.Describes visible read)
    (apart : visible.Pairwise Word.StandApart) : read.Pairwise Apart := by
  rw [List.pairwise_iff_getElem] at apart ⊢
  intro i j inside insideToo less
  have length := described.length_eq
  have given : i < visible.length := by omega
  have givenToo : j < visible.length := by omega
  have place : Word.placeIn visible[i] = .ok (read[i].top, read[i].left) :=
    (described.get given inside).place
  have otherPlace : Word.placeIn visible[j] = .ok (read[j].top, read[j].left) :=
    (described.get givenToo insideToo).place
  exact apart i j given givenToo less (read[i].top, read[i].left) place
    (read[j].top, read[j].left) otherPlace

/-- There are rows unless a word overflows or has no text. -/
theorem exists_rows_iff (sortable : forall json, json ∈ words -> Word.IsSortable json) :
    (∃ rows, ofDocument page tolerance words = .ok rows)
      ↔ forall json, json ∈ words -> ¬ Word.Overflows json ∧ ¬ Word.HasNoText json := by
  rw [exists_ofDocument_iff]
  refine forall₂_congr fun json listed => ?_
  rcases (sortable json listed).object with ⟨entries, rfl⟩
  exact Word.exists_read?_iff

/-- The rows of a document are those of what is read of it. -/
theorem exists_readAll_of_ofDocument
    (sortable : forall json, json ∈ words -> Word.IsSortable json) {rows : List (WordRow Float)}
    (made : ofDocument page tolerance words = .ok rows) :
    ∃ read, Word.readAll words = .ok read ∧ rows = ofWords page tolerance read := by
  rcases Word.exists_readAll_iff.mpr (exists_ofDocument_iff.mp ⟨rows, made⟩) with ⟨read, done⟩
  have sorted : ofDocument page tolerance words = .ok (ofWords page tolerance read) :=
    ofDocument_eq_ofWords (fun json given _ => isNumeric_of_isSortable (sortable json given)) done
  exact ⟨read, done, Except.ok.inj (made.symm.trans sorted)⟩

/-- Two documents that say the same in another order have the same rows if there are rows. -/
theorem ofDocument_eq_of_perm (sortable : forall json, json ∈ first -> Word.IsSortable json)
    (sortableToo : forall json, json ∈ second -> Word.IsSortable json)
    (moved : (first.filter Word.isVisible).Perm (second.filter Word.isVisible))
    (apart : (first.filter Word.isVisible).Pairwise Word.StandApart)
    {rows others : List (WordRow Float)} (made : ofDocument page tolerance first = .ok rows)
    (madeToo : ofDocument page tolerance second = .ok others) : rows = others := by
  rcases exists_readAll_of_ofDocument sortable made with ⟨read, done, rfl⟩
  rcases exists_readAll_of_ofDocument sortableToo madeToo with ⟨also, doneToo, rfl⟩
  have words := mergeSort_eq_of_perm (isNumeric_of_mem_readAll sortable done)
    (pairwise_apart_of_describes (Word.describes_of_readAll done) apart)
    (Word.perm_of_readAll done doneToo moved)
  rw [ofWords, ofWords, words]

/-- Two documents have the same words that say something, and no two of these stand at the same
place.  Then the rows are the same, in whatever order the words are stored and wherever there are
blank ones between them, unless there are no rows because a word overflows or has no text. -/
theorem rows_of_reordered
    (sortable : forall json, json ∈ first ++ second -> Word.IsSortable json)
    (moved : (first.filter Word.isVisible).Perm (second.filter Word.isVisible))
    (apart : (first.filter Word.isVisible).Pairwise Word.StandApart) (page : Int)
    (tolerance : Float) :
    (∃ rows, ofDocument page tolerance first = .ok rows
        ∧ ofDocument page tolerance second = .ok rows)
      ↔ forall json, json ∈ first ++ second -> ¬ Word.Overflows json ∧ ¬ Word.HasNoText json := by
  rw [List.forall_mem_append] at sortable ⊢
  rw [<- exists_rows_iff sortable.1, <- exists_rows_iff sortable.2]
  constructor
  · rintro ⟨rows, made, madeToo⟩
    exact ⟨⟨rows, made⟩, rows, madeToo⟩
  · rintro ⟨⟨rows, made⟩, others, madeToo⟩
    rcases ofDocument_eq_of_perm sortable.1 sortable.2 moved apart made madeToo with rfl
    exact ⟨rows, made, madeToo⟩

theorem isSortable_of_hasFinitePlace {json : Json} (finite : HasFinitePlace json) :
    Word.IsSortable json where
  object := by
    rcases finite with ⟨word, describes, _⟩
    exact Word.exists_object_of_readCoordinate describes.top
  number place read := by
    rcases finite with ⟨word, describes, top, left⟩
    rcases Except.ok.inj (describes.place.symm.trans read) with rfl
    exact ⟨Number.isNaN_of_isFinite top, Number.isNaN_of_isFinite left⟩

theorem not_overflows_of_hasFinitePlace {json : Json} (finite : HasFinitePlace json) :
    ¬ Word.Overflows json ∧ ¬ Word.HasNoText json := by
  rcases finite with ⟨word, describes, _⟩
  rcases Word.exists_object_of_readCoordinate describes.top with ⟨entries, rfl⟩
  rcases Word.exists_read?_of_describes describes with ⟨found, read⟩
  exact Word.not_overflows_of_read? read

theorem standApart_looseWords : looseWords.Pairwise Word.StandApart := by
  simp only [looseWords, List.pairwise_cons, List.forall_mem_cons]
  have none {json : Json} := List.forall_mem_nil (Word.StandApart json)
  refine ⟨⟨?_, ?_, ?_, none⟩, ⟨?_, ?_, none⟩, ⟨?_, none⟩, none, List.Pairwise.nil⟩
  all_goals
    intro place here otherPlace there
    rcases Except.ok.inj here with rfl
    rcases Except.ok.inj there with rfl
    decide

/-- The words from the last to the first, without the blank one.  Two of them stand at the same
height. -/
def reversedWords : List Json :=
  (looseWords.filter Word.isVisible).reverse

theorem rows_of_reordered_reversedWords :
    (forall json, json ∈ looseWords ++ reversedWords -> Word.IsSortable json)
      ∧ (looseWords.filter Word.isVisible).Perm (reversedWords.filter Word.isVisible)
      ∧ (looseWords.filter Word.isVisible).Pairwise Word.StandApart
      ∧ ∃ rows, ofDocument 1 usualTolerance looseWords = .ok rows
        ∧ ofDocument 1 usualTolerance reversedWords = .ok rows := by
  have finite : forall json, json ∈ looseWords ++ reversedWords -> HasFinitePlace json := by
    intro json member
    rcases List.mem_append.mp member with listed | listed
    · exact hasFinitePlace_looseWords json listed
    · exact hasFinitePlace_looseWords json (List.mem_of_mem_filter (List.mem_reverse.mp listed))
  have sortable : forall json, json ∈ looseWords ++ reversedWords -> Word.IsSortable json :=
    fun json member => isSortable_of_hasFinitePlace (finite json member)
  have moved : (looseWords.filter Word.isVisible).Perm (reversedWords.filter Word.isVisible) := by
    rw [reversedWords, List.filter_reverse, List.filter_filter]
    simp only [Bool.and_self]
    exact (List.reverse_perm _).symm
  have apart := standApart_looseWords.sublist (List.filter_sublist (p := Word.isVisible))
  refine ⟨sortable, moved, apart, ?_⟩
  exact (rows_of_reordered sortable moved apart 1 usualTolerance).mpr
    fun json member => not_overflows_of_hasFinitePlace (finite json member)

/-- One word that says something. -/
def plainWords : List Json :=
  [.object [("text", .string "BS101"), ("top", .int 60), ("x0", .int 10), ("x1", .int 45)]]

/-- The same after a blank word whose height has no nearest real number. -/
def wordsAfterBlank : List Json :=
  .object [("text", .string " "), ("top", .int (10 ^ 309))] :: plainWords

/-- A blank word costs the rows of all others if it overflows. -/
theorem rows_lost_wordsAfterBlank :
    (plainWords.filter Word.isVisible).Perm (wordsAfterBlank.filter Word.isVisible)
      ∧ (forall json, json ∈ plainWords.filter Word.isVisible -> HasFinitePlace json)
      ∧ (plainWords.filter Word.isVisible).Pairwise Word.StandApart
      ∧ ¬ ∃ rows, ofDocument 1 usualTolerance plainWords = .ok rows
        ∧ ofDocument 1 usualTolerance wordsAfterBlank = .ok rows := by
  have visible : plainWords.filter Word.isVisible = plainWords := by rfl
  have blank : wordsAfterBlank.filter Word.isVisible = plainWords := by rfl
  rw [visible, blank]
  refine ⟨List.Perm.refl _, ?_, List.pairwise_singleton _ _, ?_⟩
  · intro json member
    rcases List.mem_singleton.mp member with rfl
    exact ⟨⟨"BS101", 10, 45, 60, 60 + Word.usualHeight⟩,
      ⟨by decide +kernel, rfl, rfl, rfl, rfl⟩, by decide, by decide⟩
  · rintro ⟨rows, _, made⟩
    rcases exists_ofDocument_iff.mp ⟨rows, made⟩ _ List.mem_cons_self with ⟨found, readBlank⟩
    refine (Word.not_overflows_of_read? readBlank).1 ⟨"top", by decide +kernel, _, rfl, ?_⟩
    change Number.IsTooLarge (10 ^ 309)
    decide +kernel

end Documents

end WordRow
end DegreeAudit
