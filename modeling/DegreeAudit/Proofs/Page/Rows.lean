import DegreeAudit.Page.Row
import DegreeAudit.Proofs.Page.Words

namespace DegreeAudit
namespace WordRow

/-!
# Rows and the words on a page

The rows of a page have its words, and those of a document have what is read of its words.  There
are rows just if each word can be read, whatever the order in which they are sorted and read.
-/

section Gathering

/-! ## Words gathered into rows -/

variable {κ : Type} [LE κ] [DecidableLE κ] {page : Int} {row : WordRow κ}

theorem eq_of_ofGathered? {group : List (Word κ)} (made : ofGathered? page group = some row) :
    group ≠ [] ∧ row.words = group.mergeSort Word.isLeftOf ∧ row.page = page := by
  cases group with
  | nil => cases made
  | cons first words =>
      rcases Option.some.inj made with rfl
      exact ⟨List.cons_ne_nil first words, rfl, rfl⟩

variable [Sub κ] [LT κ] [DecidableLT κ] {tolerance : κ} {words : List (Word κ)}

theorem flatten_gather (tolerance : κ) (words : List (Word κ)) :
    (gather tolerance words).flatten = words := by
  fun_induction gather tolerance words with
  | case1 => rfl
  | case2 first words inductionHypothesis =>
      rw [List.flatten_cons, inductionHypothesis, List.cons_append,
        List.takeWhile_append_dropWhile]

/-- Every row has words, and they are among those on the page. -/
theorem words_of_mem_ofSorted (made : row ∈ ofSorted page tolerance words) :
    row.words ≠ [] ∧ forall word, word ∈ row.words -> word ∈ words := by
  rcases List.mem_filterMap.mp made with ⟨group, gathered, found⟩
  rcases eq_of_ofGathered? found with ⟨present, sorted, _⟩
  rw [sorted]
  constructor
  · intro empty
    have none := congrArg List.length empty
    rw [List.length_mergeSort, List.length_nil, List.length_eq_zero_iff] at none
    exact present none
  · intro word member
    rw [List.mem_mergeSort] at member
    have listed := List.mem_flatten.mpr ⟨group, gathered, member⟩
    rwa [flatten_gather] at listed

theorem page_of_mem_ofSorted (made : row ∈ ofSorted page tolerance words) : row.page = page := by
  rcases List.mem_filterMap.mp made with ⟨group, _, found⟩
  exact (eq_of_ofGathered? found).2.2

end Gathering

section Documents

/-! ## Words of a document -/

variable {page : Int} {tolerance : Float} {words : List Json} {placed : List PlacedWord}

/-- A word is placed and read in two steps, which come to reading it at once. -/
theorem mem_placed_iff (mapped : words.mapM PlacedWord.ofEntry = .ok placed)
    {found : Option (Word Float)} :
    (∃ word, word ∈ placed ∧ word.read? = .ok found)
      ↔ ∃ json, json ∈ words ∧ Word.read? json = .ok found := by
  simp only [mem_mapM_iff mapped, Word.read?, bind_eq_ok]
  constructor
  · rintro ⟨word, ⟨json, listed, placedHere⟩, read⟩
    exact ⟨json, listed, word, placedHere, read⟩
  · rintro ⟨json, listed, word, placedHere, read⟩
    exact ⟨word, ⟨json, listed, placedHere⟩, read⟩

theorem exists_read?_of_placed (mapped : words.mapM PlacedWord.ofEntry = .ok placed) :
    (forall word, word ∈ placed -> ∃ found, word.read? = .ok found)
      ↔ forall json, json ∈ words -> ∃ found, Word.read? json = .ok found := by
  constructor
  · intro readable json listed
    rcases exists_mapM_iff.mp ⟨placed, mapped⟩ json listed with ⟨word, placedHere⟩
    rcases readable word ((mem_mapM_iff mapped).mpr ⟨json, listed, placedHere⟩) with ⟨found, read⟩
    exact ⟨found, bind_eq_ok.mpr ⟨word, placedHere, read⟩⟩
  · intro readable word member
    rcases (mem_mapM_iff mapped).mp member with ⟨json, listed, placedHere⟩
    rcases readable json listed with ⟨found, read⟩
    rcases bind_eq_ok.mp read with ⟨other, placedToo, readHere⟩
    rcases Except.ok.inj (placedHere.symm.trans placedToo) with rfl
    exact ⟨found, readHere⟩

theorem exists_placed (readable : forall json, json ∈ words ->
      ∃ found, Word.read? json = .ok found) :
    ∃ placed, words.mapM PlacedWord.ofEntry = .ok placed := by
  refine exists_mapM_iff.mpr fun json listed => ?_
  rcases readable json listed with ⟨found, read⟩
  rcases bind_eq_ok.mp read with ⟨word, placedHere, _⟩
  exact ⟨word, placedHere⟩

/-- There are rows just if each word can be read. -/
theorem exists_ofDocument_iff :
    (∃ rows, ofDocument page tolerance words = .ok rows)
      ↔ forall json, json ∈ words -> ∃ found, Word.read? json = .ok found := by
  constructor
  · rintro ⟨rows, made⟩
    rcases bind_eq_ok.mp made with ⟨placed, mapped, made⟩
    rcases bind_eq_ok.mp made with ⟨found, read, _⟩
    rw [<- exists_read?_of_placed mapped]
    intro word member
    exact exists_mapM_iff.mp ⟨found, read⟩ word (List.mem_mergeSort.mpr member)
  · intro readable
    rcases exists_placed readable with ⟨placed, mapped⟩
    obtain ⟨found, read⟩ :
        ∃ found, (placed.mergeSort PlacedWord.comesBefore).mapM PlacedWord.read? = .ok found := by
      refine exists_mapM_iff.mpr fun word member => ?_
      exact (exists_read?_of_placed mapped).mpr readable word (List.mem_mergeSort.mp member)
    exact ⟨_, bind_eq_ok.mpr ⟨placed, mapped, bind_eq_ok.mpr ⟨found, read, rfl⟩⟩⟩

/-- The rows of a document are made of what is read of its words. -/
theorem exists_words_of_ofDocument {rows : List (WordRow Float)}
    (made : ofDocument page tolerance words = .ok rows) :
    ∃ found, rows = ofSorted page tolerance found
      ∧ forall word, word ∈ found -> ∃ json, json ∈ words ∧ Word.read? json = .ok (some word) := by
  rcases bind_eq_ok.mp made with ⟨placed, mapped, made⟩
  rcases bind_eq_ok.mp made with ⟨found, read, made⟩
  rcases Except.ok.inj made with rfl
  refine ⟨found.filterMap id, rfl, fun word member => ?_⟩
  rcases List.mem_filterMap.mp member with ⟨given, listed, same⟩
  obtain rfl : given = some word := same
  rcases (mem_mapM_iff read).mp listed with ⟨other, sorted, readHere⟩
  exact (mem_placed_iff mapped).mp ⟨other, List.mem_mergeSort.mp sorted, readHere⟩

end Documents

end WordRow
end DegreeAudit
