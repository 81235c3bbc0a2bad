import DegreeAudit.Proofs.Page.Measures

namespace DegreeAudit

/-!
# Words that are sorted before any is dropped

All words of a document are sorted, and only then those are dropped that say nothing.  The sort is
stable, so what is left comes in the order that it would have been given without the others.  This
needs an order in which any two words can be compared, so no coordinate may be outside of it.
-/

section Lists

/-! ## What a stable sort keeps -/

variable {α β γ : Type}

/-- A list is cut in one way only between items with a property and items without it. -/
theorem append_inj_of_property {p : α -> Bool} {left right leftToo rightToo : List α}
    (same : left ++ right = leftToo ++ rightToo)
    (inside : forall item, item ∈ left -> p item = true)
    (outside : forall item, item ∈ right -> p item = false)
    (insideToo : forall item, item ∈ leftToo -> p item = true)
    (outsideToo : forall item, item ∈ rightToo -> p item = false) :
    left = leftToo ∧ right = rightToo := by
  have whole {left right : List α} (inside : forall item, item ∈ left -> p item = true)
      (outside : forall item, item ∈ right -> p item = false) :
      (left ++ right).filter p = left := by
    have others : right.filter p = [] :=
      List.filter_eq_nil_iff.mpr fun item member => Bool.eq_false_iff.mp (outside item member)
    rw [List.filter_append, List.filter_eq_self.mpr inside, others, List.append_nil]
  have first : left = leftToo := by
    rw [<- whole inside outside, same, whole insideToo outsideToo]
  rcases first with rfl
  exact ⟨rfl, List.append_cancel_left same⟩

theorem mergeSort_congr {first second : α -> α -> Bool} {items : List α}
    (same : forall a, a ∈ items -> forall b, b ∈ items -> first a b = second a b) :
    items.mergeSort first = items.mergeSort second := by
  simpa using List.map_mergeSort (f := id) same

variable (le : γ -> γ -> Bool) (transitive : forall a b c, le a b = true -> le b c = true ->
    le a c = true) (total : forall a b, (le a b || le b a) = true)

include transitive total

/-- An item is sorted in after all that come before it, and before any that may come after it. -/
theorem exists_mergeSort_cons (key : α -> γ) (item : α) (items : List α) :
    ∃ before after,
      (item :: items).mergeSort (fun a b => le (key a) (key b)) = before ++ item :: after
        ∧ items.mergeSort (fun a b => le (key a) (key b)) = before ++ after
        ∧ (forall other, other ∈ before -> le (key item) (key other) = false)
        ∧ forall other, other ∈ after -> le (key item) (key other) = true := by
  have transitiveKey (a b c : α) := transitive (key a) (key b) (key c)
  have totalKey (a b : α) := total (key a) (key b)
  rcases List.mergeSort_cons transitiveKey totalKey item items with
    ⟨before, after, whole, rest, earlier⟩
  refine ⟨before, after, whole, rest, fun other member => ?_, ?_⟩
  · simpa using earlier other member
  · have sorted := List.pairwise_mergeSort transitiveKey totalKey (item :: items)
    rw [whole, List.pairwise_append, List.pairwise_cons] at sorted
    exact sorted.2.1.1

/-- Items may be dropped before the others are sorted or afterwards. -/
theorem filterMap_mergeSort {f : α -> Option β} {key : α -> γ} {keyAfter : β -> γ}
    (kept : forall item result, f item = some result -> keyAfter result = key item)
    (items : List α) :
    (items.mergeSort fun a b => le (key a) (key b)).filterMap f
      = (items.filterMap f).mergeSort fun a b => le (keyAfter a) (keyAfter b) := by
  induction items with
  | nil => simp
  | cons item items inductionHypothesis =>
      rcases exists_mergeSort_cons le transitive total key item items with
        ⟨before, after, whole, rest, earlier, later⟩
      rw [rest, List.filterMap_append] at inductionHypothesis
      rw [whole, List.filterMap_append]
      cases found : f item with
      | none =>
          rw [List.filterMap_cons_none found, List.filterMap_cons_none found, inductionHypothesis]
      | some result =>
          rcases exists_mergeSort_cons le transitive total keyAfter result (items.filterMap f) with
            ⟨beforeToo, afterToo, wholeToo, restToo, earlierToo, laterToo⟩
          rw [restToo] at inductionHypothesis
          have compared {other : α} {otherResult : β} (given : f other = some otherResult) :
              le (keyAfter result) (keyAfter otherResult) = le (key item) (key other) := by
            rw [kept item result found, kept other otherResult given]
          have inside : forall other, other ∈ before.filterMap f ->
              (!le (keyAfter result) (keyAfter other)) = true := by
            intro other member
            rcases List.mem_filterMap.mp member with ⟨given, listed, made⟩
            rw [compared made, earlier given listed, Bool.not_false]
          have outside : forall other, other ∈ after.filterMap f ->
              (!le (keyAfter result) (keyAfter other)) = false := by
            intro other member
            rcases List.mem_filterMap.mp member with ⟨given, listed, made⟩
            rw [compared made, later given listed, Bool.not_true]
          -- either sort is cut at the first result that may come after the new one
          rcases append_inj_of_property inductionHypothesis inside outside
            (fun other member => congrArg not (earlierToo other member))
            (fun other member => congrArg not (laterToo other member)) with ⟨cutBefore, cutAfter⟩
          rw [List.filterMap_cons_some found, List.filterMap_cons_some found, wholeToo, cutBefore,
            cutAfter]

end Lists

namespace Place

/-! ## Places in an order -/

variable {κ : Type} [LinearOrder κ] {a b c : Place κ}

theorem comesBefore_iff :
    a.comesBefore b = true ↔ a.top < b.top ∨ a.top = b.top ∧ a.left ≤ b.left := by
  unfold comesBefore
  rcases lt_trichotomy a.top b.top with higher | same | lower
  · simp [higher]
  · simp [same]
  · simp [lower, not_lt_of_gt lower, ne_of_gt lower]

theorem comesBefore_trans (first : a.comesBefore b = true) (second : b.comesBefore c = true) :
    a.comesBefore c = true := by
  rw [comesBefore_iff] at first second ⊢
  rcases first with higher | ⟨same, ordered⟩
  · rcases second with higherNext | ⟨sameNext, _⟩
    · exact Or.inl (higher.trans higherNext)
    · exact Or.inl (higher.trans_eq sameNext)
  · rcases second with higherNext | ⟨sameNext, orderedNext⟩
    · exact Or.inl (same.trans_lt higherNext)
    · exact Or.inr ⟨same.trans sameNext, ordered.trans orderedNext⟩

theorem comesBefore_total (a b : Place κ) : (a.comesBefore b || b.comesBefore a) = true := by
  rw [Bool.or_eq_true, comesBefore_iff, comesBefore_iff]
  rcases lt_trichotomy a.top b.top with higher | same | lower
  · exact Or.inl (Or.inl higher)
  · rcases le_total a.left b.left with ordered | ordered
    · exact Or.inl (Or.inr ⟨same, ordered⟩)
    · exact Or.inr (Or.inr ⟨same.symm, ordered⟩)
  · exact Or.inr (Or.inl lower)

/-- Places that come before each other are the same. -/
theorem same_of_comesBefore (first : a.comesBefore b = true)
    (second : b.comesBefore a = true) : a.top = b.top ∧ a.left = b.left := by
  rw [comesBefore_iff] at first second
  rcases first with higher | ⟨same, ordered⟩
  · rcases second with lower | ⟨same, _⟩
    · exact absurd higher lower.asymm
    · exact absurd same (ne_of_gt higher)
  · rcases second with lower | ⟨_, orderedBack⟩
    · exact absurd same (ne_of_gt lower)
    · exact ⟨same, le_antisymm ordered orderedBack⟩

end Place

namespace PlacedWord

/-- What is read of a word, if it can be read. -/
def word? (word : PlacedWord) : Option (Word Float) :=
  word.read?.toOption.join

theorem word?_of_read? {word : PlacedWord} {found : Option (Word Float)}
    (read : word.read? = .ok found) : word.word? = found := by
  rw [word?, read]
  rfl

/-- A word is read at the place that was read before. -/
theorem place_of_word? {word : PlacedWord} {found : Word Float} (read : word.word? = some found) :
    found.place = word.toPlace := by
  unfold word? at read
  cases whole : word.read? with
  | error mismatch =>
      rw [whole] at read
      cases read
  | ok result =>
      rw [whole] at read
      obtain rfl : result = some found := read
      rcases bind_eq_ok.mp whole with ⟨text, _, whole⟩
      split at whole
      · cases whole
      · rcases bind_eq_ok.mp whole with ⟨right, _, whole⟩
        rcases bind_eq_ok.mp whole with ⟨bottom, _, whole⟩
        rcases Option.some.inj (Except.ok.inj whole) with rfl
        rfl

end PlacedWord

namespace WordRow

open Number (exact)

section Documents

/-! ## Words of a document -/

variable {words : List Json} {read : List (Word Float)} {page : Int} {tolerance : Float}

/-- Words that are read after they were sorted are sorted as if they had been read before. -/
theorem filterMap_mergeSort_word? {placed : List PlacedWord}
    (numeric : forall word, word ∈ placed -> word.toPlace.IsNumeric) :
    (placed.mergeSort PlacedWord.comesBefore).filterMap PlacedWord.word?
      = (placed.filterMap PlacedWord.word?).mergeSort Word.comesBefore := by
  have numericToo : forall word, word ∈ placed.filterMap PlacedWord.word? ->
      word.place.IsNumeric := by
    intro word member
    rcases List.mem_filterMap.mp member with ⟨given, listed, read⟩
    rw [PlacedWord.place_of_word? read]
    exact numeric given listed
  have values : placed.mergeSort PlacedWord.comesBefore
      = placed.mergeSort fun a b => (a.toPlace.map exact).comesBefore (b.toPlace.map exact) :=
    mergeSort_congr fun a listed b listedToo =>
      comesBefore_exact (numeric a listed) (numeric b listedToo)
  have valuesToo : (placed.filterMap PlacedWord.word?).mergeSort Word.comesBefore
      = (placed.filterMap PlacedWord.word?).mergeSort fun a b =>
        (a.place.map exact).comesBefore (b.place.map exact) :=
    mergeSort_congr fun a listed b listedToo =>
      comesBefore_exact (numericToo a listed) (numericToo b listedToo)
  rw [values, valuesToo]
  refine filterMap_mergeSort Place.comesBefore (fun _ _ _ => Place.comesBefore_trans)
    Place.comesBefore_total ?_ placed
  intro word result read
  rw [PlacedWord.place_of_word? read]

/-- The rows of a document are those of the words that say something, which may as well be sorted by
themselves. -/
theorem ofDocument_eq_ofWords
    (numeric : forall json, json ∈ words -> forall word, PlacedWord.ofEntry json = .ok word ->
      word.toPlace.IsNumeric)
    (done : Word.readAll words = .ok read) :
    ofDocument page tolerance words = .ok (ofWords page tolerance read) := by
  rcases bind_eq_ok.mp done with ⟨each, mapped, same⟩
  rcases Except.ok.inj same with rfl
  have readable := exists_mapM_iff.mp ⟨each, mapped⟩
  rcases exists_placed readable with ⟨placed, mappedFirst⟩
  have found : forall word, word ∈ placed -> word.read? = .ok word.word? := by
    intro word member
    rcases (exists_read?_of_placed mappedFirst).mpr readable word member with ⟨found, read⟩
    rw [PlacedWord.word?_of_read? read, read]
  have inOrder : each = placed.map PlacedWord.word? :=
    Except.ok.inj ((mapM_of_mapM_bind mappedFirst mapped).symm.trans (mapM_eq_ok_map found))
  have sorted : (placed.mergeSort PlacedWord.comesBefore).mapM PlacedWord.read?
      = .ok ((placed.mergeSort PlacedWord.comesBefore).map PlacedWord.word?) :=
    mapM_eq_ok_map fun word member => found word (List.mem_mergeSort.mp member)
  have numericPlaced : forall word, word ∈ placed -> word.toPlace.IsNumeric := by
    intro word member
    rcases (mem_mapM_iff mappedFirst).mp member with ⟨json, listed, placedHere⟩
    exact numeric json listed word placedHere
  have dropped := filterMap_mergeSort_word? numericPlaced
  refine bind_eq_ok.mpr ⟨placed, mappedFirst, bind_eq_ok.mpr ⟨_, sorted, ?_⟩⟩
  rw [inOrder, List.filterMap_map, List.filterMap_map, Function.id_comp, dropped]
  rfl

end Documents

end WordRow
end DegreeAudit
