import DegreeAudit.Proofs.Number.Exact
import DegreeAudit.Proofs.Page.Lines

namespace DegreeAudit

/-!
# Rows whose coordinates are measured otherwise

Words are put into rows by comparisons alone: which of two comes first, which is to the left, and
whether two stand at the same height.  So words whose coordinates are measured otherwise make the
same rows if these comparisons come out the same.

The coordinates of documents may so be measured by their values.  The order of two numbers is that
of their values; a difference may be rounded, but it matters only which side of the tolerance it is
on.
-/

section Prefixes

/-! ## Prefixes of lists -/

variable {α : Type} {p q : α -> Bool} {items : List α}

theorem takeWhile_congr (same : forall item, item ∈ items -> p item = q item) :
    items.takeWhile p = items.takeWhile q := by
  induction items with
  | nil => rfl
  | cons item items inductionHypothesis =>
      rw [List.forall_mem_cons] at same
      rw [List.takeWhile_cons, List.takeWhile_cons, same.1, inductionHypothesis same.2]

theorem dropWhile_congr (same : forall item, item ∈ items -> p item = q item) :
    items.dropWhile p = items.dropWhile q := by
  have whole : items.takeWhile p ++ items.dropWhile p = items.takeWhile p ++ items.dropWhile q := by
    rw [List.takeWhile_append_dropWhile, takeWhile_congr same, List.takeWhile_append_dropWhile]
  exact List.append_cancel_left whole

end Prefixes

variable {κ ι : Type}

/-- A place whose coordinates are measured otherwise. -/
def Place.map (f : κ -> ι) (place : Place κ) : Place ι where
  top := f place.top
  left := f place.left

/-- Both coordinates of a place are numbers. -/
structure Place.IsNumeric (place : Place Float) : Prop where
  top : place.top.isNaN = false
  left : place.left.isNaN = false

/-- A word whose coordinates are measured otherwise. -/
def Word.map (f : κ -> ι) (word : Word κ) : Word ι where
  text := word.text
  left := f word.left
  right := f word.right
  top := f word.top
  bottom := f word.bottom

/-- A row whose coordinates are measured otherwise. -/
def WordRow.map (f : κ -> ι) (row : WordRow κ) : WordRow ι where
  page := row.page
  y := f row.y
  words := row.words.map (Word.map f)

/-- Whether a word comes before another, or may. -/
def Word.comesBefore [LT κ] [DecidableLT κ] [LE κ] [DecidableLE κ] (a b : Word κ) : Bool :=
  a.place.comesBefore b.place

namespace WordRow

/-- The rows of words in any order. -/
def ofWords [Sub κ] [LE κ] [DecidableLE κ] [LT κ] [DecidableLT κ] (page : Int) (tolerance : κ)
    (words : List (Word κ)) : List (WordRow κ) :=
  ofSorted page tolerance (words.mergeSort Word.comesBefore)

section Maps

/-! ## Comparisons that come out the same -/

variable [LE κ] [DecidableLE κ] [LE ι] [DecidableLE ι]
variable {f : κ -> ι} {tolerance : κ} {bound : ι} {words group : List (Word κ)}

theorem map_ofGathered? (page : Int)
    (same : forall a, a ∈ group -> forall b, b ∈ group ->
      a.isLeftOf b = (a.map f).isLeftOf (b.map f)) :
    (ofGathered? page group).map (WordRow.map f) = ofGathered? page (group.map (Word.map f)) := by
  cases group with
  | nil => rfl
  | cons first words =>
      have sorted := List.map_mergeSort same
      rw [List.map_cons] at sorted
      rw [ofGathered?, Option.map_some, WordRow.map, sorted]
      rfl

variable [Sub κ] [LT κ] [DecidableLT κ] [Sub ι] [LT ι] [DecidableLT ι]

theorem map_gather
    (same : forall a, a ∈ words -> forall b, b ∈ words ->
      sameHeight tolerance a b = sameHeight bound (a.map f) (b.map f)) :
    (gather tolerance words).map (List.map (Word.map f))
      = gather bound (words.map (Word.map f)) := by
  fun_induction gather tolerance words with
  | case1 =>
      rw [List.map_nil, List.map_nil, gather]
  | case2 first words inductionHypothesis =>
      have here : forall word, word ∈ words ->
          sameHeight tolerance first word = (sameHeight bound (first.map f) ∘ Word.map f) word :=
        fun word member => same first List.mem_cons_self word (List.mem_cons_of_mem first member)
      have rest := List.dropWhile_suffix (l := words) (sameHeight tolerance first)
      have later := inductionHypothesis fun a listed b listedToo =>
        same a (List.mem_cons_of_mem first (rest.subset listed)) b
          (List.mem_cons_of_mem first (rest.subset listedToo))
      rw [List.map_cons, List.map_cons, List.map_cons, gather, List.takeWhile_map,
        List.dropWhile_map, <- takeWhile_congr here, <- dropWhile_congr here, later]

/-- Words are compared as they are where their coordinates are measured otherwise. -/
structure Keeps (f : κ -> ι) (tolerance : κ) (bound : ι) (words : List (Word κ)) : Prop where
  comesBefore : forall a, a ∈ words -> forall b, b ∈ words ->
    a.comesBefore b = (a.map f).comesBefore (b.map f)
  isLeftOf : forall a, a ∈ words -> forall b, b ∈ words ->
    a.isLeftOf b = (a.map f).isLeftOf (b.map f)
  sameHeight : forall a, a ∈ words -> forall b, b ∈ words ->
    sameHeight tolerance a b = sameHeight bound (a.map f) (b.map f)

/-- The rows of words are kept where the comparisons are. -/
theorem map_ofWords (page : Int) (keeps : Keeps f tolerance bound words) :
    (ofWords page tolerance words).map (WordRow.map f)
      = ofWords page bound (words.map (Word.map f)) := by
  have gathered : (gather tolerance (words.mergeSort Word.comesBefore)).map (List.map (Word.map f))
      = gather bound ((words.mergeSort Word.comesBefore).map (Word.map f)) :=
    map_gather fun a listed b listedToo =>
      keeps.sameHeight a (List.mem_mergeSort.mp listed) b (List.mem_mergeSort.mp listedToo)
  rw [ofWords, ofWords, ofSorted, ofSorted, <- List.map_mergeSort keeps.comesBefore, <- gathered,
    List.map_filterMap, List.filterMap_map]
  apply List.filterMap_congr
  intro group made
  have inside (word : Word κ) (member : word ∈ group) : word ∈ words := by
    have listed := List.mem_flatten.mpr ⟨group, made, member⟩
    rwa [flatten_gather, List.mem_mergeSort] at listed
  exact map_ofGathered? page fun a listed b listedToo =>
    keeps.isLeftOf a (inside a listed) b (inside b listedToo)

end Maps

section Values

/-! ## Coordinates and their values -/

open Number (exact)

variable {a b : Word Float} {words : List (Word Float)} {tolerance : Float}

/-- No distance between words is rounded across the tolerance. -/
def IsExact (tolerance : Float) (words : List (Word Float)) : Prop :=
  forall a, a ∈ words -> forall b, b ∈ words ->
    (tolerance < distance a.top b.top
      ↔ exact tolerance < distance (exact a.top) (exact b.top))

theorem comesBefore_exact {a b : Place Float} (first : a.IsNumeric) (second : b.IsNumeric) :
    a.comesBefore b = (a.map exact).comesBefore (b.map exact) := by
  unfold Place.comesBefore
  simp only [Number.lt_iff_exact first.top second.top, Number.lt_iff_exact second.top first.top,
    Number.le_iff_exact first.left second.left]
  rfl

theorem isLeftOf_exact (first : a.place.IsNumeric) (second : b.place.IsNumeric) :
    a.isLeftOf b = (a.map exact).isLeftOf (b.map exact) := by
  unfold Word.isLeftOf
  simp only [Number.le_iff_exact (x := a.left) (y := b.left) first.left second.left]
  rfl

/-- Words make the same rows as their values if no distance is rounded across the tolerance. -/
theorem map_exact_ofWords (page : Int) (placed : forall word, word ∈ words -> word.place.IsNumeric)
    (unrounded : IsExact tolerance words) :
    (ofWords page tolerance words).map (WordRow.map exact)
      = ofWords page (exact tolerance) (words.map (Word.map exact)) := by
  refine map_ofWords page ⟨?_, ?_, ?_⟩
  · exact fun a listed b listedToo => comesBefore_exact (placed a listed) (placed b listedToo)
  · exact fun a listed b listedToo => isLeftOf_exact (placed a listed) (placed b listedToo)
  · intro a listed b listedToo
    unfold sameHeight
    simp only [unrounded b listedToo a listed]
    rfl

end Values

end WordRow
end DegreeAudit
