import DegreeAudit.Proofs.Page.Sorting
import Mathlib.Data.List.Chain
import Mathlib.Data.List.Flatten
import Mathlib.Data.List.TakeWhile
import Mathlib.Order.Defs.LinearOrder

namespace DegreeAudit

/-!
# Rows and the words they are made of

Words are sorted from the top down before they are gathered, so the first word of a row is the
highest one.  A row ends where a word stands lower than its first one by more than the tolerance; as
no later word stands higher, neighbouring rows are kept apart by more than that.  Each word comes
into one row.

The coordinates are exact here: they are ordered, and the difference of two is what it is.  Nothing
else is asked of differences but that words may stand at their own height.  The coordinates of a
document are exact if they are taken for their values.
-/

namespace WordRow

variable {κ : Type} [LinearOrder κ]

section Sorting

/-! ## Sorting -/

theorem pairwise_comesBefore (words : List (Word κ)) :
    (words.mergeSort Word.comesBefore).Pairwise fun a b => a.comesBefore b = true :=
  @List.pairwise_mergeSort _ Word.comesBefore (fun _ _ _ => Place.comesBefore_trans)
    (fun a b => Place.comesBefore_total a.place b.place) words

theorem pairwise_isLeftOf (words : List (Word κ)) :
    (words.mergeSort Word.isLeftOf).Pairwise fun a b => a.left ≤ b.left := by
  have transitive (a b c : Word κ) (first : a.isLeftOf b = true) (second : b.isLeftOf c = true) :
      a.isLeftOf c = true := by
    rw [Word.isLeftOf, decide_eq_true_eq] at first second ⊢
    exact first.trans second
  have total (a b : Word κ) : (a.isLeftOf b || b.isLeftOf a) = true := by
    rw [Word.isLeftOf, Word.isLeftOf, Bool.or_eq_true, decide_eq_true_eq, decide_eq_true_eq]
    exact le_total a.left b.left
  refine (List.pairwise_mergeSort transitive total words).imp fun ordered => ?_
  rwa [Word.isLeftOf, decide_eq_true_eq] at ordered

end Sorting

variable [Sub κ]

/-- What a row is that words have been gathered into. -/
structure IsLevel (page : Int) (tolerance : κ) (row : WordRow κ) : Prop where
  present : row.words ≠ []
  page : row.page = page
  /-- Words go from left to right. -/
  sorted : row.words.Pairwise fun a b => a.left ≤ b.left
  /-- A row stands at the height of the highest of its words. -/
  highest : ∃ word, word ∈ row.words ∧ word.top = row.y
  below : forall word, word ∈ row.words -> row.y ≤ word.top
  within : forall word, word ∈ row.words -> word.top - row.y ≤ tolerance

/-- What rows are that words have been gathered into. -/
structure Groups (page : Int) (tolerance : κ) (words : List (Word κ)) (rows : List (WordRow κ)) :
    Prop where
  /-- Each word is in one of the rows, as often as it is on the page. -/
  words : (rows.flatMap fun row => row.words).Perm words
  level : forall row, row ∈ rows -> row.IsLevel page tolerance
  /-- Each row stands lower than the one before it, by more than the tolerance. -/
  apart : rows.IsChain fun row next => row.y < next.y ∧ tolerance < next.y - row.y

section Gathering

/-! ## Gathering -/

variable {page : Int} {tolerance : κ} {first word : Word κ} {words : List (Word κ)}

/-- How far a word is from one that does not stand lower. -/
theorem distance_of_le {y top : κ} (below : y ≤ top) : distance top y = top - y := by
  unfold distance
  split
  · rename_i above
    rw [le_antisymm below above]
  · rfl

theorem sameHeight_iff (below : first.top ≤ word.top) :
    sameHeight tolerance first word = true ↔ word.top - first.top ≤ tolerance := by
  unfold sameHeight
  rw [distance_of_le below, Bool.not_eq_true', decide_eq_false_iff_not, not_lt]

/-- The row of a word and those that stand at its height. -/
def rowAt (page : Int) (tolerance : κ) (first : Word κ) (words : List (Word κ)) : WordRow κ where
  page
  y := first.top
  words := (first :: words.takeWhile (sameHeight tolerance first)).mergeSort Word.isLeftOf

/-- The words at the height of the first make a row, and those after them make the others. -/
theorem ofSorted_cons (page : Int) (tolerance : κ) (first : Word κ) (words : List (Word κ)) :
    ofSorted page tolerance (first :: words)
      = rowAt page tolerance first words
        :: ofSorted page tolerance (words.dropWhile (sameHeight tolerance first)) := by
  rw [ofSorted, gather]
  rfl

/-- The first row stands at the height of the first word. -/
theorem head?_ofSorted (page : Int) (tolerance : κ) (words : List (Word κ)) :
    (ofSorted page tolerance words).head?.map y = words.head?.map Word.top := by
  cases words with
  | nil =>
      rw [ofSorted, gather]
      rfl
  | cons first words => rw [ofSorted_cons]; rfl

theorem isLevel_rowAt (below : forall word, word ∈ words -> first.top ≤ word.top)
    (own : first.top - first.top ≤ tolerance) :
    (rowAt page tolerance first words).IsLevel page tolerance where
  present empty := by
    have nothing := congrArg List.length empty
    rw [rowAt, List.length_mergeSort] at nothing
    cases nothing
  page := rfl
  sorted := pairwise_isLeftOf _
  highest := ⟨first, List.mem_mergeSort.mpr List.mem_cons_self, rfl⟩
  below word member := by
    rcases List.mem_cons.mp (List.mem_mergeSort.mp member) with rfl | inside
    · exact le_refl _
    · exact below word (List.takeWhile_subset _ inside)
  within word member := by
    rcases List.mem_cons.mp (List.mem_mergeSort.mp member) with rfl | inside
    · exact own
    · exact (sameHeight_iff (below word (List.takeWhile_subset _ inside))).mp
        (List.mem_takeWhile_imp inside)

/-- The word after a row stands lower than the row, by more than the tolerance. -/
theorem apart_of_head?_dropWhile (below : forall word, word ∈ words -> first.top ≤ word.top)
    (own : first.top - first.top ≤ tolerance)
    (next : (words.dropWhile (sameHeight tolerance first)).head? = some word) :
    first.top < word.top ∧ tolerance < word.top - first.top := by
  have under := below word ((List.dropWhile_suffix _).subset (List.mem_of_mem_head? next))
  have beyond : tolerance < word.top - first.top := by
    rw [<- not_le, <- sameHeight_iff under, Bool.not_eq_true]
    simpa [next] using List.head?_dropWhile_not (sameHeight tolerance first) words
  refine ⟨lt_of_le_of_ne under fun same => ?_, beyond⟩
  rw [<- same] at beyond
  exact not_lt_of_ge own beyond

/-- Sorted words are gathered into rows. -/
theorem groups_ofSorted (sorted : words.Pairwise fun a b => a.top ≤ b.top)
    (own : forall word, word ∈ words -> word.top - word.top ≤ tolerance) :
    Groups page tolerance words (ofSorted page tolerance words) := by
  fun_induction gather tolerance words with
  | case1 =>
      rw [ofSorted, gather]
      exact ⟨List.Perm.nil, List.forall_mem_nil _, List.IsChain.nil⟩
  | case2 first words inductionHypothesis =>
      rcases List.pairwise_cons.mp sorted with ⟨below, sorted⟩
      rcases List.forall_mem_cons.mp own with ⟨ownFirst, own⟩
      have later := List.dropWhile_suffix (l := words) (sameHeight tolerance first)
      have others := inductionHypothesis (sorted.sublist later.sublist)
        fun word member => own word (later.subset member)
      rw [ofSorted_cons]
      refine ⟨?_, ?_, ?_⟩
      · rw [List.flatMap_cons]
        refine ((List.mergeSort_perm _ _).append others.words).trans (List.Perm.of_eq ?_)
        rw [List.cons_append, List.takeWhile_append_dropWhile]
      · rw [List.forall_mem_cons]
        exact ⟨isLevel_rowAt below ownFirst, others.level⟩
      · rw [List.isChain_cons]
        refine ⟨fun row listed => ?_, others.apart⟩
        have heights := head?_ofSorted page tolerance (words.dropWhile (sameHeight tolerance first))
        rw [listed, Option.map_some, eq_comm, Option.map_eq_some_iff] at heights
        rcases heights with ⟨word, next, height⟩
        rw [<- height]
        exact apart_of_head?_dropWhile below ownFirst next

theorem Groups.of_perm {rows : List (WordRow κ)} {others : List (Word κ)}
    (groups : Groups page tolerance words rows) (moved : words.Perm others) :
    Groups page tolerance others rows :=
  { groups with words := groups.words.trans moved }

/-- The words on a page are gathered into rows, in whatever order they are given. -/
theorem groups_ofWords (page : Int)
    (own : forall word, word ∈ words -> word.top - word.top ≤ tolerance) :
    Groups page tolerance words (ofWords page tolerance words) := by
  have sorted := (pairwise_comesBefore words).imp fun ordered =>
    (Place.comesBefore_iff.mp ordered).elim le_of_lt fun same => same.1.le
  refine (groups_ofSorted sorted fun word member => ?_).of_perm (List.mergeSort_perm _ _)
  exact own word (List.mem_mergeSort.mp member)

end Gathering

section Documents

/-! ## Words of a document -/

open Number (exact)

/-- A word of a document stands at a finite place.  What is not given has a fallback. -/
def HasFinitePlace (json : Json) : Prop :=
  ∃ word, Word.Describes json word ∧ word.top.isFinite = true ∧ word.left.isFinite = true

variable {words : List Json} {read : List (Word Float)} {word : Word Float} {tolerance : Float}

theorem isFinite_of_mem_readAll (finite : forall json, json ∈ words -> HasFinitePlace json)
    (done : Word.readAll words = .ok read) (member : word ∈ read) :
    word.top.isFinite = true ∧ word.left.isFinite = true := by
  rcases Word.exists_of_mem_readAll done member with ⟨json, given, here⟩
  have describes := (Word.describes_of_read? here).2
  rcases finite json given with ⟨other, describesToo, place⟩
  rwa [describes.unique describesToo]

/-- A finite word is at its own height. -/
theorem sub_self_exact (nonneg : 0 <= tolerance) {y : Float} (finite : y.isFinite = true) :
    exact y - exact y ≤ exact tolerance := by
  have zero : (0 : Float).isNaN = false := by decide
  rw [Number.exact_of_isFinite finite, EReal.sub_self (EReal.coe_ne_top _) (EReal.coe_ne_bot _),
    <- Number.exact_zero, <- Number.le_iff_exact zero (Number.isNaN_of_nonneg nonneg)]
  exact nonneg

theorem isNumeric_of_hasFinitePlace {json : Json} (finite : HasFinitePlace json)
    {placed : PlacedWord} (read : PlacedWord.ofEntry json = .ok placed) :
    placed.toPlace.IsNumeric := by
  rcases finite with ⟨word, describes, top, left⟩
  rcases Except.ok.inj (describes.ofEntry.symm.trans read) with rfl
  exact ⟨Number.isNaN_of_isFinite top, Number.isNaN_of_isFinite left⟩

/-- The words of a document that stand at finite places are read, all that say something and each
once, and put into rows as if there were no others.  Their values are gathered into rows, and the
rows of the document have these values if no distance is rounded across the tolerance. -/
theorem groups_readAll (finite : forall json, json ∈ words -> HasFinitePlace json)
    (nonneg : 0 <= tolerance) (page : Int) :
    ∃ read, Word.readAll words = .ok read
      ∧ List.Forall₂ Word.Describes (words.filter Word.isVisible) read
      ∧ ofDocument page tolerance words = .ok (ofWords page tolerance read)
      ∧ Groups page (exact tolerance) (read.map (Word.map exact))
          (ofWords page (exact tolerance) (read.map (Word.map exact)))
      ∧ (IsExact tolerance read ->
          (ofWords page tolerance read).map (WordRow.map exact)
            = ofWords page (exact tolerance) (read.map (Word.map exact))) := by
  have readable : forall json, json ∈ words -> ∃ found, Word.read? json = .ok found := by
    intro json given
    rcases finite json given with ⟨word, describes, _⟩
    exact Word.exists_read?_of_describes describes
  rcases Word.exists_readAll_iff.mpr readable with ⟨read, done⟩
  have rows := @ofDocument_eq_ofWords words read page tolerance
    (fun json given _ => isNumeric_of_hasFinitePlace (finite json given)) done
  refine ⟨read, done, Word.describes_of_readAll done, rows, groups_ofWords page ?_, ?_⟩
  · intro word member
    rcases List.mem_map.mp member with ⟨given, listed, rfl⟩
    exact sub_self_exact nonneg (isFinite_of_mem_readAll finite done listed).1
  · refine map_exact_ofWords page fun word listed => ?_
    have place := isFinite_of_mem_readAll finite done listed
    exact ⟨Number.isNaN_of_isFinite place.1, Number.isNaN_of_isFinite place.2⟩

/-- Real coordinates are as far apart as their difference says. -/
theorem distance_coe (a b : ℝ) : distance (a : EReal) b = (|a - b| : ℝ) := by
  unfold distance
  split
  · rename_i below
    have ordered := EReal.coe_le_coe_iff.mp below
    rw [abs_sub_comm, abs_of_nonneg (sub_nonneg.mpr ordered), EReal.coe_sub]
  · rename_i above
    have ordered := EReal.coe_lt_coe_iff.mp (not_le.mp above)
    rw [abs_of_pos (sub_pos.mpr ordered), EReal.coe_sub]

/-- Words out of their order: one has no right end, one no text, and one a left end that is written
as a text. -/
def looseWords : List Json :=
  [
    .object [("text", .string "End"), ("top", .int 700)],
    .object [("text", .string "Calculus"), ("x0", .int 60), ("x1", .int 100), ("top", .int 60)],
    .object [("text", .string " "), ("x0", .null), ("top", .int 65)],
    .object [("text", .string " BS101 "), ("x0", .string "10"), ("top", .int 60)]
  ]

theorem hasFinitePlace_looseWords : forall json, json ∈ looseWords -> HasFinitePlace json := by
  simp only [looseWords, List.forall_mem_cons]
  refine ⟨⟨⟨"End", 0, 0, 700, 700 + Word.usualHeight⟩, ?_, ?_⟩,
    ⟨⟨"Calculus", 60, 100, 60, 60 + Word.usualHeight⟩, ?_, ?_⟩,
    ⟨⟨"", 0, 0, 65, 65 + Word.usualHeight⟩, ?_, ?_⟩,
    ⟨⟨"BS101", 10, 10, 60, 60 + Word.usualHeight⟩, ?_, ?_⟩, List.forall_mem_nil _⟩
  all_goals first | exact ⟨by decide, by decide⟩ | exact ⟨by decide, rfl, rfl, rfl, rfl⟩

/-- The heights of these words are whole numbers, and so are their distances. -/
theorem isExact_looseWords {read : List (Word Float)} (done : Word.readAll looseWords = .ok read) :
    IsExact 3 read := by
  have three : exact 3 = (3 : ℝ) := by
    have shape : Number.parts 3 = .finite .positive 6755399441055744 (-51) (by decide) := rfl
    rw [Number.exact_of_parts shape]
    norm_num
  have sixty : exact 60 = (60 : ℝ) := by
    have shape : Number.parts 60 = .finite .positive 8444249301319680 (-47) (by decide) := rfl
    rw [Number.exact_of_parts shape]
    norm_num
  have sevenHundred : exact 700 = (700 : ℝ) := by
    have shape : Number.parts 700 = .finite .positive 6157265115545600 (-43) (by decide) := rfl
    rw [Number.exact_of_parts shape]
    norm_num
  have heights : forall word, word ∈ read -> word.top = 60 ∨ word.top = 700 := by
    rcases Except.ok.inj done with rfl
    decide
  intro a listed b listedToo
  rcases heights a listed with upper | upper
  all_goals
    rcases heights b listedToo with lower | lower
    all_goals
      simp only [upper, lower, three, sixty, sevenHundred, distance_coe, EReal.coe_lt_coe_iff]
      first
      | exact iff_of_true (by decide) (by norm_num)
      | exact iff_of_false (by decide) (by norm_num)

theorem groups_readAll_looseWords :
    (forall json, json ∈ looseWords -> HasFinitePlace json)
      ∧ (0 : Float) <= 3
      ∧ ∃ read, Word.readAll looseWords = .ok read
        ∧ List.Forall₂ Word.Describes (looseWords.filter Word.isVisible) read
        ∧ ofDocument 1 3 looseWords = .ok (ofWords 1 3 read)
        ∧ Groups 1 (exact 3) (read.map (Word.map exact))
            (ofWords 1 (exact 3) (read.map (Word.map exact)))
        ∧ (ofWords 1 3 read).map (WordRow.map exact)
            = ofWords 1 (exact 3) (read.map (Word.map exact)) := by
  have nonneg : (0 : Float) <= 3 := by decide
  rcases groups_readAll hasFinitePlace_looseWords nonneg 1 with
    ⟨read, done, described, rows, groups, values⟩
  exact ⟨hasFinitePlace_looseWords, nonneg, read, done, described, rows, groups,
    values (isExact_looseWords done)⟩

end Documents

end WordRow
end DegreeAudit
