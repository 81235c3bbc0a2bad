import DegreeAudit.Page.Row
import DegreeAudit.Proofs.Number.Exact
import DegreeAudit.Proofs.Text.Split
import Mathlib.Data.List.SplitBy
import Mathlib.Order.Basic

namespace DegreeAudit

/-!
# Cells at different gaps

A row is cut where the gap between neighbours is too wide.  Where it is cut at a wide gap it is also
cut at a narrow one, so the cells of a wide gap are runs of those of a narrow gap, with a space in
place of each cut.  At no gap is a word lost, repeated or moved.

All that is asked of the coordinates is that gaps are compared as they should be: what is less than
a gap is less than a wider one.  Of the numbers of documents this is true without any condition, for
the difference of two coordinates is rounded, if at all, before it is compared with either gap.
-/

section Runs

/-! ## Runs of runs -/

variable {α : Type} {finer coarser : α -> α -> Bool}

theorem splitBy_flatten_of_apart
    (implied : forall a b, finer a b = true -> coarser a b = true) {groups : List (List α)}
    (apart : groups.IsChain fun before after =>
      ∃ (ends : before ≠ []) (begins : after ≠ []),
        coarser (before.getLast ends) (after.head begins) = false) :
    groups.flatten.splitBy finer = (groups.map (List.splitBy finer)).flatten := by
  induction groups with
  | nil => rfl
  | cons group groups inductionHypothesis =>
      rw [List.flatten_cons, List.map_cons, List.flatten_cons, <- inductionHypothesis apart.tail]
      apply List.splitBy_append
      intro last ends first begins
      cases groups with
      | nil => cases begins
      | cons next others =>
          rcases (List.isChain_cons_cons.mp apart).1 with ⟨present, presentNext, cut⟩
          rw [List.flatten_cons, List.head?_append_of_ne_nil next presentNext] at begins
          rw [List.getLast_of_mem_getLast? ends, List.head_of_mem_head? begins] at cut
          rw [Bool.eq_false_iff] at cut ⊢
          exact fun together => cut (implied last first together)

/-- Runs under a condition are runs of those under a stronger one. -/
theorem splitBy_eq_flatten (implied : forall a b, finer a b = true -> coarser a b = true)
    (items : List α) :
    items.splitBy finer = ((items.splitBy coarser).map (List.splitBy finer)).flatten := by
  have runs := splitBy_flatten_of_apart implied (List.isChain_getLast_head_splitBy coarser items)
  rwa [List.flatten_splitBy] at runs

end Runs

namespace WordRow

variable {κ : Type}

/-- The text of words that stand in one cell. -/
def cellText (words : List (Word κ)) : String :=
  Text.joinStrings " " (words.map fun word => word.text)

/-- The text of words does not change if some of them are put together before. -/
theorem joinStrings_cellText {groups : List (List (Word κ))}
    (filled : forall group, group ∈ groups -> group ≠ []) :
    Text.joinStrings " " (groups.map cellText) = cellText groups.flatten := by
  have texts : (groups.map cellText).map String.toList
      = (groups.map (List.map fun word => word.text.toList)).map (Text.join " ".toList) := by
    rw [List.map_map, List.map_map]
    apply List.map_congr_left
    intro group _
    simp [cellText, Text.joinStrings, Function.comp_def]
  have present : forall texts, texts ∈ groups.map (List.map fun word => word.text.toList) ->
      texts ≠ [] := by
    intro texts member
    rcases List.mem_map.mp member with ⟨group, listed, rfl⟩
    rw [ne_eq, List.map_eq_nil_iff]
    exact filled group listed
  rw [Text.joinStrings, texts, Text.join_map_join present, <- List.map_flatten, cellText,
    Text.joinStrings, List.map_map]
  rfl

variable [Sub κ]

theorem cells_eq [LT κ] [DecidableLT κ] (gap : κ) (row : WordRow κ) :
    row.cells gap = (row.words.splitBy (sameCell gap)).map cellText :=
  rfl

variable [LE κ] [LT κ] [DecidableLT κ]
  [Trans (LE.le : κ -> κ -> Prop) (LT.lt : κ -> κ -> Prop) (LT.lt : κ -> κ -> Prop)]
  {narrow wide : κ}

/-- Neighbours in one cell stay together if gaps may be wider. -/
theorem sameCell_of_wider (wider : narrow ≤ wide) (a b : Word κ)
    (together : sameCell narrow a b = true) : sameCell wide a b = true := by
  unfold sameCell at together ⊢
  rw [Bool.not_eq_true', decide_eq_false_iff_not] at together ⊢
  exact fun beyond => together (Trans.trans wider beyond)

/-- The cells of a row at a wide gap are those at a narrow one, joined by single spaces where they
are not kept apart.  Whatever the gap is, the cells have the words of the row in their order. -/
theorem cells_of_wider (wider : narrow ≤ wide) (row : WordRow κ) :
    (∃ runs : List (List String), runs.flatten = row.cells narrow
      ∧ (forall run, run ∈ runs -> run ≠ [])
      ∧ row.cells wide = runs.map (Text.joinStrings " "))
    ∧ forall gap, Text.joinStrings " " (row.cells gap)
      = Text.joinStrings " " (row.words.map fun word => word.text) := by
  constructor
  · refine ⟨(row.words.splitBy (sameCell wide)).map
      fun words => (words.splitBy (sameCell narrow)).map cellText, ?_, ?_, ?_⟩
    · rw [cells_eq, splitBy_eq_flatten (sameCell_of_wider wider), List.map_flatten, List.map_map]
      rfl
    · intro run member
      rcases List.mem_map.mp member with ⟨words, together, rfl⟩
      rw [ne_eq, List.map_eq_nil_iff, List.splitBy_eq_nil]
      exact List.ne_nil_of_mem_splitBy together
    · rw [cells_eq, List.map_map]
      apply List.map_congr_left
      intro words _
      rw [Function.comp_apply, joinStrings_cellText fun _ => List.ne_nil_of_mem_splitBy,
        List.flatten_splitBy]
  · intro gap
    rw [cells_eq, joinStrings_cellText fun _ => List.ne_nil_of_mem_splitBy, List.flatten_splitBy]
    rfl

/-- Words that overlap, stand apart and stand far apart. -/
def spacedRow : WordRow Float where
  page := 1
  y := 10
  words :=
    [
      ⟨"BS101", 10, 45, 10, 18⟩, ⟨"Calculus", 40, 90, 10, 18⟩, ⟨"1", 93.5, 97, 11, 18⟩,
      ⟨"3.0", 110, 120, 10, 18⟩
    ]

theorem cells_of_wider_spacedRow :
    (-6 : Float) ≤ usualGap
      ∧ (∃ runs : List (List String), runs.flatten = spacedRow.cells (-6)
        ∧ (forall run, run ∈ runs -> run ≠ [])
        ∧ spacedRow.cells usualGap = runs.map (Text.joinStrings " "))
      ∧ Text.joinStrings " " (spacedRow.cells usualGap)
        = Text.joinStrings " " (spacedRow.words.map fun word => word.text) := by
  have wider : (-6 : Float) ≤ usualGap := by decide +kernel
  have joined := cells_of_wider wider spacedRow
  exact ⟨wider, joined.1, joined.2 usualGap⟩

example : spacedRow.cells (-6) = ["BS101", "Calculus", "1", "3.0"]
    ∧ spacedRow.cells usualGap = ["BS101 Calculus 1", "3.0"] := by
  decide

end WordRow
end DegreeAudit
