import DegreeAudit.Proofs.Text.Split
import DegreeAudit.Transcript.Cells
import Mathlib.Data.List.Chain
import Mathlib.Tactic.MkIffOfInductiveProp

namespace DegreeAudit
namespace Transcript

/-!
# Lines and cells of a table

A text is read line by line, so two texts with a line feed between them are read one after the
other.  Lines that need no cleaning come back as they were written, and so do the cells of a line
that has tabs between them.
-/

/-- A line as it is read: nothing of it is left out or replaced, and it is not blank. -/
@[mk_iff]
structure IsLine (line : List Char) : Prop where
  present : line ≠ []
  trimmed : Text.trim line = line
  noFeed : '\n' ∉ line
  noReturn : '\r' ∉ line
  noBreaking : Char.ofNat 0xA0 ∉ line
  noWide : Char.ofNat 0x3000 ∉ line

/-- A cell of a line that is cut at tabs. -/
@[mk_iff]
structure IsCell (cell : List Char) : Prop extends IsLine cell where
  noTab : '\t' ∉ cell

instance (line : List Char) : Decidable (IsLine line) :=
  decidable_of_iff _ (isLine_iff line).symm

instance (cell : List Char) : Decidable (IsCell cell) :=
  decidable_of_iff _ (isCell_iff cell).symm

section Lines

/-! ## Lines -/

variable {text line : List Char}

theorem plainSpaces_append (first second : List Char) :
    plainSpaces (first ++ second) = plainSpaces first ++ plainSpaces second :=
  List.map_append

theorem plainSpaces_of_plain (plain : forall c, c ∈ text -> isSpaceLike c = false) :
    plainSpaces text = text := by
  refine (List.map_congr_left ?_).trans (List.map_id text)
  intro c member
  simp [plain c member]

/-- A text has none of the spaces to replace if it has neither of the two. -/
theorem plain_of_not_mem (noBreaking : Char.ofNat 0xA0 ∉ text) (noWide : Char.ofNat 0x3000 ∉ text) :
    forall c, c ∈ text -> isSpaceLike c = false := by
  intro c member
  rw [Bool.eq_false_iff]
  intro replaced
  simp only [isSpaceLike, Bool.or_eq_true, beq_iff_eq] at replaced
  rw [← Char.ofNat_toNat c] at member
  rcases replaced with same | same
  · rw [same] at member
    exact noBreaking member
  · rw [same] at member
    exact noWide member

/-- Two texts with a line feed between them have the lines of the first and those of the second. -/
theorem lines_append (first second : List Char) :
    lines (first ++ '\n' :: second) = lines first ++ lines second := by
  have feed : plainSpaces ('\n' :: second) = '\n' :: plainSpaces second := by
    simp [plainSpaces, isSpaceLike]
  simp only [lines, plainSpaces_append, feed, List.filter_append]
  rw [List.filter_cons_of_pos (by decide), Text.splitOn_append, List.map_append,
    List.filter_append]

theorem IsLine.lines_eq (isLine : IsLine line) : lines line = [line] := by
  have kept : (line.filter fun c => c != '\r') = line := by
    apply List.filter_eq_self.mpr
    intro c member
    rw [bne_iff_ne]
    rintro rfl
    exact isLine.noReturn member
  have plain := plain_of_not_mem isLine.noBreaking isLine.noWide
  simp only [lines]
  rw [plainSpaces_of_plain plain, kept, Text.splitOn_of_not_mem isLine.noFeed]
  simp [isLine.trimmed, isLine.present]

/-- Lines that are joined are read one by one. -/
theorem lines_join {table : List (List Char)} (all : forall line, line ∈ table -> IsLine line) :
    lines (Text.join ['\n'] table) = table := by
  induction table with
  | nil => rfl
  | cons line table inductionHypothesis =>
      have first := (all line List.mem_cons_self).lines_eq
      have later := inductionHypothesis fun other member =>
        all other (List.mem_cons_of_mem line member)
      cases table with
      | nil => exact first
      | cons next others =>
          simp only [Text.join, List.append_assoc, List.singleton_append]
          rw [lines_append, first, later, List.singleton_append]

end Lines

section Cells

/-! ## Cells -/

/-- A text without any blank is a cell. -/
theorem isCell_of_noBlank {cell : List Char} (present : cell ≠ [])
    (visible : forall c, c ∈ cell -> Text.isBlank c = false) : IsCell cell := by
  have absent {c : Char} (blank : Text.isBlank c = true) : c ∉ cell := by
    intro member
    rw [visible c member] at blank
    exact Bool.false_ne_true blank
  exact {
    present
    trimmed := Text.trim_of_noBlank visible
    noFeed := absent (by decide)
    noReturn := absent (by decide)
    noBreaking := absent (by decide)
    noWide := absent (by decide)
    noTab := absent (by decide)
  }

variable {row : List (List Char)}

/-- Lines that are joined make a line, unless what stands between them breaks it. -/
theorem IsLine.join {between : List Char} (present : row ≠ [])
    (all : forall cell, cell ∈ row -> IsLine cell) (noFeed : '\n' ∉ between)
    (noReturn : '\r' ∉ between) (noBreaking : Char.ofNat 0xA0 ∉ between)
    (noWide : Char.ofNat 0x3000 ∉ between) : IsLine (Text.join between row) where
  present := Text.join_ne_nil present fun cell member => (all cell member).present
  trimmed := Text.trim_join (fun cell member => (all cell member).present)
    fun cell member => (all cell member).trimmed
  noFeed := Text.not_mem_join noFeed fun cell member => (all cell member).noFeed
  noReturn := Text.not_mem_join noReturn fun cell member => (all cell member).noReturn
  noBreaking := Text.not_mem_join noBreaking fun cell member => (all cell member).noBreaking
  noWide := Text.not_mem_join noWide fun cell member => (all cell member).noWide

/-- Cells that are joined by tabs make a line. -/
theorem isLine_join (present : row ≠ []) (all : forall cell, cell ∈ row -> IsCell cell) :
    IsLine (Text.join ['\t'] row) :=
  .join present (fun cell member => (all cell member).toIsLine) (by decide) (by decide)
    (by decide) (by decide)

/-- The cells of a line that is joined by tabs, of two or more. -/
theorem cells_join {first second : List Char} {others : List (List Char)}
    (all : forall cell, cell ∈ first :: second :: others -> IsCell cell) :
    cells (Text.join ['\t'] (first :: second :: others)) = first :: second :: others := by
  have tabbed : (Text.join ['\t'] (first :: second :: others)).contains '\t' = true := by
    simp [Text.join]
  have cut := Text.splitOn_join (List.cons_ne_nil first (second :: others))
    fun cell member => (all cell member).noTab
  have trimmed : (first :: second :: others).map Text.trim = first :: second :: others :=
    (List.map_congr_left fun cell member => (all cell member).trimmed).trans (List.map_id _)
  simp only [cells]
  rw [tabbed, if_pos rfl, cut, trimmed]
  apply List.filter_eq_self.mpr
  intro cell member
  simp [(all cell member).present]

end Cells

section Words

/-! ## Cells of several words -/

/-- A text without blanks. -/
structure IsWord (word : List Char) : Prop where
  present : word ≠ []
  visible : forall c, c ∈ word -> Text.isBlank c = false

/-- A text in which no two blanks stand together, so that it is not cut where there are no tabs. -/
def IsNarrow (text : List Char) : Prop :=
  text.IsChain fun c d => Text.isBlank c = false ∨ Text.isBlank d = false

variable {text : List Char} {words row : List (List Char)}

theorem splitWide_of_isNarrow (narrow : IsNarrow text) : splitWide text = [text] := by
  fun_induction splitWide text with
  | case1 => rfl
  | case2 c => rfl
  | case3 c d rest wide _ =>
      have apart := (List.isChain_cons_cons.mp narrow).1
      rw [Bool.and_eq_true] at wide
      rw [wide.1, wide.2] at apart
      simp at apart
  | case4 c d rest _ none inductionHypothesis =>
      rw [inductionHypothesis (List.isChain_cons_cons.mp narrow).2] at none
      cases none
  | case5 c d rest _ piece pieces cut inductionHypothesis =>
      rw [inductionHypothesis (List.isChain_cons_cons.mp narrow).2] at cut
      rcases List.cons.inj cut with ⟨rfl, rfl⟩
      rfl

theorem isNarrow_of_noBlank (visible : forall c, c ∈ text -> Text.isBlank c = false) :
    IsNarrow text := by
  induction text with
  | nil => exact List.isChain_nil
  | cons c rest inductionHypothesis =>
      refine List.isChain_cons.mpr ⟨fun _ _ => Or.inl (visible c List.mem_cons_self), ?_⟩
      exact inductionHypothesis fun d member => visible d (List.mem_cons_of_mem c member)

/-- Words with single spaces between them have no two blanks together. -/
theorem isNarrow_join (all : forall word, word ∈ words -> IsWord word) :
    IsNarrow (Text.join [' '] words) := by
  induction words with
  | nil => exact List.isChain_nil
  | cons word words inductionHypothesis =>
      have first := all word List.mem_cons_self
      have later := inductionHypothesis fun other member =>
        all other (List.mem_cons_of_mem word member)
      cases words with
      | nil => exact isNarrow_of_noBlank first.visible
      | cons next others =>
          have second := all next (List.mem_cons_of_mem word List.mem_cons_self)
          simp only [Text.join, List.append_assoc, List.singleton_append]
          refine List.isChain_append.mpr ⟨isNarrow_of_noBlank first.visible, ?_, ?_⟩
          · refine List.isChain_cons.mpr ⟨fun c begins => Or.inr ?_, later⟩
            rw [Text.head?_join second.present] at begins
            exact second.visible c (List.mem_of_mem_head? begins)
          · exact fun c ends _ _ => Or.inl (first.visible c (List.mem_of_mem_getLast? ends))

/-- Words with single spaces between them make a cell. -/
theorem isCell_join (present : words ≠ []) (all : forall word, word ∈ words -> IsWord word) :
    IsCell (Text.join [' '] words) := by
  have cell (word : List Char) (member : word ∈ words) : IsCell word :=
    isCell_of_noBlank (all word member).present (all word member).visible
  constructor
  · exact .join present (fun word member => (cell word member).toIsLine) (by decide) (by decide)
      (by decide) (by decide)
  · exact Text.not_mem_join (by decide) fun word member => (cell word member).noTab

/-- The cells of a line that is joined by tabs, if none of them would be cut without one. -/
theorem cells_join_of_narrow (present : row ≠ []) (all : forall cell, cell ∈ row -> IsCell cell)
    (narrow : forall cell, cell ∈ row -> IsNarrow cell) : cells (Text.join ['\t'] row) = row := by
  cases row with
  | nil => exact absurd rfl present
  | cons first others =>
      cases others with
      | cons second others => exact cells_join all
      | nil =>
          have cell := all first List.mem_cons_self
          have untabbed : ¬ first.contains '\t' = true := by
            rw [List.contains_iff_mem]
            exact cell.noTab
          change cells first = [first]
          unfold cells
          dsimp only
          rw [if_neg untabbed, splitWide_of_isNarrow (narrow first List.mem_cons_self)]
          simp [cell.trimmed, cell.present]

end Words

end Transcript
end DegreeAudit
