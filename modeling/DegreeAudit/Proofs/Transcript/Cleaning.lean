import DegreeAudit.Proofs.Transcript.Reading

namespace DegreeAudit
namespace Transcript

/-!
# Lines and cells of any text

Whatever a text holds, what is read of it is clean: no line and no cell holds anything that would
be left out, replaced or cut if it were read again, and nothing that is seen is lost on the way.
Tabs come before runs of blanks when a line is cut, so it matters that a line with a tab has two
cells at least: a line that is written anew with tabs between its cells has a tab just if there are
several of them, and if there is one, it has nowhere two blanks together.  So every text has a form
with tabs between cells and line feeds between lines that is read as the text is.
-/

section AnyText

/-! ## Lines of any text -/

variable {text line : List Char}

theorem isSpaceLike_of_mem_plainSpaces {c : Char} (member : c ∈ plainSpaces text) :
    isSpaceLike c = false := by
  rcases List.mem_map.mp member with ⟨other, _, rfl⟩
  by_cases replaced : isSpaceLike other = true
  · rw [if_pos replaced]
    rfl
  · rw [if_neg replaced]
    exact Bool.eq_false_iff.mpr replaced

/-- Whatever a text holds, its lines need no more cleaning. -/
theorem isLine_of_mem_lines (member : line ∈ lines text) : IsLine line := by
  rcases List.mem_filter.mp member with ⟨trimmed, something⟩
  rcases List.mem_map.mp trimmed with ⟨raw, cut, rfl⟩
  have kept (c : Char) (inside : c ∈ Text.trim raw) :
      (c ∈ plainSpaces text ∧ c ≠ '\r') ∧ c ≠ '\n' := by
    have left := Text.mem_of_mem_splitOn cut (Text.mem_of_mem_trim inside)
    rwa [List.mem_filter, bne_iff_ne] at left
  have noSpaceLike {c : Char} (spaceLike : isSpaceLike c = true) : c ∉ Text.trim raw := by
    intro inside
    rw [isSpaceLike_of_mem_plainSpaces (kept c inside).1.1] at spaceLike
    exact Bool.false_ne_true spaceLike
  exact {
    present := by simpa using something
    trimmed := Text.trim_trim raw
    noFeed := fun inside => (kept _ inside).2 rfl
    noReturn := fun inside => (kept _ inside).1.2 rfl
    noBreaking := noSpaceLike (by decide)
    noWide := noSpaceLike (by decide)
  }

/-- A character as it is read. -/
def plainSpace (c : Char) : Char :=
  if isSpaceLike c then ' ' else c

theorem plainSpaces_eq (text : List Char) : plainSpaces text = text.map plainSpace :=
  rfl

/-- Only spaces come of other characters. -/
theorem plainSpace_eq_iff {mark : Char} (usual : isSpaceLike mark = false) (noSpace : mark ≠ ' ')
    (c : Char) : plainSpace c = mark ↔ c = mark := by
  unfold plainSpace
  split
  · rename_i replaced
    refine iff_of_false (Ne.symm noSpace) ?_
    rintro rfl
    exact Bool.false_ne_true (usual.symm.trans replaced)
  · exact Iff.rfl

/-- A space is as blank as what it replaces. -/
theorem isBlank_plainSpace (c : Char) : Text.isBlank (plainSpace c) = Text.isBlank c := by
  unfold plainSpace
  split
  · rename_i replaced
    simp only [isSpaceLike, Bool.or_eq_true, beq_iff_eq] at replaced
    unfold Text.isBlank
    rcases replaced with same | same
    · rw [same]
      rfl
    · rw [same]
      rfl
  · rfl

theorem plainSpace_of_visible {c : Char} (seen : Text.isBlank c = false) : plainSpace c = c := by
  refine if_neg fun replaced => ?_
  have blank := isBlank_plainSpace c
  rw [plainSpace, if_pos replaced, seen] at blank
  exact Bool.noConfusion blank

theorem allBlank_plainSpaces (text : List Char) :
    Text.allBlank (plainSpaces text) = Text.allBlank text := by
  unfold Text.allBlank
  rw [plainSpaces_eq, List.all_map]
  exact congrArg text.all (funext isBlank_plainSpace)

/-- Spaces are replaced on each line for itself. -/
theorem splitOn_plainSpaces (text : List Char) :
    Text.splitOn '\n' (plainSpaces text) = (Text.splitOn '\n' text).map plainSpaces := by
  have letters : List.flatMap (fun c => [plainSpace c]) = plainSpaces :=
    funext fun text => List.map_eq_flatMap.symm
  rw [<- letters]
  refine Text.splitOn_flatMap (by decide) (fun c different member => different ?_) text
  exact (plainSpace_eq_iff (by decide) (by decide) c).mp (List.mem_singleton.mp member).symm

/-- There is a line for each piece between line feeds that is not blank. -/
theorem length_lines (text : List Char) :
    (lines text).length
      = (Text.splitOn '\n' (text.filter fun c => c != '\r')).countP fun piece =>
        !Text.allBlank piece := by
  have filtered : (plainSpaces text).filter (fun c => c != '\r')
      = plainSpaces (text.filter fun c => c != '\r') := by
    rw [plainSpaces_eq, plainSpaces_eq, List.filter_map]
    congr 1
    apply List.filter_congr
    intro c _
    rw [Function.comp_apply, Bool.eq_iff_iff, bne_iff_ne, bne_iff_ne]
    exact not_congr (plainSpace_eq_iff (by decide) (by decide) c)
  unfold lines
  rw [filtered, splitOn_plainSpaces, <- List.countP_eq_length_filter, List.countP_map,
    List.countP_map]
  apply List.countP_congr
  intro piece _
  rw [Function.comp_apply, Function.comp_apply, Text.isEmpty_trim, allBlank_plainSpaces]

end AnyText

section AnyLine

/-! ## Cells of any line -/

variable {text line cell : List Char}

/-- Whether a character is seen, which blanks are not. -/
def isVisible (c : Char) : Bool :=
  !Text.isBlank c

/-- The pieces that a line is cut into. -/
def piecesOf (line : List Char) : List (List Char) :=
  if line.contains '\t' then Text.splitOn '\t' line else splitWide line

/-- The cells that are left of pieces. -/
def cellsOf (pieces : List (List Char)) : List (List Char) :=
  (pieces.map Text.trim).filter fun cell => !cell.isEmpty

theorem cells_eq (line : List Char) : cells line = cellsOf (piecesOf line) :=
  rfl

theorem cellsOf_append (before after : List (List Char)) :
    cellsOf (before ++ after) = cellsOf before ++ cellsOf after := by
  unfold cellsOf
  rw [List.map_append, List.filter_append]

theorem filter_of_blank (blank : forall c, c ∈ text -> Text.isBlank c = true) :
    text.filter isVisible = [] := by
  rw [List.filter_eq_nil_iff]
  exact fun c member => by simp [isVisible, blank c member]

theorem filter_dropWhile_isBlank (text : List Char) :
    (text.dropWhile Text.isBlank).filter isVisible = text.filter isVisible := by
  have blank : (text.takeWhile Text.isBlank).filter isVisible = [] :=
    filter_of_blank fun c member => List.mem_takeWhile_imp member
  have both := congrArg (List.filter isVisible)
    (List.takeWhile_append_dropWhile (p := Text.isBlank) (l := text))
  rwa [List.filter_append, blank, List.nil_append] at both

/-- Nothing that is seen is lost where a line without tabs is cut. -/
theorem filter_flatten_splitWide (text : List Char) :
    (splitWide text).flatten.filter isVisible = text.filter isVisible := by
  fun_induction splitWide text with
  | case1 => rfl
  | case2 c => rfl
  | case3 c d rest wide inductionHypothesis =>
      rw [Bool.and_eq_true] at wide
      rw [List.flatten_cons, List.nil_append, inductionHypothesis, filter_dropWhile_isBlank,
        List.filter_cons_of_neg (by simp [isVisible, wide.1]),
        List.filter_cons_of_neg (by simp [isVisible, wide.2])]
  | case4 c d rest _ none inductionHypothesis =>
      rw [none] at inductionHypothesis
      rw [@List.filter_cons _ c (d :: rest), <- inductionHypothesis]
      exact List.filter_cons
  | case5 c d rest _ piece pieces cut inductionHypothesis =>
      rw [cut] at inductionHypothesis
      rw [List.flatten_cons, List.cons_append, List.filter_cons, <- List.flatten_cons,
        inductionHypothesis, <- List.filter_cons]

/-- Nothing comes in. -/
theorem flatten_splitWide_sublist (text : List Char) : (splitWide text).flatten.Sublist text := by
  fun_induction splitWide text with
  | case1 => exact List.Sublist.refl _
  | case2 c => exact List.Sublist.refl _
  | case3 c d rest _ inductionHypothesis =>
      exact (inductionHypothesis.trans (List.dropWhile_sublist _)).cons d |>.cons c
  | case4 c d rest _ none _ => exact (List.nil_sublist _).cons_cons c
  | case5 c d rest _ piece pieces cut inductionHypothesis =>
      rw [cut] at inductionHypothesis
      exact inductionHypothesis.cons_cons c

/-- A blank mark may be left out. -/
theorem filter_without_blank {mark : Char} (blank : Text.isBlank mark = true) (text : List Char) :
    (text.filter fun c => c != mark).filter isVisible = text.filter isVisible := by
  rw [List.filter_filter]
  apply List.filter_congr
  intro c _
  by_cases same : c = mark
  · subst same
    simp [isVisible, blank]
  · simp [same]

theorem filter_flatten_piecesOf (line : List Char) :
    (piecesOf line).flatten.filter isVisible = line.filter isVisible := by
  unfold piecesOf
  split
  · rw [Text.flatten_splitOn, filter_without_blank (by decide)]
  · exact filter_flatten_splitWide line

/-- What stands in a piece stands in the line, and it is no tab. -/
theorem mem_of_mem_piecesOf {piece : List Char} (member : piece ∈ piecesOf line) {c : Char}
    (inside : c ∈ piece) : c ∈ line ∧ c ≠ '\t' := by
  unfold piecesOf at member
  split at member
  · exact Text.mem_of_mem_splitOn member inside
  · rename_i untabbed
    have there := (flatten_splitWide_sublist line).subset
      (List.mem_flatten.mpr ⟨piece, member, inside⟩)
    refine ⟨there, ?_⟩
    rintro rfl
    exact untabbed (List.contains_iff_mem.mpr there)

/-- Whatever a line holds, its cells need no more cleaning. -/
theorem IsLine.isCell_of_mem_cells (isLine : IsLine line) (member : cell ∈ cells line) :
    IsCell cell := by
  rcases List.mem_filter.mp member with ⟨trimmed, something⟩
  rcases List.mem_map.mp trimmed with ⟨piece, cut, rfl⟩
  have kept (c : Char) (inside : c ∈ Text.trim piece) : c ∈ line ∧ c ≠ '\t' :=
    mem_of_mem_piecesOf cut (Text.mem_of_mem_trim inside)
  exact {
    present := by simpa using something
    trimmed := Text.trim_trim piece
    noFeed := fun inside => isLine.noFeed (kept _ inside).1
    noReturn := fun inside => isLine.noReturn (kept _ inside).1
    noBreaking := fun inside => isLine.noBreaking (kept _ inside).1
    noWide := fun inside => isLine.noWide (kept _ inside).1
    noTab := fun inside => (kept _ inside).2 rfl
  }

theorem cellsOf_ne_nil {pieces : List (List Char)}
    (visible : Text.allBlank pieces.flatten = false) : cellsOf pieces ≠ [] := by
  rcases Text.allBlank_eq_false_iff.mp visible with ⟨c, member, seen⟩
  rcases List.mem_flatten.mp member with ⟨piece, listed, inside⟩
  refine List.ne_nil_of_mem (a := Text.trim piece) (List.mem_filter.mpr ⟨?_, ?_⟩)
  · exact List.mem_map_of_mem listed
  · rw [Text.isEmpty_trim, Text.allBlank_eq_false_iff.mpr ⟨c, inside, seen⟩]
    rfl

/-- A text of which something is seen is not blank, and so it is with a text of which as much is
seen. -/
theorem allBlank_of_filter_eq {other : List Char}
    (same : text.filter isVisible = other.filter isVisible) :
    Text.allBlank text = Text.allBlank other := by
  have empty (text : List Char) : Text.allBlank text = (text.filter isVisible).isEmpty := by
    rw [Bool.eq_iff_iff, List.isEmpty_iff, List.filter_eq_nil_iff]
    simp [Text.allBlank, isVisible]
  rw [empty, empty, same]

theorem splitWide_cons_of_visible {c : Char} (seen : Text.isBlank c = false) (rest : List Char) :
    ∃ piece pieces, splitWide (c :: rest) = (c :: piece) :: pieces := by
  cases rest with
  | nil => exact ⟨[], [], by rw [splitWide]⟩
  | cons d rest =>
      rw [splitWide, seen, Bool.false_and, if_neg Bool.false_ne_true]
      split
      · exact ⟨[], [], rfl⟩
      · exact ⟨_, _, rfl⟩

/-- Where a text has two blanks together and does not end with one, something is seen after the
first piece. -/
theorem exists_splitWide_of_not_isNarrow (wide : ¬ IsNarrow text)
    (last : forall c, text.getLast? = some c -> Text.isBlank c = false) :
    ∃ piece pieces, splitWide text = piece :: pieces
      ∧ Text.allBlank pieces.flatten = false := by
  have later {c d : Char} {rest : List Char} (apart : ¬ (Text.isBlank c && Text.isBlank d) = true)
      (wide : ¬ IsNarrow (c :: d :: rest)) : ¬ IsNarrow (d :: rest) := by
    intro narrow
    refine wide (List.isChain_cons_cons.mpr ⟨?_, narrow⟩)
    rwa [Bool.not_eq_true, Bool.and_eq_false_iff] at apart
  fun_induction splitWide text with
  | case1 => exact absurd List.isChain_nil wide
  | case2 c => exact absurd (List.isChain_singleton c) wide
  | case3 c d rest together _ =>
      refine ⟨[], _, rfl, ?_⟩
      have seen := filter_flatten_splitWide (c :: d :: rest)
      rw [splitWide, if_pos together, List.flatten_cons, List.nil_append] at seen
      rw [allBlank_of_filter_eq seen, Text.allBlank_eq_false_iff]
      have ends := List.getLast?_eq_some_getLast (List.cons_ne_nil c (d :: rest))
      exact ⟨_, List.getLast_mem _, last _ ends⟩
  | case4 c d rest apart none inductionHypothesis =>
      rcases inductionHypothesis (later apart wide) last with ⟨piece, pieces, cut, _⟩
      cases none.symm.trans cut
  | case5 c d rest apart piece pieces cut inductionHypothesis =>
      rcases inductionHypothesis (later apart wide) last with ⟨first, others, also, seen⟩
      rcases List.cons.inj (cut.symm.trans also) with ⟨rfl, rfl⟩
      exact ⟨_, _, rfl, seen⟩

/-- Where a line is cut, something is seen on either side. -/
theorem IsLine.exists_parts (isLine : IsLine line) (cut : '\t' ∈ line ∨ ¬ IsNarrow line) :
    ∃ before after, piecesOf line = before ++ after
      ∧ Text.allBlank before.flatten = false ∧ Text.allBlank after.flatten = false := by
  rcases Text.trim_eq_self_iff.mp isLine.trimmed with ⟨first, last⟩
  by_cases tabbed : '\t' ∈ line
  · -- a tab is blank, so a line neither begins nor ends with one
    have tab : Text.isBlank '\t' = true := by decide
    have kept {c : Char} {part : List Char} (member : c ∈ part) (seen : Text.isBlank c = false) :
        Text.allBlank (Text.splitOn '\t' part).flatten = false := by
      rw [Text.flatten_splitOn, Text.allBlank_eq_false_iff]
      refine ⟨c, List.mem_filter.mpr ⟨member, bne_iff_ne.mpr ?_⟩, seen⟩
      rintro rfl
      exact Bool.noConfusion (tab.symm.trans seen)
    rcases List.append_of_mem tabbed with ⟨before, after, rfl⟩
    refine ⟨Text.splitOn '\t' before, Text.splitOn '\t' after, ?_, ?_, ?_⟩
    · rw [piecesOf, if_pos (List.contains_iff_mem.mpr tabbed), Text.splitOn_append]
    · cases before with
      | nil => exact Bool.noConfusion (tab.symm.trans (first '\t' rfl))
      | cons c before => exact kept List.mem_cons_self (first c rfl)
    · rcases List.eq_nil_or_concat' after with rfl | ⟨after, c, rfl⟩
      · exact Bool.noConfusion (tab.symm.trans (last '\t' List.getLast?_concat))
      · rw [<- List.cons_append, <- List.append_assoc, List.getLast?_concat] at last
        exact kept (List.mem_append_right _ (List.mem_singleton_self c)) (last c rfl)
  · rcases exists_splitWide_of_not_isNarrow (cut.resolve_left tabbed) last with
      ⟨piece, pieces, also, seen⟩
    refine ⟨[piece], pieces, ?_, ?_, seen⟩
    · rw [piecesOf, if_neg (fun contained => tabbed (List.contains_iff_mem.mp contained)), also]
      rfl
    · cases line with
      | nil => exact absurd rfl isLine.present
      | cons c rest =>
          rcases splitWide_cons_of_visible (first c rfl) rest with ⟨others, _, cutFirst⟩
          rcases List.cons.inj (also.symm.trans cutFirst) with ⟨rfl, _⟩
          rw [List.flatten_singleton, Text.allBlank_eq_false_iff]
          exact ⟨c, List.mem_cons_self, first c rfl⟩

/-- A line has a cell. -/
theorem IsLine.cells_ne_nil (isLine : IsLine line) : cells line ≠ [] := by
  rw [cells_eq]
  apply cellsOf_ne_nil
  rw [allBlank_of_filter_eq (filter_flatten_piecesOf line), <- Text.isEmpty_trim, isLine.trimmed,
    List.isEmpty_eq_false_iff]
  exact isLine.present

/-- A line with only one cell is that cell: it has no tab and nowhere two blanks together. -/
theorem IsLine.eq_of_cells_eq_singleton (isLine : IsLine line) (only : cells line = [cell]) :
    cell = line := by
  by_cases cut : '\t' ∈ line ∨ ¬ IsNarrow line
  · rcases isLine.exists_parts cut with ⟨before, after, parts, seenBefore, seenAfter⟩
    rw [cells_eq, parts, cellsOf_append] at only
    have countBefore := List.length_pos_iff.mpr (cellsOf_ne_nil seenBefore)
    have countAfter := List.length_pos_iff.mpr (cellsOf_ne_nil seenAfter)
    have count := congrArg List.length only
    rw [List.length_append, List.length_singleton] at count
    omega
  · rw [not_or, not_not] at cut
    have whole := cells_join_of_narrow (List.cons_ne_nil line [])
      (fun other member => List.mem_singleton.mp member ▸ ⟨isLine, cut.1⟩)
      (fun other member => List.mem_singleton.mp member ▸ cut.2)
    exact (List.singleton_inj.mp (whole.symm.trans only)).symm

end AnyLine

section Visible

/-! ## What is seen -/

variable {text : List Char}

theorem filter_trim (text : List Char) :
    (Text.trim text).filter isVisible = text.filter isVisible := by
  rcases Text.exists_trim text with ⟨before, after, surrounded, blankBefore, blankAfter⟩
  conv => rhs; rw [surrounded, List.filter_append, List.filter_append]
  rw [filter_of_blank blankBefore, filter_of_blank blankAfter, List.nil_append, List.append_nil]

/-- Only blanks are lost with the pieces that are left out and at the ends of the others. -/
theorem filter_flatten_cellsOf (pieces : List (List Char)) :
    (cellsOf pieces).flatten.filter isVisible = pieces.flatten.filter isVisible := by
  induction pieces with
  | nil => rfl
  | cons piece pieces inductionHypothesis =>
      have whole : cellsOf (piece :: pieces) = cellsOf [piece] ++ cellsOf pieces :=
        cellsOf_append [piece] pieces
      have first : (cellsOf [piece]).flatten = Text.trim piece := by
        by_cases empty : Text.trim piece = []
        · simp [cellsOf, empty]
        · simp [cellsOf, empty]
      rw [whole, List.flatten_append, List.filter_append, inductionHypothesis, first, filter_trim,
        List.flatten_cons, List.filter_append]

theorem filter_plainSpaces (text : List Char) :
    (plainSpaces text).filter isVisible = text.filter isVisible := by
  have same : isVisible ∘ plainSpace = isVisible :=
    funext fun c => congrArg not (isBlank_plainSpace c)
  rw [plainSpaces_eq, List.filter_map, same]
  refine (List.map_congr_left fun c member => ?_).trans (List.map_id _)
  exact plainSpace_of_visible (by simpa [isVisible] using (List.mem_filter.mp member).2)

/-- What is seen of a text is seen on its lines. -/
theorem filter_flatten_lines (text : List Char) :
    (lines text).flatten.filter isVisible = text.filter isVisible := by
  have cut : lines text
      = cellsOf (Text.splitOn '\n' ((plainSpaces text).filter fun c => c != '\r')) :=
    rfl
  rw [cut, filter_flatten_cellsOf, Text.flatten_splitOn, filter_without_blank (by decide),
    filter_without_blank (by decide), filter_plainSpaces]

theorem filter_flatten_flatMap_cells (table : List (List Char)) :
    (table.flatMap cells).flatten.filter isVisible = table.flatten.filter isVisible := by
  induction table with
  | nil => rfl
  | cons line table inductionHypothesis =>
      rw [List.flatMap_cons, List.flatten_append, List.filter_append, inductionHypothesis, cells_eq,
        filter_flatten_cellsOf, filter_flatten_piecesOf, List.flatten_cons, List.filter_append]

/-- The cells of all lines hold what is seen of a text, in its order and each character once.
Every line has a cell, and no cell is empty or has blanks around it. -/
theorem cells_keep_visible (text : List Char) :
    ((lines text).flatMap cells).flatten.filter isVisible = text.filter isVisible
      ∧ (forall line, line ∈ lines text -> cells line ≠ [])
      ∧ forall line cell, cell ∈ cells line -> cell ≠ [] ∧ Text.trim cell = cell := by
  refine ⟨?_, ?_, ?_⟩
  · rw [filter_flatten_flatMap_cells, filter_flatten_lines]
  · exact fun line member => (isLine_of_mem_lines member).cells_ne_nil
  · intro line cell member
    rcases List.mem_filter.mp member with ⟨trimmed, something⟩
    rcases List.mem_map.mp trimmed with ⟨piece, _, rfl⟩
    exact ⟨by simpa using something, Text.trim_trim piece⟩

/-- A text with a tab on one of its lines only, and with spaces and returns that are replaced or
left out. -/
def looseText : List Char :=
  "\tBS101\tLinear\u00a0 Algebra\r\t3\n\u3000\r\n HSS201  Logic \u2003 3.0".toList

theorem cells_keep_visible_looseText :
    "HSS201  Logic \u2003 3.0".toList ∈ lines looseText
      ∧ "Logic".toList ∈ cells "HSS201  Logic \u2003 3.0".toList
      ∧ ((lines looseText).flatMap cells).flatten.filter isVisible
        = looseText.filter isVisible
      ∧ cells "HSS201  Logic \u2003 3.0".toList ≠ []
      ∧ "Logic".toList ≠ [] ∧ Text.trim "Logic".toList = "Logic".toList := by
  have line : "HSS201  Logic \u2003 3.0".toList ∈ lines looseText := by decide +kernel
  have cell : "Logic".toList ∈ cells "HSS201  Logic \u2003 3.0".toList := by decide +kernel
  rcases cells_keep_visible looseText with ⟨seen, filled, fit⟩
  exact ⟨line, cell, seen, filled _ line, fit _ _ cell⟩

end Visible

section Canonical

/-! ## The canonical form -/

/-- The cells of a line with tabs between them. -/
def canonicalLine (line : List Char) : List Char :=
  Text.join ['\t'] (cells line)

/-- The lines of a text in this form, with line feeds between them. -/
def canonicalText (text : List Char) : List Char :=
  Text.join ['\n'] ((lines text).map canonicalLine)

/-- A line has the same cells when it is written anew with tabs between them. -/
theorem IsLine.cells_canonicalLine {line : List Char} (isLine : IsLine line) :
    cells (canonicalLine line) = cells line := by
  have all : forall cell, cell ∈ cells line -> IsCell cell :=
    fun _ member => isLine.isCell_of_mem_cells member
  unfold canonicalLine
  cases found : cells line with
  | nil => exact absurd found isLine.cells_ne_nil
  | cons first others =>
      rw [found] at all
      cases others with
      | nil =>
          have whole := isLine.eq_of_cells_eq_singleton found
          rw [<- whole] at found
          exact found
      | cons second others => exact cells_join all

theorem IsLine.isLine_canonicalLine {line : List Char} (isLine : IsLine line) :
    IsLine (canonicalLine line) :=
  isLine_join isLine.cells_ne_nil fun _ member => isLine.isCell_of_mem_cells member

theorem lines_canonicalText (text : List Char) :
    lines (canonicalText text) = (lines text).map canonicalLine := by
  apply lines_join
  intro line member
  rcases List.mem_map.mp member with ⟨written, listed, rfl⟩
  exact (isLine_of_mem_lines listed).isLine_canonicalLine

/-- Lines with the same cells give the same courses. -/
theorem courses_readLines_of_cells {first second : List (List Char)}
    (same : first.map cells = second.map cells) (track : Option Track) (seen : List String) :
    courses (readLines track seen first) = courses (readLines track seen second) := by
  have rows (lines : List (List Char)) :
      recognizedRows lines = (lines.map cells).filterMap recognize? := by
    rw [recognizedRows, List.filterMap_map]
    rfl
  rw [courses_readLines, courses_readLines, rows, rows, same]

/-- A text is read as its canonical form is: line by line it has the same cells, and so it gives the
same courses and as many lines are skipped, whatever codes are known. -/
theorem read_canonicalText (text : List Char) :
    lines (canonicalText text) = (lines text).map canonicalLine
      ∧ (lines (canonicalText text)).map cells = (lines text).map cells
      ∧ forall (track : Option Track) (known : List String),
        courses (read track known (canonicalText text)) = courses (read track known text)
          ∧ counts (read track known (canonicalText text)) = counts (read track known text) := by
  have sameCells : (lines (canonicalText text)).map cells = (lines text).map cells := by
    rw [lines_canonicalText, List.map_map]
    exact List.map_congr_left fun line member => (isLine_of_mem_lines member).cells_canonicalLine
  refine ⟨lines_canonicalText text, sameCells, ?_⟩
  intro track known
  have sameCourses := courses_readLines_of_cells sameCells track (known.map normalizeCode)
  have sameLength := congrArg List.length sameCells
  rw [List.length_map, List.length_map] at sameLength
  refine ⟨sameCourses, ?_⟩
  rw [counts_eq, counts_eq, read, read, length_readLines, length_readLines, sameCourses, sameLength]

end Canonical

end Transcript
end DegreeAudit
