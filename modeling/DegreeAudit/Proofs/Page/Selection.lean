import DegreeAudit.Page.Selection
import DegreeAudit.Proofs.Number.Numeral
import DegreeAudit.Proofs.Page.Lines
import Mathlib.Data.List.Basic
import Mathlib.Order.Interval.Set.UnorderedInterval

namespace DegreeAudit

/-!
# The pages that a text selects

A text selects the pages of the ranges between its commas, all of them together.  So two texts with
a comma between them select what each of them does, and neither the order of the parts nor their
repetition matters, nor does a part that cannot be read.  A part that is one or two numbers in
digits selects the interval between them, whichever is the greater.

No range is empty, so a text selects no page only if none of its parts can be read; that is when all
pages are shown.  Pages are read one by one, and a row knows its page.  So the rows of the selected
pages are those rows of all pages that stand on one of them.
-/

namespace PageSelection

variable {selection : PageSelection} {page : Int}

section Pages

/-! ## The pages in ascending order -/

theorem contains_iff : selection.contains page = true
    ↔ ∃ range, range ∈ selection.ranges ∧ range.1 ≤ page ∧ page ≤ range.2 := by
  simp only [contains, List.any_eq_true, Bool.and_eq_true, decide_eq_true_eq]

theorem mem_pagesOf_iff {range : Int × Int} :
    page ∈ pagesOf range ↔ range.1 ≤ page ∧ page ≤ range.2 := by
  unfold pagesOf
  rw [List.mem_map]
  constructor
  · rintro ⟨offset, inside, rfl⟩
    rw [List.mem_range, Int.lt_toNat] at inside
    have least : (0 : Int) ≤ Int.ofNat offset := Int.natCast_nonneg offset
    have most : Int.ofNat offset < range.2 - range.1 + 1 := inside
    omega
  · rintro ⟨least, most⟩
    refine ⟨(page - range.1).toNat, ?_, ?_⟩
    · rw [List.mem_range]
      omega
    · rw [Int.ofNat_eq_natCast, Int.toNat_of_nonneg (by omega)]
      omega

theorem mem_withPage_iff {first : Int} {others : List Int} :
    page ∈ withPage first others ↔ page = first ∨ page ∈ others := by
  unfold withPage
  split
  · rename_i head
    exact ⟨Or.inr, fun either => either.elim (fun same => same ▸ List.mem_of_mem_head? head) id⟩
  · exact List.mem_cons

theorem mem_foldr_withPage_iff {numbers : List Int} :
    page ∈ numbers.foldr withPage [] ↔ page ∈ numbers := by
  induction numbers with
  | nil => rfl
  | cons first numbers inductionHypothesis =>
      rw [List.foldr_cons, mem_withPage_iff, inductionHypothesis, List.mem_cons]

/-- The pages that are listed are those of the ranges. -/
theorem mem_pages_iff : page ∈ selection.pages ↔ selection.contains page = true := by
  rw [pages, mem_foldr_withPage_iff, List.mem_mergeSort, List.mem_flatMap, contains_iff]
  simp only [mem_pagesOf_iff]

/-- A page that is not greater than the others is put before them, unless it is there already. -/
theorem pairwise_withPage {first : Int} {others : List Int} (ascending : others.Pairwise (· < ·))
    (least : forall other, other ∈ others -> first ≤ other) :
    (withPage first others).Pairwise (· < ·) := by
  unfold withPage
  split
  · exact ascending
  · rename_i absent
    refine List.pairwise_cons.mpr ⟨?_, ascending⟩
    intro later member
    cases others with
    | nil => cases member
    | cons head tail =>
        have below : first < head :=
          lt_of_le_of_ne (least head List.mem_cons_self) fun same => absent (congrArg some same.symm)
        rcases List.mem_cons.mp member with rfl | inside
        · exact below
        · exact below.trans ((List.pairwise_cons.mp ascending).1 later inside)

theorem pairwise_foldr_withPage {numbers : List Int} (ascending : numbers.Pairwise (· ≤ ·)) :
    (numbers.foldr withPage []).Pairwise (· < ·) := by
  induction numbers with
  | nil => exact .nil
  | cons first numbers inductionHypothesis =>
      rw [List.pairwise_cons] at ascending
      exact pairwise_withPage (inductionHypothesis ascending.2)
        fun other member => ascending.1 other (mem_foldr_withPage_iff.mp member)

theorem pairwise_pages (selection : PageSelection) : selection.pages.Pairwise (· < ·) := by
  apply pairwise_foldr_withPage
  refine (@List.pairwise_mergeSort Int (fun a b => decide (a ≤ b)) ?_ ?_ _).imp ?_
  · simp only [decide_eq_true_eq]
    exact fun _ _ _ => le_trans
  · simp only [Bool.or_eq_true, decide_eq_true_eq]
    exact le_total
  · exact of_decide_eq_true

/-- A selection lists its pages in one way only. -/
theorem pages_eq_of_mem {other : PageSelection}
    (same : forall page, page ∈ selection.pages ↔ page ∈ other.pages) :
    selection.pages = other.pages := by
  have sorted (selection : PageSelection) : selection.pages.Pairwise (· ≤ ·) :=
    (pairwise_pages selection).imp le_of_lt
  have once (selection : PageSelection) : selection.pages.Nodup :=
    (pairwise_pages selection).imp ne_of_lt
  exact List.Perm.eq_of_pairwise (fun _ _ _ _ => le_antisymm) (sorted selection) (sorted other)
    ((List.perm_ext_iff_of_nodup (once selection) (once other)).mpr same)

end Pages

section Texts

/-! ## Parts of a text -/

variable {text first second : List Char}

/-- The ends of a range are in their order, in whichever they were written. -/
theorem ordered_of_readRange? {part : List Char} {range : Int × Int}
    (found : readRange? part = some range) : range.1 ≤ range.2 := by
  unfold readRange? at found
  dsimp only at found
  rcases Option.bind_eq_some_iff.mp found with ⟨left, _, found⟩
  split at found
  all_goals
    rcases Option.bind_eq_some_iff.mp found with ⟨right, _, found⟩
    rcases Option.some.inj found with rfl
    exact min_le_max

theorem mem_pages_read_iff : page ∈ (read text).pages
    ↔ ∃ part, part ∈ Text.splitOn ',' text ∧ ∃ range, readRange? part = some range
      ∧ range.1 ≤ page ∧ page ≤ range.2 := by
  rw [mem_pages_iff, contains_iff]
  constructor
  · rintro ⟨range, listed, bounds⟩
    rcases List.mem_filterMap.mp listed with ⟨part, member, found⟩
    exact ⟨part, member, range, found, bounds⟩
  · rintro ⟨part, member, range, found, bounds⟩
    exact ⟨range, List.mem_filterMap.mpr ⟨part, member, found⟩, bounds⟩

/-- Two texts with a comma between them select what either of them does. -/
theorem mem_pages_read_append_iff (first second : List Char) :
    page ∈ (read (first ++ ',' :: second)).pages
      ↔ page ∈ (read first).pages ∨ page ∈ (read second).pages := by
  simp only [mem_pages_read_iff, Text.splitOn_append, List.mem_append, or_and_right, exists_or]

/-- Only the parts that can be read count, in any order and number. -/
theorem pages_read_eq_of_parts
    (same : forall part, (readRange? part).isSome = true ->
      (part ∈ Text.splitOn ',' first ↔ part ∈ Text.splitOn ',' second)) :
    (read first).pages = (read second).pages := by
  apply pages_eq_of_mem
  intro page
  rw [mem_pages_read_iff, mem_pages_read_iff]
  constructor
  · rintro ⟨part, member, range, found, bounds⟩
    exact ⟨part, (same part (Option.isSome_of_eq_some found)).mp member, range, found, bounds⟩
  · rintro ⟨part, member, range, found, bounds⟩
    exact ⟨part, (same part (Option.isSome_of_eq_some found)).mpr member, range, found, bounds⟩

/-- All pages are shown if a text selects none. -/
theorem shows_read_iff : (read text).shows page = true
    ↔ (read text).pages = [] ∨ page ∈ (read text).pages := by
  have empty : (read text).ranges.isEmpty = true ↔ (read text).pages = [] := by
    rw [List.isEmpty_iff]
    constructor
    · intro none
      simp [pages, none]
    · intro none
      rw [List.eq_nil_iff_forall_not_mem]
      intro range listed
      rcases List.mem_filterMap.mp listed with ⟨part, member, found⟩
      have inside : range.1 ∈ (read text).pages :=
        mem_pages_read_iff.mpr ⟨part, member, range, found, le_rfl, ordered_of_readRange? found⟩
      rw [none] at inside
      cases inside
  rw [shows, Bool.or_eq_true, empty, mem_pages_iff]

end Texts

section Written

/-! ## Parts in digits -/

/-- Digits that are read as a number: at least one, and no more than may be read. -/
structure IsPageNumber (digits : List Char) : Prop where
  present : digits ≠ []
  digit : forall c, c ∈ digits -> c.isDigit = true
  short : digits.length ≤ Number.mostDigits

/-- A part of a selection as it is written: a number, and perhaps another one after a dash. -/
structure WrittenRange where
  left : List Char
  right : Option (List Char)

namespace WrittenRange

/-- The part as a text. -/
def text (range : WrittenRange) : List Char :=
  match range.right with
  | none => range.left
  | some right => range.left ++ '-' :: right

/-- The ends are numbers in digits. -/
structure Fits (range : WrittenRange) : Prop where
  left : IsPageNumber range.left
  right : forall digits, range.right = some digits -> IsPageNumber digits

/-- The number at the left. -/
def first (range : WrittenRange) : Int :=
  Int.ofNat (Text.valueOfDigits range.left)

/-- The number at the right; a number by itself is both ends of its range. -/
def last (range : WrittenRange) : Int :=
  Int.ofNat (Text.valueOfDigits (range.right.getD range.left))

/-- The pages between the two numbers, whichever is the greater. -/
def interval (range : WrittenRange) : Set Int :=
  Set.uIcc range.first range.last

end WrittenRange

variable {range : WrittenRange} {digits : List Char}

theorem IsPageNumber.readInt?_eq (number : IsPageNumber digits) :
    Number.readInt? digits = some (Int.ofNat (Text.valueOfDigits digits)) :=
  Number.readInt?_of_digits number.present number.digit number.short

/-- There is neither a dash nor a comma nor a blank among digits. -/
theorem IsPageNumber.plain (number : IsPageNumber digits) :
    forall c, c ∈ digits -> (c != '-') = true ∧ c ≠ ',' ∧ Text.isBlank c = false := by
  intro c member
  exact Number.of_mem_marks (fun c => (c != '-') = true ∧ c ≠ ',' ∧ Text.isBlank c = false)
    (by decide) (Number.mem_marks_of_isDigit (number.digit c member))

theorem WrittenRange.Fits.plain (fits : range.Fits) :
    forall c, c ∈ range.text -> c ≠ ',' ∧ Text.isBlank c = false := by
  intro c member
  unfold text at member
  split at member
  · exact (fits.left.plain c member).2
  · rename_i right given
    rcases List.mem_append.mp member with inside | inside
    · exact (fits.left.plain c inside).2
    · rcases List.mem_cons.mp inside with rfl | inside
      · decide
      · exact ((fits.right right given).plain c inside).2

/-- A part in digits is read as the numbers that it writes. -/
theorem WrittenRange.Fits.readRange?_eq (fits : range.Fits) :
    readRange? range.text = some (min range.first range.last, max range.first range.last) := by
  have noDash : forall c, c ∈ range.left -> (c != '-') = true :=
    fun c member => (fits.left.plain c member).1
  have trimmed : Text.trim range.text = range.text :=
    Text.trim_of_noBlank fun c member => (fits.plain c member).2
  unfold readRange?
  rw [trimmed]
  unfold text last
  cases given : range.right with
  | none =>
      have cut : Text.cutAt '-' range.left = (range.left, none) := by
        rw [Text.cutAt, List.dropWhile_eq_nil_iff.mpr noDash]
      dsimp only
      rw [cut]
      simp only [fits.left.readInt?_eq, Option.bind_eq_bind, Option.bind_some]
      rfl
  | some right =>
      have ends : forall c, ('-' :: right).head? = some c -> (c != '-') = false := by
        intro c head
        rcases Option.some.inj head with rfl
        rfl
      have cut : Text.cutAt '-' (range.left ++ '-' :: right) = (range.left, some right) := by
        rw [Text.cutAt, Text.dropWhile_span noDash ends, Text.takeWhile_span noDash ends]
      have number := fits.right right given
      rcases List.exists_cons_of_ne_nil number.present with ⟨digit, digits, rfl⟩
      dsimp only
      rw [cut]
      simp only [fits.left.readInt?_eq, number.readInt?_eq, Option.bind_eq_bind,
        Option.bind_some]
      rfl

/-- Parts in digits select the pages of their intervals. -/
theorem mem_pages_read_join_iff {ranges : List WrittenRange}
    (fits : forall range, range ∈ ranges -> range.Fits) :
    page ∈ (read (Text.join [','] (ranges.map WrittenRange.text))).pages
      ↔ ∃ range, range ∈ ranges ∧ page ∈ range.interval := by
  rw [mem_pages_read_iff]
  cases ranges with
  | nil =>
      refine iff_of_false ?_ (by simp)
      rintro ⟨part, member, range, found, _⟩
      rcases List.mem_singleton.mp member with rfl
      cases found
  | cons head others =>
      have free : forall piece, piece ∈ (head :: others).map WrittenRange.text -> ',' ∉ piece := by
        intro piece listed inside
        rcases List.mem_map.mp listed with ⟨range, member, rfl⟩
        exact ((fits range member).plain ',' inside).1 rfl
      have present : (head :: others).map WrittenRange.text ≠ [] := by simp
      rw [Text.splitOn_join present free]
      constructor
      · rintro ⟨part, listed, range, found, bounds⟩
        rcases List.mem_map.mp listed with ⟨written, member, rfl⟩
        rw [(fits written member).readRange?_eq] at found
        rcases Option.some.inj found with rfl
        exact ⟨written, member, bounds⟩
      · rintro ⟨written, member, bounds⟩
        exact ⟨written.text, List.mem_map_of_mem member, _, (fits written member).readRange?_eq,
          bounds⟩

end Written

end PageSelection

section Rows

/-! ## Rows of the selected pages -/

namespace Pages

variable {selection : PageSelection} {tolerance : Float} {number : Nat}

theorem page_of_mem_rowsOn {page : Option (List Json)} {rows : List (WordRow Float)}
    (read : rowsOn selection tolerance number page = .ok rows) :
    forall row, row ∈ rows -> row.page = Int.ofNat number := by
  unfold rowsOn at read
  split at read
  · rcases WordRow.exists_words_of_ofDocument read with ⟨words, rfl, _⟩
    exact fun row made => WordRow.page_of_mem_ofSorted made
  · rcases Except.ok.inj read with rfl
    exact nofun

theorem rowsOn_of_all {page : Option (List Json)} {rows : List (WordRow Float)}
    (read : rowsOn .empty tolerance number page = .ok rows) :
    rowsOn selection tolerance number page
      = .ok (rows.filter fun row => selection.shows row.page) := by
  have here := page_of_mem_rowsOn read
  have all : PageSelection.empty.shows (Int.ofNat number) = true := rfl
  rw [rowsOn, if_pos all] at read
  rw [rowsOn]
  cases shown : selection.shows (Int.ofNat number) with
  | true =>
      rw [if_pos rfl, read, List.filter_eq_self.mpr]
      intro row made
      rw [here row made, shown]
  | false =>
      rw [if_neg Bool.false_ne_true, List.filter_eq_nil_iff.mpr]
      intro row made
      rw [here row made, shown]
      exact Bool.false_ne_true

/-- The rows of the selected pages are the rows of all pages that stand on one of these. -/
theorem rowsFrom_of_all {pages : Pages} {rows : List (WordRow Float)}
    (read : rowsFrom .empty tolerance number pages = .ok rows) :
    rowsFrom selection tolerance number pages
      = .ok (rows.filter fun row => selection.shows row.page) := by
  induction pages generalizing number rows with
  | nil =>
      rcases Except.ok.inj read with rfl
      rfl
  | cons page pages inductionHypothesis =>
      rw [rowsFrom_cons] at read ⊢
      rcases bind_eq_ok.mp read with ⟨here, readHere, read⟩
      rcases bind_eq_ok.mp read with ⟨others, readLater, read⟩
      rcases Except.ok.inj read with rfl
      rw [rowsOn_of_all readHere, inductionHypothesis readLater, List.filter_append]
      rfl

end Pages

end Rows

end DegreeAudit
