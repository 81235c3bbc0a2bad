import DegreeAudit.Proofs.Text.Split
import DegreeAudit.Text.LetterCase

namespace DegreeAudit
namespace Text

/-!
# Upper case

A text in upper case is its own upper case, although one letter may become several.  No letter
vanishes and none becomes a blank, so a text without blanks at its ends is left without them.

What the tables say of all letters is checked with sets of code points that are written as numbers,
one bit for each.
-/

section Sets

/-! ## Sets of code points -/

/-- A number with a bit for each of some code points. -/
def bitsOf (codes : List Nat) : Nat :=
  codes.foldr (fun code bits => 1 <<< code ||| bits) 0

theorem testBit_bitsOf (codes : List Nat) (code : Nat) :
    (bitsOf codes).testBit code = true ↔ code ∈ codes := by
  induction codes with
  | nil => simp [bitsOf]
  | cons other codes inductionHypothesis =>
      change (1 <<< other ||| bitsOf codes).testBit code = true ↔ code ∈ other :: codes
      rw [Nat.testBit_or, Bool.or_eq_true, inductionHypothesis, Nat.one_shiftLeft,
        Nat.testBit_two_pow, decide_eq_true_iff, List.mem_cons, eq_comm]

/-- Lists whose bits are apart have no code point in common. -/
theorem not_mem_of_bitsOf {first second : List Nat} (apart : bitsOf first &&& bitsOf second = 0)
    {code : Nat} (member : code ∈ first) : code ∉ second := by
  intro shared
  have both : (bitsOf first &&& bitsOf second).testBit code = true := by
    rw [Nat.testBit_and, (testBit_bitsOf first code).mpr member,
      (testBit_bitsOf second code).mpr shared]
    rfl
  rw [apart, Nat.zero_testBit] at both
  exact Bool.false_ne_true both

/-- The code points of ranges. -/
def codesIn (ranges : List (Nat × Nat)) : List Nat :=
  ranges.flatMap fun (first, last) => List.range' first (last - first + 1)

theorem mem_codesIn_of_inRanges {ranges : List (Nat × Nat)} {code : Nat}
    (inside : inRanges ranges code = true) : code ∈ codesIn ranges := by
  induction ranges with
  | nil => cases inside
  | cons range ranges inductionHypothesis =>
      rcases range with ⟨first, last⟩
      simp only [codesIn, List.flatMap_cons, List.mem_append, List.mem_range'_1]
      unfold inRanges at inside
      split at inside
      · cases inside
      · split at inside
        · exact Or.inl (by omega)
        · exact Or.inr (inductionHypothesis inside)

end Sets

section Tables

/-! ## What the tables hold -/

/-- How far the letters of a row are from its first. -/
def distances : Nat × Nat × Nat × Nat -> List Nat
  | (first, last, step, _) =>
      (List.range (last - first + 1)).filter fun distance => distance % step == 0

/-- The letters that rows take to others. -/
def lettersOf (rows : List (Nat × Nat × Nat × Nat)) : List Nat :=
  rows.flatMap fun row => (distances row).map fun distance => row.1 + distance

/-- The letters that they are taken to. -/
def imagesOf (rows : List (Nat × Nat × Nat × Nat)) : List Nat :=
  rows.flatMap fun row => (distances row).map fun distance => row.2.2.2 + distance

theorem imageOf_cases (rows : List (Nat × Nat × Nat × Nat)) (code : Nat) :
    imageOf rows code = code
      ∨ code ∈ lettersOf rows ∧ imageOf rows code ∈ imagesOf rows := by
  induction rows with
  | nil => exact Or.inl rfl
  | cons row rows inductionHypothesis =>
      rcases row with ⟨first, last, step, image⟩
      unfold imageOf
      split
      · exact Or.inl rfl
      · rename_i above
        split
        · rename_i here
          rw [Bool.and_eq_true, decide_eq_true_iff] at here
          have near : code - first ∈ distances (first, last, step, image) :=
            List.mem_filter.mpr ⟨List.mem_range.mpr (by omega), here.2⟩
          refine Or.inr ⟨List.mem_flatMap.mpr ⟨_, List.mem_cons_self, ?_⟩,
            List.mem_flatMap.mpr ⟨_, List.mem_cons_self, List.mem_map_of_mem near⟩⟩
          exact List.mem_map.mpr ⟨_, near, by dsimp only; omega⟩
        · rcases inductionHypothesis with same | ⟨letter, image⟩
          · exact Or.inl same
          · exact Or.inr ⟨List.mem_append_right _ letter, List.mem_append_right _ image⟩

theorem mem_of_expansionOf {entries : List (Nat × List Nat)} {code : Nat} {images : List Nat}
    (found : expansionOf entries code = some images) : (code, images) ∈ entries := by
  induction entries with
  | nil => cases found
  | cons entry entries inductionHypothesis =>
      rcases entry with ⟨letter, expansion⟩
      unfold expansionOf at found
      split at found
      · cases found
      · split at found
        · rename_i same
          rcases Option.some.inj found with rfl
          rw [same]
          exact List.mem_cons_self
        · exact List.mem_cons_of_mem _ (inductionHypothesis found)

/-- The letters with an upper case other than themselves. -/
def smallLetters : List Nat :=
  upperExpansions.map (fun entry => entry.1) ++ lettersOf upperRows

/-- The letters that stand in the upper case of others. -/
def largeLetters : List Nat :=
  upperExpansions.flatMap (fun entry => entry.2) ++ imagesOf upperRows

theorem upperCodes_cases (code : Nat) :
    upperCodes code = [code]
      ∨ code ∈ smallLetters ∧ forall image, image ∈ upperCodes code -> image ∈ largeLetters := by
  unfold upperCodes
  split
  · rename_i images found
    have listed := mem_of_expansionOf found
    refine Or.inr ⟨List.mem_append_left _ (List.mem_map_of_mem listed), ?_⟩
    intro image member
    exact List.mem_append_left _ (List.mem_flatMap.mpr ⟨_, listed, member⟩)
  · rcases imageOf_cases upperRows code with same | ⟨letter, large⟩
    · exact Or.inl (congrArg (fun image => [image]) same)
    · refine Or.inr ⟨List.mem_append_right _ letter, ?_⟩
      intro image member
      rw [List.mem_singleton.mp member]
      exact List.mem_append_right _ large

theorem upperCodes_ne_nil (code : Nat) : upperCodes code ≠ [] := by
  have written : forall entry, entry ∈ upperExpansions -> entry.2 ≠ [] := by
    decide
  unfold upperCodes
  split
  · rename_i images found
    exact written _ (mem_of_expansionOf found)
  · exact List.cons_ne_nil _ _

theorem largeLetters_apart :
    bitsOf largeLetters &&& bitsOf (smallLetters ++ codesIn blankRanges) = 0 := by
  decide +kernel

theorem smallLetters_apart : bitsOf smallLetters &&& bitsOf (codesIn blankRanges) = 0 := by
  decide +kernel

theorem plus_not_large : '+'.toNat ∉ largeLetters := by
  decide +kernel

theorem isValidChar_of_large {image : Nat} (large : image ∈ largeLetters) : image.isValidChar := by
  have valid : forall image, image ∈ largeLetters -> image.isValidChar := by
    decide +kernel
  exact valid image large

theorem toNat_ofNat {code : Nat} (valid : code.isValidChar) : (Char.ofNat code).toNat = code := by
  unfold Char.ofNat
  rw [dif_pos valid]
  rfl

end Tables

section Upper

/-! ## Texts in upper case -/

variable {text : List Char}

theorem upperLetter_ne_nil (c : Char) : upperLetter c ≠ [] := by
  unfold upperLetter
  rw [Ne, List.map_eq_nil_iff]
  exact upperCodes_ne_nil c.toNat

/-- The letters of an upper case are their own upper case, and none is blank that was not. -/
theorem upperLetter_image {c image : Char} (member : image ∈ upperLetter c) :
    upperLetter image = [image] ∧ (isBlank c = false -> isBlank image = false) := by
  rcases List.mem_map.mp member with ⟨code, listed, rfl⟩
  rcases upperCodes_cases c.toNat with same | ⟨_, large⟩
  · rw [same, List.mem_singleton] at listed
    have itself : upperLetter c = [c] := by
      unfold upperLetter
      rw [same, List.map_singleton, Char.ofNat_toNat]
    rw [listed, Char.ofNat_toNat]
    exact ⟨itself, id⟩
  · -- what stands in an upper case is neither small nor blank
    have apart := not_mem_of_bitsOf largeLetters_apart (large code listed)
    have code_eq := toNat_ofNat (isValidChar_of_large (large code listed))
    rw [List.mem_append, not_or] at apart
    constructor
    · unfold upperLetter
      rw [code_eq]
      rcases upperCodes_cases code with fixed | ⟨small, _⟩
      · rw [fixed, List.map_singleton]
      · exact absurd small apart.1
    · intro _
      rw [isBlank, code_eq, Bool.eq_false_iff]
      exact fun blank => apart.2 (mem_codesIn_of_inRanges blank)

/-- A blank has no other upper case. -/
theorem upperLetter_of_isBlank {c : Char} (blank : isBlank c = true) : upperLetter c = [c] := by
  have visible (small : c.toNat ∈ smallLetters) : False :=
    not_mem_of_bitsOf smallLetters_apart small (mem_codesIn_of_inRanges blank)
  unfold upperLetter
  rcases upperCodes_cases c.toNat with same | ⟨small, _⟩
  · rw [same, List.map_singleton, Char.ofNat_toNat]
  · exact False.elim (visible small)

/-- No other letter becomes a plus sign. -/
theorem plus_not_mem_upperLetter {c : Char} (other : c ≠ '+') : '+' ∉ upperLetter c := by
  intro member
  rcases List.mem_map.mp member with ⟨code, listed, plus⟩
  rcases upperCodes_cases c.toNat with same | ⟨_, large⟩
  · rw [same, List.mem_singleton] at listed
    rw [listed, Char.ofNat_toNat] at plus
    exact other plus
  · have code_eq := toNat_ofNat (isValidChar_of_large (large code listed))
    rw [plus] at code_eq
    exact plus_not_large (code_eq ▸ large code listed)

/-- A digit stays as it is. -/
theorem upperLetter_of_isDigit {c : Char} (digit : c.isDigit = true) : upperLetter c = [c] := by
  have codes : forall code, code < 58 -> (Char.ofNat code).isDigit = true ->
      upperLetter (Char.ofNat code) = [Char.ofNat code] := by
    decide
  have fixed := codes c.toNat (Nat.lt_succ_of_le (toNat_of_isDigit digit).2)
  rw [Char.ofNat_toNat] at fixed
  exact fixed digit

/-- One of the letters from a to z becomes one of them. -/
theorem upperLetter_of_isAlpha {c : Char} (letter : c.isAlpha = true) :
    upperLetter c = [c.toUpper] ∧ c.toUpper.isAlpha = true := by
  have codes : forall code, code < 123 -> (Char.ofNat code).isAlpha = true ->
      upperLetter (Char.ofNat code) = [(Char.ofNat code).toUpper]
        ∧ (Char.ofNat code).toUpper.isAlpha = true := by
    decide
  have bounds := toNat_of_isAlpha letter
  have plain := codes c.toNat (by omega)
  rw [Char.ofNat_toNat] at plain
  exact plain letter

theorem upper_ne_nil (something : text ≠ []) : upper text ≠ [] := by
  rcases List.exists_cons_of_ne_nil something with ⟨c, rest, rfl⟩
  exact fun nothing => upperLetter_ne_nil c (List.append_eq_nil_iff.mp nothing).1

theorem upper_eq_self (all : forall c, c ∈ text -> upperLetter c = [c]) : upper text = text := by
  induction text with
  | nil => rfl
  | cons c rest inductionHypothesis =>
      have first := all c List.mem_cons_self
      have later := inductionHypothesis fun other member =>
        all other (List.mem_cons_of_mem c member)
      unfold upper at later ⊢
      rw [List.flatMap_cons, first, later, List.singleton_append]

/-- A text in upper case is its own upper case. -/
theorem upper_upper (text : List Char) : upper (upper text) = upper text := by
  apply upper_eq_self
  intro image member
  rcases List.mem_flatMap.mp member with ⟨c, _, listed⟩
  exact (upperLetter_image listed).1

/-- A text in upper case has no more blanks at its ends than the text. -/
theorem trim_upper (trimmed : trim text = text) : trim (upper text) = upper text := by
  rw [trim_eq_self_iff] at trimmed ⊢
  rcases trimmed with ⟨first, last⟩
  constructor
  · intro image begins
    cases text with
    | nil => cases begins
    | cons c rest =>
        rw [upper, List.flatMap_cons, List.head?_append_of_ne_nil _ (upperLetter_ne_nil c)]
          at begins
        exact (upperLetter_image (List.mem_of_mem_head? begins)).2 (first c rfl)
  · intro image finishes
    rcases List.eq_nil_or_concat' text with rfl | ⟨rest, c, rfl⟩
    · cases finishes
    · rw [upper, List.flatMap_append, List.flatMap_singleton,
        List.getLast?_append_of_ne_nil _ (upperLetter_ne_nil c)] at finishes
      exact (upperLetter_image (List.mem_of_mem_getLast? finishes)).2
        (last c List.getLast?_concat)

theorem upper_of_blank (blank : forall c, c ∈ text -> isBlank c = true) : upper text = text :=
  upper_eq_self fun c member => upperLetter_of_isBlank (blank c member)

/-- It does not matter whether a text is trimmed before it is put in upper case or after. -/
theorem trim_upper_eq (text : List Char) : trim (upper text) = upper (trim text) := by
  rcases exists_trim text with ⟨before, after, surrounded, blankBefore, blankAfter⟩
  have uppered : upper text = before ++ (upper (trim text) ++ after) := by
    conv => lhs; rw [surrounded, upper, List.flatMap_append, List.flatMap_append]
    rw [<- upper, <- upper, <- upper, upper_of_blank blankBefore, upper_of_blank blankAfter]
  rw [uppered, trim_blanks_append blankBefore, trim_append_blanks blankAfter,
    trim_upper (trim_trim text)]

/-- A text is blank just if its upper case is. -/
theorem allBlank_upper (text : List Char) : allBlank (upper text) = allBlank text := by
  rw [<- isEmpty_trim, <- isEmpty_trim, trim_upper_eq, Bool.eq_iff_iff, List.isEmpty_iff,
    List.isEmpty_iff]
  constructor
  · intro nothing
    by_contra something
    exact upper_ne_nil something nothing
  · intro nothing
    rw [nothing]
    rfl

/-- The pieces between plus signs are put in upper case each on its own. -/
theorem splitOn_plus_upper (text : List Char) :
    splitOn '+' (upper text) = (splitOn '+' text).map upper :=
  splitOn_flatMap (by decide) (fun _ => plus_not_mem_upperLetter) text

end Upper

end Text
end DegreeAudit
