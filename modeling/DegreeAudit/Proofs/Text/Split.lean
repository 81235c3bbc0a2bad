import DegreeAudit.Text.Blank
import DegreeAudit.Text.Split
import Mathlib.Data.List.Basic
import Mathlib.Data.List.TakeWhile

namespace DegreeAudit
namespace Text

/-!
# Cutting and trimming

A text is cut into the pieces that it was joined from, as long as the separator is in none of them.
The characters of a class at its beginning are told from the rest by the first one that is not of
the class.  Trimming leaves a text as it is just if there is no blank at either end, and what stands
between two such texts does not matter.
-/

section Pieces

/-! ## Pieces -/

variable {separator : Char}

theorem splitOn_cons_self (rest : List Char) :
    splitOn separator (separator :: rest) = [] :: splitOn separator rest := by
  simp [splitOn]

theorem splitOn_cons_of_ne {c : Char} (different : c ≠ separator) {rest piece : List Char}
    {pieces : List (List Char)} (cut : splitOn separator rest = piece :: pieces) :
    splitOn separator (c :: rest) = (c :: piece) :: pieces := by
  simp [splitOn, different, cut]

/-- A text without the separator belongs to the first piece of what follows it. -/
theorem splitOn_append_left {first second piece : List Char} {pieces : List (List Char)}
    (free : separator ∉ first) (cut : splitOn separator second = piece :: pieces) :
    splitOn separator (first ++ second) = (first ++ piece) :: pieces := by
  induction first with
  | nil => exact cut
  | cons c first inductionHypothesis =>
      rw [List.mem_cons, not_or] at free
      exact splitOn_cons_of_ne (Ne.symm free.1) (inductionHypothesis free.2)

theorem splitOn_of_not_mem {text : List Char} (free : separator ∉ text) :
    splitOn separator text = [text] := by
  have only : splitOn separator [] = [[]] := rfl
  have cut := splitOn_append_left free only
  rwa [List.append_nil] at cut

/-- A separator between two texts keeps the pieces of the one from those of the other. -/
theorem splitOn_append (separator : Char) (first second : List Char) :
    splitOn separator (first ++ separator :: second)
      = splitOn separator first ++ splitOn separator second := by
  induction first with
  | nil => exact splitOn_cons_self second
  | cons c rest inductionHypothesis =>
      rw [List.cons_append]
      by_cases same : c = separator
      · subst same
        rw [splitOn_cons_self, splitOn_cons_self, inductionHypothesis, List.cons_append]
      · rcases List.exists_cons_of_ne_nil (splitOn_ne_nil separator rest) with ⟨piece, pieces, cut⟩
        rw [cut, List.cons_append] at inductionHypothesis
        rw [splitOn_cons_of_ne same cut, splitOn_cons_of_ne same inductionHypothesis,
          List.cons_append]

/-- It belongs to the last piece of what it follows. -/
theorem splitOn_append_right (first : List Char) {second : List Char} (free : separator ∉ second) :
    ∃ pieces piece, splitOn separator first = pieces ++ [piece]
      ∧ splitOn separator (first ++ second) = pieces ++ [piece ++ second] := by
  induction first with
  | nil => exact ⟨[], [], rfl, splitOn_of_not_mem free⟩
  | cons c first inductionHypothesis =>
      rcases inductionHypothesis with ⟨pieces, piece, cut, cutBoth⟩
      by_cases same : c = separator
      · subst same
        refine ⟨[] :: pieces, piece, ?_, ?_⟩
        · rw [splitOn_cons_self, cut, List.cons_append]
        · rw [List.cons_append, splitOn_cons_self, cutBoth, List.cons_append]
      · cases pieces with
        | nil =>
            exact ⟨[], c :: piece, splitOn_cons_of_ne same cut, splitOn_cons_of_ne same cutBoth⟩
        | cons next pieces =>
            exact ⟨(c :: next) :: pieces, piece, splitOn_cons_of_ne same cut,
              splitOn_cons_of_ne same cutBoth⟩

/-- A text that is rewritten letter by letter is cut into its pieces rewritten, if the separator
stands for itself and comes of no other letter. -/
theorem splitOn_flatMap {f : Char -> List Char} (itself : f separator = [separator])
    (others : forall c, c ≠ separator -> separator ∉ f c) (text : List Char) :
    splitOn separator (text.flatMap f) = (splitOn separator text).map (List.flatMap f) := by
  induction text with
  | nil => rfl
  | cons c rest inductionHypothesis =>
      rw [List.flatMap_cons]
      by_cases same : c = separator
      · subst same
        rw [itself, List.singleton_append, splitOn_cons_self, splitOn_cons_self,
          inductionHypothesis]
        rfl
      · rcases List.exists_cons_of_ne_nil (splitOn_ne_nil separator rest) with ⟨piece, pieces, cut⟩
        rw [cut, List.map_cons] at inductionHypothesis
        rw [splitOn_cons_of_ne same cut, splitOn_append_left (others c same) inductionHypothesis]
        rfl

/-- Cutting undoes joining. -/
theorem splitOn_join {pieces : List (List Char)} (present : pieces ≠ [])
    (free : forall piece, piece ∈ pieces -> separator ∉ piece) :
    splitOn separator (join [separator] pieces) = pieces := by
  induction pieces with
  | nil => exact absurd rfl present
  | cons piece pieces inductionHypothesis =>
      have first := splitOn_of_not_mem (free piece List.mem_cons_self)
      cases pieces with
      | nil => exact first
      | cons next others =>
          have later := inductionHypothesis (List.cons_ne_nil next others)
            fun other member => free other (List.mem_cons_of_mem piece member)
          simp only [join, List.append_assoc, List.singleton_append]
          rw [splitOn_append, first, later, List.singleton_append]

/-- The pieces hold all that a text holds, but for the separators. -/
theorem flatten_splitOn (separator : Char) (text : List Char) :
    (splitOn separator text).flatten = text.filter fun c => c != separator := by
  induction text with
  | nil => rfl
  | cons c rest inductionHypothesis =>
      by_cases same : c = separator
      · subst same
        rw [splitOn_cons_self, List.flatten_cons, List.nil_append, inductionHypothesis,
          List.filter_cons_of_neg (by simp)]
      · rcases List.exists_cons_of_ne_nil (splitOn_ne_nil separator rest) with ⟨piece, pieces, cut⟩
        rw [cut] at inductionHypothesis
        rw [splitOn_cons_of_ne same cut, List.filter_cons_of_pos (by simpa using same),
          <- inductionHypothesis]
        rfl

/-- The separator is in none of the pieces, and their characters are those of the text. -/
theorem mem_of_mem_splitOn {text piece : List Char} (member : piece ∈ splitOn separator text)
    {c : Char} (inside : c ∈ piece) : c ∈ text ∧ c ≠ separator := by
  have listed := List.mem_flatten.mpr ⟨piece, member, inside⟩
  rw [flatten_splitOn, List.mem_filter, bne_iff_ne] at listed
  exact listed

theorem mem_join {between : List Char} {pieces : List (List Char)} {c : Char}
    (member : c ∈ join between pieces) : c ∈ between ∨ ∃ piece, piece ∈ pieces ∧ c ∈ piece := by
  induction pieces with
  | nil => cases member
  | cons piece pieces inductionHypothesis =>
      cases pieces with
      | nil => exact Or.inr ⟨piece, List.mem_cons_self, member⟩
      | cons next others =>
          simp only [join, List.append_assoc, List.mem_append] at member
          rcases member with here | separating | later
          · exact Or.inr ⟨piece, List.mem_cons_self, here⟩
          · exact Or.inl separating
          · rcases inductionHypothesis later with separating | ⟨other, listed, inside⟩
            · exact Or.inl separating
            · exact Or.inr ⟨other, List.mem_cons_of_mem piece listed, inside⟩

theorem not_mem_join {between : List Char} {pieces : List (List Char)} {c : Char}
    (other : c ∉ between) (free : forall piece, piece ∈ pieces -> c ∉ piece) :
    c ∉ join between pieces := by
  intro member
  rcases mem_join member with separating | ⟨piece, listed, inside⟩
  · exact other separating
  · exact free piece listed inside

theorem join_ne_nil {between : List Char} {pieces : List (List Char)} (present : pieces ≠ [])
    (filled : forall piece, piece ∈ pieces -> piece ≠ []) : join between pieces ≠ [] := by
  cases pieces with
  | nil => exact absurd rfl present
  | cons piece pieces =>
      have first := filled piece List.mem_cons_self
      cases pieces with
      | nil => exact first
      | cons next others => simp [join, first]

theorem join_append {between : List Char} {first second : List (List Char)} (begins : first ≠ [])
    (finishes : second ≠ []) :
    join between (first ++ second) = join between first ++ between ++ join between second := by
  induction first with
  | nil => exact absurd rfl begins
  | cons piece first inductionHypothesis =>
      cases first with
      | nil =>
          rcases List.exists_cons_of_ne_nil finishes with ⟨next, others, rfl⟩
          rfl
      | cons next others =>
          have later := inductionHypothesis (List.cons_ne_nil next others)
          simp only [List.cons_append, join, List.append_assoc] at later ⊢
          rw [later]

/-- Pieces may be joined in groups first. -/
theorem join_map_join {between : List Char} {groups : List (List (List Char))}
    (filled : forall group, group ∈ groups -> group ≠ []) :
    join between (groups.map (join between)) = join between groups.flatten := by
  induction groups with
  | nil => rfl
  | cons group groups inductionHypothesis =>
      have later := inductionHypothesis fun other member =>
        filled other (List.mem_cons_of_mem group member)
      cases groups with
      | nil => rw [List.flatten_singleton, List.map_singleton, join]
      | cons next others =>
          have present : (next :: others).flatten ≠ [] := by
            rw [List.flatten_ne_nil_iff]
            exact ⟨next, List.mem_cons_self,
              filled next (List.mem_cons_of_mem group List.mem_cons_self)⟩
          rw [List.flatten_cons, join_append (filled group List.mem_cons_self) present, <- later]
          rfl

theorem head?_join {between piece : List Char} (present : piece ≠ [])
    (pieces : List (List Char)) : (join between (piece :: pieces)).head? = piece.head? := by
  cases pieces with
  | nil => rfl
  | cons next others =>
      simp only [join, List.append_assoc]
      exact List.head?_append_of_ne_nil piece present

end Pieces

section Span

/-! ## The beginning of a text -/

variable {test : Char -> Bool} {inside after : List Char}

/-- A class of characters is read as far as it goes, and what follows is left. -/
theorem takeWhile_span (all : forall c, c ∈ inside -> test c = true)
    (ends : forall c, after.head? = some c -> test c = false) :
    (inside ++ after).takeWhile test = inside := by
  rw [List.takeWhile_append_of_pos all]
  cases after with
  | nil => exact List.append_nil inside
  | cons c rest => rw [List.takeWhile_cons_of_neg (by rw [ends c rfl]; decide), List.append_nil]

theorem dropWhile_span (all : forall c, c ∈ inside -> test c = true)
    (ends : forall c, after.head? = some c -> test c = false) :
    (inside ++ after).dropWhile test = after := by
  rw [List.dropWhile_append_of_pos all]
  cases after with
  | nil => rfl
  | cons c rest => rw [List.dropWhile_cons_of_neg (by rw [ends c rfl]; decide)]

end Span

section Classes

/-! ## Letters and digits -/

variable {c : Char}

theorem toNat_of_isDigit (digit : c.isDigit = true) : 48 ≤ c.toNat ∧ c.toNat ≤ 57 := by
  simpa [Char.isDigit, UInt32.le_iff_toNat_le] using digit

theorem toNat_of_isAlpha (letter : c.isAlpha = true) :
    65 ≤ c.toNat ∧ c.toNat ≤ 90 ∨ 97 ≤ c.toNat ∧ c.toNat ≤ 122 := by
  have either : (c.isUpper || c.isLower) = true := letter
  rcases Bool.or_eq_true_iff.mp either with upper | lower
  · have bounds : 65 <= c.val ∧ c.val <= 90 := of_decide_eq_true upper
    exact Or.inl bounds
  · have bounds : (decide (97 <= c.val) && decide (c.val <= 122)) = true := lower
    rw [Bool.and_eq_true, decide_eq_true_eq, decide_eq_true_eq] at bounds
    exact Or.inr bounds

theorem isBlank_of_isDigit (digit : c.isDigit = true) : isBlank c = false := by
  have bounds := toNat_of_isDigit digit
  simp [isBlank, blankRanges, inRanges]
  omega

theorem isBlank_of_isAlpha (letter : c.isAlpha = true) : isBlank c = false := by
  have bounds := toNat_of_isAlpha letter
  simp [isBlank, blankRanges, inRanges]
  omega

theorem isDigit_of_isAlpha (letter : c.isAlpha = true) : c.isDigit = false := by
  rw [Bool.eq_false_iff]
  intro digit
  have bounds := toNat_of_isDigit digit
  have others := toNat_of_isAlpha letter
  omega

theorem isAlpha_of_isDigit (digit : c.isDigit = true) : c.isAlpha = false := by
  rw [Bool.eq_false_iff]
  intro letter
  rw [isDigit_of_isAlpha letter] at digit
  exact Bool.false_ne_true digit

end Classes

section Ends

/-! ## Blanks at the ends -/

variable {text : List Char}

theorem dropWhile_eq_self_iff {test : Char -> Bool} :
    text.dropWhile test = text ↔ forall c, text.head? = some c -> test c = false := by
  cases text with
  | nil => simp
  | cons c rest => simp [List.dropWhile_eq_self_iff]

theorem dropEnd_eq_self_iff {test : Char -> Bool} :
    dropEnd test text = text ↔ forall c, text.getLast? = some c -> test c = false := by
  unfold dropEnd
  rw [List.reverse_eq_iff, dropWhile_eq_self_iff, List.head?_reverse]

/-- Trimming leaves those texts as they are that neither begin nor end with a blank. -/
theorem trim_eq_self_iff :
    trim text = text
      ↔ (forall c, text.head? = some c -> isBlank c = false)
        ∧ forall c, text.getLast? = some c -> isBlank c = false := by
  constructor
  · intro trimmed
    have shorter : (trim text).length ≤ (trimLeft text).length := by
      unfold trim trimRight dropEnd
      rw [List.length_reverse]
      exact (List.dropWhile_suffix isBlank).length_le.trans_eq List.length_reverse
    have suffix : trimLeft text <:+ text := List.dropWhile_suffix isBlank
    have left : trimLeft text = text :=
      suffix.eq_of_length (Nat.le_antisymm suffix.length_le (by rwa [trimmed] at shorter))
    have right : trimRight text = text := by
      rw [← left]
      exact (trimmed.trans left.symm)
    exact ⟨dropWhile_eq_self_iff.mp left, dropEnd_eq_self_iff.mp right⟩
  · rintro ⟨first, last⟩
    unfold trim
    rw [show trimLeft text = text from dropWhile_eq_self_iff.mpr first]
    exact dropEnd_eq_self_iff.mpr last

theorem trim_of_noBlank (visible : forall c, c ∈ text -> isBlank c = false) : trim text = text :=
  trim_eq_self_iff.mpr
    ⟨fun c first => visible c (List.mem_of_mem_head? first),
      fun c last => visible c (List.mem_of_mem_getLast? last)⟩

/-- Blanks before a text do not matter. -/
theorem trim_blanks_append {before : List Char} (blank : forall c, c ∈ before -> isBlank c = true)
    (text : List Char) : trim (before ++ text) = trim text := by
  unfold trim trimLeft
  rw [List.dropWhile_append_of_pos blank]

/-- Blanks after a text do not matter. -/
theorem trim_append_blanks {after : List Char} (blank : forall c, c ∈ after -> isBlank c = true)
    (text : List Char) : trim (text ++ after) = trim text := by
  have empty : after.dropWhile isBlank = [] := List.dropWhile_eq_nil_iff.mpr blank
  unfold trim trimLeft
  rw [List.dropWhile_append]
  split
  · rename_i nothing
    rw [empty, List.isEmpty_iff.mp nothing]
  · unfold trimRight dropEnd
    rw [List.reverse_append, List.dropWhile_append_of_pos]
    exact fun c member => blank c (List.mem_reverse.mp member)

/-- Trimming takes blanks away, and nothing else. -/
theorem exists_trim (text : List Char) :
    ∃ before after, text = before ++ (trim text ++ after)
      ∧ (forall c, c ∈ before -> isBlank c = true)
      ∧ forall c, c ∈ after -> isBlank c = true := by
  refine ⟨text.takeWhile isBlank, ((trimLeft text).reverse.takeWhile isBlank).reverse, ?_, ?_, ?_⟩
  · unfold trim trimRight dropEnd
    rw [<- List.reverse_append, List.takeWhile_append_dropWhile, List.reverse_reverse]
    exact List.takeWhile_append_dropWhile.symm
  · exact fun c member => List.mem_takeWhile_imp member
  · exact fun c member => List.mem_takeWhile_imp (List.mem_reverse.mp member)

theorem trim_trim (text : List Char) : trim (trim text) = trim text := by
  rcases exists_trim text with ⟨before, after, surrounded, blankBefore, blankAfter⟩
  calc
    trim (trim text) = trim (trim text ++ after) := (trim_append_blanks blankAfter _).symm
    _ = trim (before ++ (trim text ++ after)) := (trim_blanks_append blankBefore _).symm
    _ = trim text := congrArg trim surrounded.symm

theorem mem_of_mem_trim {c : Char} (member : c ∈ trim text) : c ∈ text := by
  rcases exists_trim text with ⟨before, after, surrounded, _⟩
  rw [surrounded]
  exact List.mem_append_right _ (List.mem_append_left _ member)

/-- A text is blank just if nothing in it is visible. -/
theorem allBlank_eq_false_iff : allBlank text = false ↔ ∃ c, c ∈ text ∧ isBlank c = false := by
  simp [allBlank]

/-- Nothing is left of a text just if it is blank. -/
theorem isEmpty_trim (text : List Char) : (trim text).isEmpty = allBlank text := by
  rw [Bool.eq_iff_iff, List.isEmpty_iff, allBlank, List.all_eq_true]
  constructor
  · intro nothing
    rcases exists_trim text with ⟨before, after, surrounded, blankBefore, blankAfter⟩
    rw [nothing, List.nil_append] at surrounded
    intro c member
    rw [surrounded, List.mem_append] at member
    exact member.elim (blankBefore c) (blankAfter c)
  · intro blank
    have empty : trimLeft text = [] := List.dropWhile_eq_nil_iff.mpr blank
    rw [trim, empty]
    rfl

/-- Only the ends count for the blanks around a text. -/
theorem trim_append {first last : List Char} (begins : first ≠ []) (finishes : last ≠ [])
    (trimFirst : trim first = first) (trimLast : trim last = last) (middle : List Char) :
    trim (first ++ middle ++ last) = first ++ middle ++ last := by
  rw [trim_eq_self_iff] at trimFirst trimLast ⊢
  rw [List.append_assoc, List.head?_append_of_ne_nil _ begins, ← List.append_assoc,
    List.getLast?_append_of_ne_nil _ finishes]
  exact ⟨trimFirst.1, trimLast.2⟩

/-- What begins a text and needs no trimming still begins it when the text is trimmed. -/
theorem exists_trim_append {first : List Char} (begins : first ≠ []) (trimmed : trim first = first)
    (rest : List Char) : ∃ kept, trim (first ++ rest) = first ++ kept := by
  rcases exists_trim rest with ⟨before, after, surrounded, blankBefore, blankAfter⟩
  by_cases nothing : trim rest = []
  · have blank : forall c, c ∈ rest -> isBlank c = true := by
      rw [surrounded, nothing, List.nil_append]
      exact fun c member => (List.mem_append.mp member).elim (blankBefore c) (blankAfter c)
    exact ⟨[], by rw [trim_append_blanks blank, trimmed, List.append_nil]⟩
  · refine ⟨before ++ trim rest, ?_⟩
    calc
      trim (first ++ rest) = trim (first ++ before ++ trim rest ++ after) := by
        rw [List.append_assoc, List.append_assoc, <- surrounded]
      _ = trim (first ++ before ++ trim rest) := trim_append_blanks blankAfter _
      _ = first ++ before ++ trim rest :=
        trim_append begins nothing trimmed (trim_trim rest) before
      _ = first ++ (before ++ trim rest) := List.append_assoc _ _ _

theorem trim_join {between : List Char} {pieces : List (List Char)}
    (filled : forall piece, piece ∈ pieces -> piece ≠ [])
    (trimmed : forall piece, piece ∈ pieces -> trim piece = piece) :
    trim (join between pieces) = join between pieces := by
  induction pieces with
  | nil => rfl
  | cons piece pieces inductionHypothesis =>
      have first := trimmed piece List.mem_cons_self
      have filledLater : forall other, other ∈ pieces -> other ≠ [] :=
        fun other member => filled other (List.mem_cons_of_mem piece member)
      have later := inductionHypothesis filledLater
        fun other member => trimmed other (List.mem_cons_of_mem piece member)
      cases pieces with
      | nil => exact first
      | cons next others =>
          exact trim_append (filled piece List.mem_cons_self)
            (join_ne_nil (List.cons_ne_nil next others) filledLater) first later between

/-- Blanks around a text do not matter to its pieces, if these are trimmed. -/
theorem map_trim_splitOn_trim {separator : Char} (visible : isBlank separator = false)
    (text : List Char) :
    (splitOn separator (trim text)).map trim = (splitOn separator text).map trim := by
  have free (blanks : List Char) (blank : forall c, c ∈ blanks -> isBlank c = true) :
      separator ∉ blanks := by
    intro member
    rw [blank separator member] at visible
    exact Bool.noConfusion visible
  rcases exists_trim text with ⟨before, after, surrounded, blankBefore, blankAfter⟩
  rcases splitOn_append_right (trim text) (free after blankAfter) with
    ⟨pieces, piece, cut, cutAfter⟩
  rcases List.exists_cons_of_ne_nil (splitOn_ne_nil separator (trim text ++ after)) with
    ⟨head, others, cutHead⟩
  have cutBefore := splitOn_append_left (free before blankBefore) cutHead
  rw [<- surrounded] at cutBefore
  calc
    (splitOn separator (trim text)).map trim
        = (splitOn separator (trim text ++ after)).map trim := by
      rw [cut, cutAfter, List.map_append, List.map_append, List.map_singleton, List.map_singleton,
        trim_append_blanks blankAfter]
    _ = (splitOn separator text).map trim := by
      rw [cutHead, cutBefore, List.map_cons, List.map_cons, trim_blanks_append blankBefore]

end Ends

end Text
end DegreeAudit
