import DegreeAudit.Proofs.Transcript.Code

namespace DegreeAudit
namespace Transcript

/-!
# The code that is found in a row

The reader of codes goes along a text and takes at each place as many letters and digits as it may.
What it finds is described here without going along: at one place the longest word of the grammar
that begins there, and in a text the one at the leftmost place where any word begins.  A run of
letters may be too long for a code, so the leftmost place can be inside it, and a run of digits may
be too long, so the word can end inside it.

Of the cells of a row the first that is a code as a whole decides, wherever it stands, and only if
there is none the first cell that holds a code.
-/

/-- A word of the grammar at the beginning of a text, and none there is longer. -/
structure IsLongestAt (text word : List Char) : Prop where
  isWord : IsCodeWord word
  begins : word <+: text
  longest : forall other, IsCodeWord other -> other <+: text -> other.length ≤ word.length

/-- The longest word of the grammar at the leftmost place of a text where one begins. -/
def IsFirstIn (text word : List Char) : Prop :=
  ∃ before after, text = before ++ after ∧ IsLongestAt after word
    ∧ forall earlier later, text = earlier ++ later -> earlier.length < before.length ->
      forall other, IsCodeWord other -> ¬ other <+: later

/-- The text of the first cell that is a code as a whole. -/
def IsFirstWhole (cells : List (List Char)) (code : List Char) : Prop :=
  ∃ before cell after, cells = before ++ cell :: after ∧ Text.trim cell = code ∧ IsCodeWord code
    ∧ forall other, other ∈ before -> ¬ IsCodeWord (Text.trim other)

/-- The first code in the first cell that holds one. -/
def IsFirstInside (cells : List (List Char)) (code : List Char) : Prop :=
  ∃ before cell after, cells = before ++ cell :: after ∧ IsFirstIn cell code
    ∧ forall other, other ∈ before -> forall word, IsCodeWord word -> ¬ word <:+: other

section Place

/-! ## At one place of a text -/

variable {text word letters digits ending : List Char}

/-- Where a word of the grammar begins, a code is read, and it is no shorter. -/
theorem CodeParts.exists_codeAt? (parts : CodeParts letters digits ending) (rest : List Char) :
    ∃ code, codeAt? (letters ++ digits ++ ending ++ rest) = some code
      ∧ (letters ++ digits ++ ending).length ≤ code.length := by
  have count := parts.letterCount
  have digitCount := parts.digitCount
  have noLetter := parts.noLetter_head (ending ++ rest)
  unfold codeAt?
  rw [List.append_assoc, List.append_assoc, Text.takeWhile_span parts.letter noLetter,
    Text.dropWhile_span parts.letter noLetter]
  dsimp only
  rw [List.takeWhile_append_of_pos parts.digit]
  cases ending with
  | nil =>
      rw [if_pos (by simp; omega)]
      refine ⟨_, rfl, ?_⟩
      simp
      omega
  | cons last others =>
      have single : others = [] := by
        have few := parts.endingCount
        rw [List.length_cons] at few
        exact List.length_eq_zero_iff.mp (by omega)
      subst single
      have isLetter := parts.last last List.mem_cons_self
      have noDigit := Text.isDigit_of_isAlpha isLetter
      -- the digits end where the last letter stands, so it is read as the ending
      rw [List.singleton_append, List.takeWhile_cons_of_neg (by rw [noDigit]; decide),
        List.append_nil, List.take_of_length_le digitCount.2, List.drop_left]
      rw [if_pos (by simp [count, digitCount])]
      refine ⟨_, rfl, ?_⟩
      simp [isLetter]

/-- What is read at a place is the longest word that begins there. -/
theorem codeAt?_eq_some_iff : codeAt? text = some word ↔ IsLongestAt text word := by
  constructor
  · intro found
    constructor
    case isWord => exact isCodeWord_of_codeAt? found
    case begins => exact prefix_of_codeAt? found
    case longest =>
      rintro other ⟨letters, digits, ending, rfl, parts⟩ ⟨rest, rfl⟩
      rcases parts.exists_codeAt? rest with ⟨code, read, longer⟩
      rcases Option.some.inj (read.symm.trans found) with rfl
      exact longer
  · intro longest
    rcases longest.isWord with ⟨letters, digits, ending, rfl, parts⟩
    rcases longest.begins with ⟨rest, rfl⟩
    rcases parts.exists_codeAt? rest with ⟨code, read, longer⟩
    have begins := prefix_of_codeAt? read
    have shorter := longest.longest code (isCodeWord_of_codeAt? read) begins
    have same := (List.prefix_of_prefix_length_le longest.begins begins longer).eq_of_length
      (Nat.le_antisymm longer shorter)
    rw [read, same]

/-- Nothing is read at a place where no word begins. -/
theorem codeAt?_eq_none_iff :
    codeAt? text = none ↔ forall word, IsCodeWord word -> ¬ word <+: text := by
  constructor
  · rintro none word ⟨letters, digits, ending, rfl, parts⟩ ⟨rest, rfl⟩
    rcases parts.exists_codeAt? rest with ⟨code, read, _⟩
    rw [none] at read
    cases read
  · intro free
    cases read : codeAt? text with
    | none => rfl
    | some code => exact absurd (prefix_of_codeAt? read) (free code (isCodeWord_of_codeAt? read))

end Place

section Whole

/-! ## In a whole text -/

variable {text word : List Char}

/-- A text that begins with a word has its first code there. -/
theorem isFirstIn_of_begins (begins : ∃ other, IsCodeWord other ∧ other <+: text) :
    IsFirstIn text word ↔ IsLongestAt text word := by
  constructor
  · rintro ⟨before, after, cut, longest, leftmost⟩
    cases before with
    | nil =>
        rw [cut]
        exact longest
    | cons c before =>
        rcases begins with ⟨other, isWord, here⟩
        exact absurd here (leftmost [] text rfl (Nat.succ_pos _) other isWord)
  · intro longest
    exact ⟨[], text, rfl, longest, fun _ _ _ less => absurd less (Nat.not_lt_zero _)⟩

/-- A text that does not begin with a word has its first code later. -/
theorem isFirstIn_cons {c : Char} (free : forall other, IsCodeWord other -> ¬ other <+: c :: text) :
    IsFirstIn (c :: text) word ↔ IsFirstIn text word := by
  constructor
  · rintro ⟨before, after, cut, longest, leftmost⟩
    cases before with
    | nil =>
        rw [List.nil_append] at cut
        rw [<- cut] at longest
        exact absurd longest.begins (free word longest.isWord)
    | cons first before =>
        rcases List.cons.inj cut with ⟨rfl, tail⟩
        refine ⟨before, after, tail, longest, ?_⟩
        intro earlier later splits less
        exact leftmost (c :: earlier) later (by rw [splits, List.cons_append])
          (Nat.succ_lt_succ less)
  · rintro ⟨before, after, rfl, longest, leftmost⟩
    refine ⟨c :: before, after, rfl, longest, ?_⟩
    intro earlier later cut less
    cases earlier with
    | nil =>
        rw [List.nil_append] at cut
        rw [<- cut]
        exact free
    | cons first earlier =>
        rcases List.cons.inj cut with ⟨rfl, tail⟩
        exact leftmost earlier later tail (Nat.lt_of_succ_lt_succ less)

/-- The code that is found in a text is its first one. -/
theorem codeIn?_eq_some_iff : codeIn? text = some word ↔ IsFirstIn text word := by
  induction text with
  | nil =>
      refine iff_of_false nofun ?_
      rintro ⟨before, after, cut, longest, _⟩
      rcases List.append_eq_nil_iff.mp cut.symm with ⟨_, rfl⟩
      exact longest.isWord.ne_nil (List.prefix_nil.mp longest.begins)
  | cons c rest inductionHypothesis =>
      unfold codeIn?
      split
      · rename_i code here
        have longest := codeAt?_eq_some_iff.mp here
        rw [isFirstIn_of_begins ⟨code, longest.isWord, longest.begins⟩, <- codeAt?_eq_some_iff, here]
      · rename_i absent
        rw [isFirstIn_cons (codeAt?_eq_none_iff.mp absent), inductionHypothesis]

/-- A text holds a code just if a word of the grammar stands somewhere in it. -/
theorem holdsCode_iff : HoldsCode text ↔ ∃ word, IsCodeWord word ∧ word <:+: text := by
  constructor
  · rintro ⟨letter, first, second, inside, isLetter, isFirst, isSecond⟩
    refine ⟨_, ⟨[letter], [first, second], [], rfl, ?_⟩, inside⟩
    constructor <;> simp [isLetter, isFirst, isSecond]
  · rintro ⟨word, isWord, inside⟩
    exact isWord.holdsCode.of_infix inside

theorem codeIn?_eq_none_iff :
    codeIn? text = none ↔ forall word, IsCodeWord word -> ¬ word <:+: text := by
  rw [<- Option.isNone_iff_eq_none, <- Option.isSome_eq_false_iff, <- Bool.not_eq_true,
    codeIn?_isSome_iff, holdsCode_iff]
  simp only [not_exists, not_and]

end Whole

section Cells

/-! ## In the cells of a row -/

variable {cells : List (List Char)} {code : List Char}

theorem find?_isCode_eq_some_iff :
    (cells.map Text.trim).find? isCode = some code ↔ IsFirstWhole cells code := by
  rw [List.find?_map, Option.map_eq_some_iff]
  constructor
  · rintro ⟨cell, found, rfl⟩
    rcases List.find?_eq_some_iff_append.mp found with ⟨whole, before, after, cut, others⟩
    refine ⟨before, cell, after, cut, rfl, isCode_iff.mp whole, ?_⟩
    intro other member isWord
    have refused := others other member
    rw [Function.comp_apply, isCode_iff.mpr isWord] at refused
    cases refused
  · rintro ⟨before, cell, after, cut, rfl, isWord, others⟩
    refine ⟨cell, List.find?_eq_some_iff_append.mpr ?_, rfl⟩
    refine ⟨isCode_iff.mpr isWord, before, after, cut, ?_⟩
    intro other member
    rw [Function.comp_apply, Bool.not_eq_true', <- Bool.not_eq_true, isCode_iff]
    exact others other member

theorem find?_isCode_eq_none_iff :
    (cells.map Text.trim).find? isCode = none
      ↔ forall cell, cell ∈ cells -> ¬ IsCodeWord (Text.trim cell) := by
  simp only [List.find?_eq_none, List.forall_mem_map, isCode_iff]

theorem findSome?_codeIn?_eq_some_iff :
    cells.findSome? codeIn? = some code ↔ IsFirstInside cells code := by
  rw [List.findSome?_eq_some_iff]
  constructor
  · rintro ⟨before, cell, after, cut, found, others⟩
    exact ⟨before, cell, after, cut, codeIn?_eq_some_iff.mp found,
      fun other member => codeIn?_eq_none_iff.mp (others other member)⟩
  · rintro ⟨before, cell, after, cut, first, others⟩
    exact ⟨before, cell, after, cut, codeIn?_eq_some_iff.mpr first,
      fun other member => codeIn?_eq_none_iff.mpr (others other member)⟩

/-- A code is found in a row unless none of its cells has a letter with two digits after it.  It is
the text of the first cell that is a code as a whole, and if there is no such cell the longest word
at the leftmost place in the first cell that holds one. -/
theorem findCode?_finds (cells : List (List Char)) :
    (findCode? cells = none ↔ forall cell, cell ∈ cells -> ¬ HoldsCode cell)
      ∧ forall code, findCode? cells = some code ↔
        IsFirstWhole cells code
          ∨ (forall cell, cell ∈ cells -> ¬ IsCodeWord (Text.trim cell))
            ∧ IsFirstInside cells code := by
  refine ⟨findCode?_eq_none_iff, fun code => ?_⟩
  unfold findCode?
  split
  · rename_i found whole
    have present : ¬ forall cell, cell ∈ cells -> ¬ IsCodeWord (Text.trim cell) := by
      rw [<- find?_isCode_eq_none_iff, whole]
      exact nofun
    rw [<- find?_isCode_eq_some_iff, whole]
    exact ⟨Or.inl, fun either => either.resolve_right fun inside => present inside.1⟩
  · rename_i absent
    have none := find?_isCode_eq_none_iff.mp absent
    rw [findSome?_codeIn?_eq_some_iff, <- find?_isCode_eq_some_iff, absent]
    exact ⟨fun inside => Or.inr ⟨none, inside⟩, fun either => (either.resolve_left nofun).2⟩

/-- Eight letters and five digits hold a code of six letters and four digits. -/
example : findCode? ["3.0".toList, "x ABCDEFGH12345z".toList] = some "CDEFGH1234".toList := by
  decide

end Cells

end Transcript
end DegreeAudit
