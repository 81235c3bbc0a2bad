import DegreeAudit.Json.Reader
import DegreeAudit.Json.Writer

namespace DegreeAudit
namespace Json

/-!
# Documents that are read back

A value that is written inside containers is read back up to the end of its text.  This is shown
for each kind of value by itself: for strings outright, for lists and objects if it holds of what
is in them.  Where a text ends is seen from what follows it, which for a number has to be a comma,
a new line or nothing.
-/

/-- What follows a text cannot belong to a number at its end. -/
def Delimited (after : List Char) : Prop :=
  forall c, after.head? = some c -> c = ',' ∨ c = '\n'

/-- A value that is written inside `depth` containers is read back where `nesting` more may be
opened, whatever follows it. -/
def ReadsBack (depth nesting : Nat) (value : Json) : Prop :=
  forall (fuel : Nat) (after : List Char), (writeAt depth value).length < fuel -> Delimited after ->
    readValue fuel nesting (writeAt depth value ++ after) = .ok (value, after)

theorem delimited_nil : Delimited [] := by
  intro c impossible
  cases impossible

theorem delimited_comma (after : List Char) : Delimited (',' :: after) := by
  intro c first
  exact Or.inl (Option.some.inj first).symm

theorem delimited_newLine (depth : Nat) (after : List Char) :
    Delimited (newLine depth ++ after) := by
  intro c first
  exact Or.inr (Option.some.inj first).symm

section Gaps

/-! ## Gaps -/

theorem skipGap_newLine (depth : Nat) (text : List Char) :
    skipGap (newLine depth ++ text) = skipGap text := by
  apply List.dropWhile_append_of_pos
  intro c member
  rcases List.mem_cons.mp member with rfl | member
  · decide
  · rcases List.mem_replicate.mp member with ⟨_, rfl⟩
    decide

theorem skipGap_cons {c : Char} (solid : isGap c = false) (rest : List Char) :
    skipGap (c :: rest) = c :: rest :=
  List.dropWhile_cons_of_neg (by rw [solid]; exact Bool.false_ne_true)

/-- Nothing is read from a text that begins with a gap, with the end of a list or with a byte order
mark. -/
theorem solid_of_readValue {fuel nesting : Nat} {c : Char} {rest after : List Char} {value : Json}
    (read : readValue fuel nesting (c :: rest) = .ok (value, after)) :
    isGap c = false ∧ c ≠ ']' ∧ c ≠ Char.ofNat 0xFEFF := by
  refine ⟨?_, ?_, ?_⟩
  · cases gap : isGap c with
    | false => rfl
    | true =>
        simp only [isGap, Bool.or_eq_true, decide_eq_true_eq] at gap
        rcases gap with ((rfl | rfl) | rfl) | rfl <;> (unfold readValue at read; cases read)
  · rintro rfl
    unfold readValue at read
    cases read
  · rintro rfl
    unfold readValue at read
    cases read

end Gaps

section Strings

/-! ## Strings -/

theorem hexValue?_hexDigit {digit : Nat} (small : digit < 16) :
    hexValue? (Text.hexDigit digit) = some digit := by
  revert digit
  decide

theorem hexCode?_hexCode {code : Nat} (small : code < 0x10000) (rest : List Char) :
    hexCode? (Text.hexCode 4 code ++ rest) = some (code, rest) := by
  have digit (number : Nat) : hexValue? (Text.hexDigit (number % 16)) = some (number % 16) :=
    hexValue?_hexDigit (Nat.mod_lt number (by decide))
  have whole : ((code / 16 / 16 / 16 % 16 * 16 + code / 16 / 16 % 16) * 16 + code / 16 % 16) * 16
      + code % 16 = code := by
    omega
  simp only [Text.hexCode, List.nil_append, List.cons_append, hexCode?, digit, Option.bind_eq_bind,
    Option.bind_some, whole]
  rfl

/-- A control character is read back from its escape, if anything stands after it. -/
theorem codeEscaped_hexCode {c : Char} (control : c.toNat < 0x20) {rest : List Char}
    (more : rest ≠ []) : codeEscaped (Text.hexCode 4 c.toNat ++ rest) = .ok (c, rest) := by
  have ended : ((Text.hexCode 4 c.toNat ++ rest).drop 4).isEmpty = false := by
    simpa [Text.hexCode] using more
  have plain : Encoding.Utf16.isHigh c.toNat = false := by
    simp only [Encoding.Utf16.isHigh, Bool.and_eq_false_iff, decide_eq_false_iff_not]
    omega
  have same : Encoding.charOf c.toNat = c := by
    have valid : c.toNat.isValidChar := c.valid
    rw [Encoding.charOf, if_pos valid, Char.ofNat_toNat]
  unfold codeEscaped
  rw [ended, hexCode?_hexCode (by omega)]
  simp only [Bool.false_eq_true, if_false, plain, same]

/-- The escape of a character, and every character that needs none, is read back. -/
theorem readString_writeChar (opening : List Char) {c : Char} {text rest after : List Char}
    {fuel : Nat} (more : rest ≠ []) (later : readString opening fuel rest = .ok (text, after)) :
    readString opening (fuel + 1) (writeChar c ++ rest) = .ok (c :: text, after) := by
  have escaped (letter : Char) (known : letter ≠ 'u') (meaning : escaped? letter = some c) :
      readString opening (fuel + 1) ('\\' :: letter :: rest) = .ok (c :: text, after) := by
    simp [readString, known, meaning, later]
  by_cases quote : c = '"'
  · subst quote
    exact escaped '"' (by decide) rfl
  by_cases backslash : c = '\\'
  · subst backslash
    exact escaped '\\' (by decide) rfl
  by_cases lineFeed : c = '\n'
  · subst lineFeed
    exact escaped 'n' (by decide) rfl
  by_cases carriageReturn : c = '\r'
  · subst carriageReturn
    exact escaped 'r' (by decide) rfl
  by_cases tab : c = '\t'
  · subst tab
    exact escaped 't' (by decide) rfl
  by_cases backspace : c = Char.ofNat 8
  · subst backspace
    exact escaped 'b' (by decide) rfl
  by_cases formFeed : c = Char.ofNat 12
  · subst formFeed
    exact escaped 'f' (by decide) rfl
  by_cases control : c.toNat < 0x20
  · have written : writeChar c ++ rest
        = '\\' :: 'u' :: (Text.hexCode 4 c.toNat ++ rest) := by
      simp [writeChar, quote, backslash, lineFeed, carriageReturn, tab, backspace, formFeed,
        control]
    rw [written]
    simp [readString, codeEscaped_hexCode control more, later]
  · have written : writeChar c ++ rest = c :: rest := by
      simp [writeChar, quote, backslash, lineFeed, carriageReturn, tab, backspace, formFeed,
        control]
    rw [written]
    simp [readString, quote, backslash, control, later]

theorem readString_flatMap (opening after : List Char) {text : List Char} {fuel : Nat}
    (enough : text.length < fuel) :
    readString opening fuel (text.flatMap writeChar ++ '"' :: after) = .ok (text, after) := by
  induction text generalizing fuel with
  | nil =>
      rcases Nat.exists_eq_add_one_of_ne_zero (Nat.ne_of_gt enough) with ⟨fuel, rfl⟩
      rfl
  | cons c text inductionHypothesis =>
      rcases Nat.exists_eq_add_one_of_ne_zero (Nat.ne_of_gt (Nat.zero_lt_of_lt enough)) with
        ⟨fuel, rfl⟩
      rw [List.flatMap_cons, List.append_assoc]
      exact readString_writeChar opening (by simp)
        (inductionHypothesis (Nat.lt_of_succ_lt_succ enough))

theorem length_le_length_flatMap_writeChar (text : List Char) :
    text.length <= (text.flatMap writeChar).length := by
  induction text with
  | nil => exact Nat.le_refl _
  | cons c text inductionHypothesis =>
      have one : 1 <= (writeChar c).length := by
        unfold writeChar
        repeat' split
        all_goals simp
      rw [List.flatMap_cons, List.length_append, List.length_cons]
      omega

theorem readsBack_string (depth nesting : Nat) (text : String) :
    ReadsBack depth nesting (.string text) := by
  intro fuel after enough _
  have written : writeAt depth (.string text) ++ after
      = '"' :: (text.toList.flatMap writeChar ++ '"' :: after) := by
    simp [writeAt, writeText]
  have long : text.toList.length < fuel := by
    have := length_le_length_flatMap_writeChar text.toList
    simp only [writeAt, writeText, List.length_cons, List.length_append] at enough
    omega
  rw [written]
  unfold readValue
  dsimp only
  rw [if_pos rfl, readString_flatMap _ _ long]
  simp [Except.map]

end Strings

section Containers

/-! ## Lists and objects -/

/-- Where a value is read back, its text begins with a character that is neither a gap nor the end
of a list nor a byte order mark. -/
theorem ReadsBack.exists_solid {depth nesting : Nat} {value : Json}
    (readsBack : ReadsBack depth nesting value) :
    ∃ c rest, writeAt depth value = c :: rest ∧ isGap c = false ∧ c ≠ ']'
      ∧ c ≠ Char.ofNat 0xFEFF := by
  have read := readsBack _ [] (Nat.lt_succ_self _) delimited_nil
  rw [List.append_nil] at read
  cases text : writeAt depth value with
  | nil =>
      rw [text] at read
      unfold readValue at read
      cases read
  | cons c rest =>
      rw [text] at read
      exact ⟨c, rest, rfl, solid_of_readValue read⟩

theorem ReadsBack.skipGap_writeAt {depth nesting : Nat} {value : Json}
    (readsBack : ReadsBack depth nesting value) (after : List Char) :
    skipGap (writeAt depth value ++ after) = writeAt depth value ++ after := by
  rcases readsBack.exists_solid with ⟨c, rest, text, solid, _⟩
  rw [text, List.cons_append]
  exact skipGap_cons solid _

/-- Items are read back in their order, up to the end of their list. -/
theorem readItems_writeItems {depth nesting fuel : Nat} (outer : Nat) (after : List Char)
    {items : List Json} (present : items ≠ [])
    (each : forall item, item ∈ items -> ReadsBack depth nesting item)
    {count : Nat} (counted : items.length <= count)
    (enough : (writeItems depth items).length < fuel) :
    readItems (readValue fuel nesting) count
        (skipGap (writeItems depth items ++ (newLine outer ++ ']' :: after)))
      = .ok (items, after) := by
  induction items generalizing count with
  | nil => exact absurd rfl present
  | cons item items inductionHypothesis =>
      rcases Nat.exists_eq_add_one_of_ne_zero
          (Nat.ne_of_gt (Nat.lt_of_lt_of_le (Nat.zero_lt_succ _) counted)) with ⟨count, rfl⟩
      have readsBack := each item List.mem_cons_self
      cases items with
      | nil =>
          simp only [writeItems, List.append_assoc, skipGap_newLine, List.length_append] at enough ⊢
          rw [readsBack.skipGap_writeAt, readItems,
            readsBack _ _ (by omega) (delimited_newLine _ _)]
          simp only [skipGap_newLine, skipGap_cons (c := ']') rfl]
      | cons next others =>
          have later := inductionHypothesis (List.cons_ne_nil _ _)
            (fun other member => each other (List.mem_cons_of_mem item member))
            (Nat.le_of_succ_le_succ counted)
          simp only [writeItems, List.append_assoc, List.cons_append, skipGap_newLine,
            List.length_append, List.length_cons] at enough later ⊢
          rw [readsBack.skipGap_writeAt, readItems,
            readsBack _ _ (by omega) (delimited_comma _)]
          simp only [skipGap_cons (c := ',') rfl]
          rw [later (by omega)]

theorem exists_writeItems (depth : Nat) (item : Json) (items : List Json) :
    ∃ rest, writeItems depth (item :: items) = newLine depth ++ (writeAt depth item ++ rest) := by
  cases items with
  | nil => exact ⟨[], by simp [writeItems]⟩
  | cons next others => exact ⟨',' :: writeItems depth (next :: others), by simp [writeItems]⟩

theorem length_le_length_writeItems (depth : Nat) (items : List Json) :
    items.length <= (writeItems depth items).length := by
  induction items with
  | nil => exact Nat.le_refl _
  | cons item items inductionHypothesis =>
      cases items with
      | nil => simp [writeItems, newLine]
      | cons next others =>
          simp only [writeItems, newLine, List.length_append, List.length_cons] at *
          omega

/-- A text that is no closing bracket where items are expected is read as items. -/
theorem readList_of_solid {reader : List Char -> Read Json} {fuel : Nat} {c : Char}
    {text rest : List Char} (start : skipGap text = c :: rest) (unclosed : c ≠ ']') :
    readList reader fuel text
      = (readItems reader fuel (skipGap text)).map fun (items, rest) => (.list items, rest) := by
  unfold readList
  rw [start]
  split
  · rename_i same
    exact absurd (List.cons.inj same).1 unclosed
  · rfl

/-- A list is read back if its items are, inside one more container. -/
theorem readsBack_list {depth nesting : Nat} {items : List Json}
    (each : forall item, item ∈ items -> ReadsBack (depth + 1) nesting item) :
    ReadsBack depth (nesting + 1) (.list items) := by
  intro fuel after enough _
  cases items with
  | nil =>
      unfold readValue
      simp [writeAt, readList, skipGap, isGap]
  | cons item items =>
      have written : writeAt depth (.list (item :: items)) ++ after
          = '[' :: (writeItems (depth + 1) (item :: items) ++ (newLine depth ++ ']' :: after)) := by
        simp [writeAt]
      have size : (writeItems (depth + 1) (item :: items)).length < fuel := by
        simp only [writeAt, List.length_cons, List.length_append] at enough
        omega
      have counted : (item :: items).length <= fuel :=
        Nat.le_trans (length_le_length_writeItems (depth + 1) _) (Nat.le_of_lt size)
      have first : ∃ c rest, skipGap (writeItems (depth + 1) (item :: items)
          ++ (newLine depth ++ ']' :: after)) = c :: rest ∧ c ≠ ']' := by
        rcases exists_writeItems (depth + 1) item items with ⟨rest, text⟩
        rcases (each item List.mem_cons_self).exists_solid with ⟨c, others, start, solid, other, _⟩
        rw [text, start]
        simp only [List.append_assoc, skipGap_newLine, List.cons_append, skipGap_cons solid]
        exact ⟨c, _, rfl, other⟩
      rcases first with ⟨c, rest, start, other⟩
      rw [written]
      unfold readValue
      simp only [Char.reduceEq, if_false, if_true]
      rw [readList_of_solid start other,
        readItems_writeItems depth after (List.cons_ne_nil _ _) each counted size]
      rfl

theorem put_of_not_mem {key : String} {value : Json} {entries : List (String × Json)}
    (fresh : key ∉ entries.map Prod.fst) : put key value entries = entries ++ [(key, value)] := by
  induction entries with
  | nil => rfl
  | cons entry entries inductionHypothesis =>
      simp only [List.map_cons, List.mem_cons, not_or] at fresh
      rw [put, if_neg (Ne.symm fresh.1), inductionHypothesis fresh.2, List.cons_append]

/-- The text of an entry. -/
def entryText (depth : Nat) (key : String) (value : Json) : List Char :=
  writeText key ++ [':', ' '] ++ writeAt depth value

theorem exists_writeEntries (depth : Nat) (key : String) (value : Json)
    (entries : List (String × Json)) :
    ∃ rest, writeEntries depth ((key, value) :: entries)
      = newLine depth ++ (entryText depth key value ++ rest) := by
  cases entries with
  | nil => exact ⟨[], by simp [writeEntries, entryText]⟩
  | cons next others =>
      exact ⟨',' :: writeEntries depth (next :: others), by simp [writeEntries, entryText]⟩

/-- One entry is read back, and reading goes on with what follows it. -/
theorem readEntries_entryText {depth nesting fuel count : Nat} {key : String} {value : Json}
    {before : List (String × Json)} {after : List Char} (readsBack : ReadsBack depth nesting value)
    (fresh : key ∉ before.map Prod.fst) (counted : (entryText depth key value).length <= count)
    (enough : (entryText depth key value).length < fuel) (delimited : Delimited after) :
    readEntries (readValue fuel nesting) (count + 1) before (entryText depth key value ++ after)
      = match skipGap after with
        | c :: rest =>
            if c.toNat = 0x7D then .ok (before ++ [(key, value)], rest)
            else if c = ',' then
              readEntries (readValue fuel nesting) count (before ++ [(key, value)]) (skipGap rest)
            else .error (.at .comma (c :: rest))
        | [] => .error (.at .comma []) := by
  have text : entryText depth key value ++ after
      = '"' :: (key.toList.flatMap writeChar
          ++ '"' :: ':' :: ' ' :: (writeAt depth value ++ after)) := by
    simp [entryText, writeText]
  have sized : (key.toList.flatMap writeChar).length + (writeAt depth value).length + 4
      = (entryText depth key value).length := by
    simp [entryText, writeText]
    omega
  have long : key.toList.length < count + 1 := by
    have := length_le_length_flatMap_writeChar key.toList
    omega
  have gap : skipGap (' ' :: (writeAt depth value ++ after)) = writeAt depth value ++ after :=
    readsBack.skipGap_writeAt after
  rw [text, readEntries]
  cases left : skipGap after with
  | nil =>
      simp only [readString_flatMap _ _ long, skipGap_cons (c := ':') rfl, gap,
        readsBack fuel after (by omega) delimited, left]
  | cons c rest =>
      simp only [readString_flatMap _ _ long, skipGap_cons (c := ':') rfl, gap,
        readsBack fuel after (by omega) delimited, String.ofList_toList, put_of_not_mem fresh, left]

/-- Entries with different keys are read back in their order after those already read, up to the
end of their object. -/
theorem readEntries_writeEntries {depth nesting fuel : Nat} (outer : Nat) (after : List Char)
    {before entries : List (String × Json)} (present : entries ≠ [])
    (each : forall entry, entry ∈ entries -> ReadsBack depth nesting entry.2)
    (distinct : ((before ++ entries).map Prod.fst).Nodup)
    {count : Nat} (counted : (writeEntries depth entries).length <= count)
    (enough : (writeEntries depth entries).length < fuel) :
    readEntries (readValue fuel nesting) count before
        (skipGap (writeEntries depth entries ++ (newLine outer ++ Char.ofNat 0x7D :: after)))
      = .ok (before ++ entries, after) := by
  induction entries generalizing before count with
  | nil => exact absurd rfl present
  | cons entry entries inductionHypothesis =>
      rcases entry with ⟨key, value⟩
      have readsBack : ReadsBack depth nesting value := each (key, value) List.mem_cons_self
      have fresh : key ∉ before.map Prod.fst := by
        rw [List.map_append, List.nodup_append] at distinct
        intro member
        exact distinct.2.2 key member key List.mem_cons_self rfl
      have start (after : List Char) : skipGap (entryText depth key value ++ after)
          = entryText depth key value ++ after :=
        skipGap_cons (c := '"') rfl _
      have long : 1 <= (newLine depth).length := Nat.succ_le_succ (Nat.zero_le _)
      cases entries with
      | nil =>
          have text : writeEntries depth [(key, value)]
              = newLine depth ++ entryText depth key value := by
            simp [writeEntries, entryText]
          rw [text, List.length_append] at enough counted
          rcases Nat.exists_eq_add_one_of_ne_zero (show count ≠ 0 by omega) with ⟨count, rfl⟩
          rw [text, List.append_assoc, skipGap_newLine, start,
            readEntries_entryText readsBack fresh (by omega) (by omega) (delimited_newLine _ _),
            skipGap_newLine, skipGap_cons (c := Char.ofNat 0x7D) rfl]
          rfl
      | cons next others =>
          have text : writeEntries depth ((key, value) :: next :: others)
              = newLine depth ++ entryText depth key value
                ++ ',' :: writeEntries depth (next :: others) := by
            simp [writeEntries, entryText]
          rw [text, List.length_append, List.length_append, List.length_cons] at enough counted
          rcases Nat.exists_eq_add_one_of_ne_zero (show count ≠ 0 by omega) with ⟨count, rfl⟩
          have later := @inductionHypothesis (before ++ [(key, value)]) (List.cons_ne_nil _ _)
            (fun other member => each other (List.mem_cons_of_mem (key, value) member))
            (by rwa [List.append_assoc]) count (by omega) (by omega)
          rw [text]
          simp only [List.append_assoc, List.cons_append, skipGap_newLine, start] at later ⊢
          rw [readEntries_entryText readsBack fresh (by omega) (by omega) (delimited_comma _),
            skipGap_cons (c := ',') rfl]
          exact later

/-- An object is read back if its values are, inside one more container, and its keys differ. -/
theorem readsBack_object {depth nesting : Nat} {entries : List (String × Json)}
    (each : forall entry, entry ∈ entries -> ReadsBack (depth + 1) nesting entry.2)
    (distinct : (entries.map Prod.fst).Nodup) :
    ReadsBack depth (nesting + 1) (.object entries) := by
  intro fuel after enough _
  cases entries with
  | nil =>
      unfold readValue
      simp [writeAt, readObject, skipGap, isGap]
  | cons entry entries =>
      have written : writeAt depth (.object (entry :: entries)) ++ after
          = Char.ofNat 0x7B :: (writeEntries (depth + 1) (entry :: entries)
            ++ (newLine depth ++ Char.ofNat 0x7D :: after)) := by
        simp [writeAt]
      have size : (writeEntries (depth + 1) (entry :: entries)).length < fuel := by
        simp only [writeAt, List.length_cons, List.length_append] at enough
        omega
      have started : ∃ rest, skipGap (writeEntries (depth + 1) (entry :: entries)
          ++ (newLine depth ++ Char.ofNat 0x7D :: after)) = '"' :: rest := by
        rcases exists_writeEntries (depth + 1) entry.1 entry.2 entries with ⟨rest, text⟩
        rw [text, List.append_assoc, skipGap_newLine]
        exact ⟨_, skipGap_cons (c := '"') rfl _⟩
      have read := @readEntries_writeEntries _ _ _ depth after [] _ (List.cons_ne_nil _ _) each
        distinct _ (Nat.le_of_lt size) size
      rcases started with ⟨rest, start⟩
      rw [start] at read
      have unclosed : ((('"' :: rest).head?.map Char.toNat) == some 0x7D) = false := rfl
      rw [written]
      unfold readValue readObject
      simp only [start, unclosed]
      rw [if_neg (by decide), if_neg (by decide), if_pos (by decide), if_neg Bool.false_ne_true,
        read]
      rfl

end Containers

/-- A document is read from the text that is written for it, also with a gap at the end. -/
theorem read_write {value : Json} (readsBack : ReadsBack 0 callStackDepth value) {gap : List Char}
    (empty : skipGap gap = []) (delimited : Delimited gap) :
    read (write value ++ gap) = .ok value := by
  rcases readsBack.exists_solid with ⟨c, rest, text, _, _, unmarked⟩
  have head : (writeAt 0 value ++ gap).head? ≠ some (Char.ofNat 0xFEFF) := by
    rw [text]
    intro marked
    exact unmarked (Option.some.inj marked)
  have size : (writeAt 0 value).length < (writeAt 0 value ++ gap).length + 1 := by
    rw [List.length_append]
    omega
  unfold read readDocument write
  rw [if_neg head, readsBack.skipGap_writeAt, readsBack _ _ size delimited]
  dsimp only
  rw [empty]

end Json
end DegreeAudit
