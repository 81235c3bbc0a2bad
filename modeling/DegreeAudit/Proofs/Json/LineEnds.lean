import DegreeAudit.Json.Writer
import DegreeAudit.Text.Newline

namespace DegreeAudit

/-!
# Ends of lines in documents

The text of a document has no carriage return in it: one in a string is escaped, and lines end with
a line feed.  So nothing is lost where every way to end a line is read as a line feed.
-/

theorem Text.noReturn_digitsOf (number : Nat) : '\r' ∉ Text.digitsOf number := by
  intro member
  exact absurd (Nat.isDigit_of_mem_toDigits (by decide) (by decide) member) (by decide)

theorem Text.noReturn_ofInt (value : Int) : '\r' ∉ Text.ofInt value := by
  cases value with
  | ofNat number => exact noReturn_digitsOf number
  | negSucc number =>
      intro member
      rcases List.mem_cons.mp member with impossible | member
      · exact absurd impossible (by decide)
      · exact noReturn_digitsOf _ member

namespace Number

theorem noReturn_significant (number : Nat) : '\r' ∉ significant number := by
  unfold significant
  split
  · decide
  · intro member
    have kept := (List.dropWhile_suffix _).subset (List.mem_reverse.mp member)
    exact Text.noReturn_digitsOf number (List.mem_reverse.mp kept)

theorem noReturn_exponentText (exponent : Int) : '\r' ∉ exponentText exponent := by
  have size := Text.noReturn_digitsOf exponent.natAbs
  unfold exponentText
  dsimp only
  split <;> split <;> simp [size]

theorem noReturn_text (layout : RealLayout) (plain : '\r' ∉ layout.wholeMark) {digits : List Char}
    (clean : '\r' ∉ digits) (leading : Int) : '\r' ∉ layout.text digits leading := by
  have early (count : Nat) : '\r' ∉ digits.take count :=
    fun member => clean (List.mem_of_mem_take member)
  have late (count : Nat) : '\r' ∉ digits.drop count :=
    fun member => clean (List.mem_of_mem_drop member)
  have exponent := noReturn_exponentText leading
  unfold RealLayout.text
  dsimp only
  split
  · split
    · simp [clean]
    · split <;> simp [early, late, plain]
  · have tail := late 1
    split <;> simp [early, tail, exponent, -List.drop_one]

theorem noReturn_exactText (x : Float) : '\r' ∉ exactText x := by
  have signed (negative : Bool) {text : List Char} (clean : '\r' ∉ text) :
      '\r' ∉ (if negative then '-' :: text else text) := by
    cases negative <;> simpa using clean
  unfold exactText RealLayout.write
  cases view x with
  | nan => decide
  | infinite negative => exact signed negative (by decide)
  | finite negative mantissa exponent =>
      dsimp only
      split
      · exact signed negative (noReturn_text _ (by decide) (by decide) _)
      · exact signed negative (noReturn_text _ (by decide) (noReturn_significant _) _)
end Number

namespace Json

theorem noReturn_hexCode (width code : Nat) : '\r' ∉ Text.hexCode width code := by
  induction width generalizing code with
  | zero => simp [Text.hexCode]
  | succ width inductionHypothesis =>
      have digit : '\r' ≠ Text.hexDigit (code % 16) := by
        have below : code % 16 < 16 := Nat.mod_lt _ (by decide)
        revert below
        generalize code % 16 = digit
        revert digit
        decide
      simp [Text.hexCode, inductionHypothesis, digit]

theorem noReturn_writeChar (c : Char) : '\r' ∉ writeChar c := by
  have code := noReturn_hexCode 4 c.toNat
  unfold writeChar
  repeat' split
  all_goals simp_all [eq_comm]

theorem noReturn_writeText (text : String) : '\r' ∉ writeText text := by
  unfold writeText
  simp [noReturn_writeChar]

theorem noReturn_newLine (depth : Nat) : '\r' ∉ newLine depth := by
  simp [newLine]

mutual

theorem noReturn_writeAt (depth : Nat) : (value : Json) -> '\r' ∉ writeAt depth value
  | .null => by
      rw [writeAt]
      decide
  | .bool true => by
      rw [writeAt]
      decide
  | .bool false => by
      rw [writeAt]
      decide
  | .int value => by
      rw [writeAt]
      exact Text.noReturn_ofInt value
  | .real value => by
      rw [writeAt, writeReal]
      split
      · decide
      · decide
      · decide
      · exact Number.noReturn_exactText value
  | .string value => by
      rw [writeAt]
      exact noReturn_writeText value
  | .list [] => by
      rw [writeAt]
      decide
  | .list (item :: items) => by
      have inside := noReturn_writeItems (depth + 1) (item :: items)
      simp [writeAt, noReturn_newLine, inside]
  | .object [] => by
      rw [writeAt]
      decide
  | .object (entry :: entries) => by
      have inside := noReturn_writeEntries (depth + 1) (entry :: entries)
      simp [writeAt, noReturn_newLine, inside]

theorem noReturn_writeItems (depth : Nat) : (items : List Json) -> '\r' ∉ writeItems depth items
  | [] => by simp [writeItems]
  | [item] => by
      have here := noReturn_writeAt depth item
      simp [writeItems, noReturn_newLine, here]
  | item :: next :: items => by
      have here := noReturn_writeAt depth item
      have later := noReturn_writeItems depth (next :: items)
      simp [writeItems, noReturn_newLine, here, later]

theorem noReturn_writeEntries (depth : Nat) :
    (entries : List (String × Json)) -> '\r' ∉ writeEntries depth entries
  | [] => by simp [writeEntries]
  | [(key, value)] => by
      have here := noReturn_writeAt depth value
      simp [writeEntries, noReturn_newLine, noReturn_writeText, here]
  | (key, value) :: next :: entries => by
      have here := noReturn_writeAt depth value
      have later := noReturn_writeEntries depth (next :: entries)
      simp [writeEntries, noReturn_newLine, noReturn_writeText, here, later]

end

/-- Nothing changes in the text of a document where ends of lines are unified. -/
theorem unifyNewlines_write (value : Json) {gap : List Char} (clean : '\r' ∉ gap) :
    Text.unifyNewlines (write value ++ gap) = write value ++ gap := by
  apply Text.unifyNewlines_of_noReturn
  intro member
  rcases List.mem_append.mp member with inside | after
  · exact noReturn_writeAt 0 value inside
  · exact clean after

end Json
end DegreeAudit
