namespace DegreeAudit
namespace Text

/-!
The three ways to end a line in a file: a line feed, a carriage return, or a carriage return with
a line feed after it.
-/

/-- The text with every end of a line written as a line feed. -/
def unifyNewlines : List Char -> List Char
  | [] => []
  | '\r' :: '\n' :: rest => '\n' :: unifyNewlines rest
  | c :: rest => (if c = '\r' then '\n' else c) :: unifyNewlines rest

theorem unifyNewlines_of_noReturn {text : List Char} (none : '\r' ∉ text) :
    unifyNewlines text = text := by
  fun_induction unifyNewlines text with
  | case1 => rfl
  | case2 rest ih => simp at none
  | case3 c rest different ih =>
      simp only [List.mem_cons, not_or] at none
      have plain : c ≠ '\r' := fun same => none.1 same.symm
      simp [plain, ih none.2]

end Text
end DegreeAudit
