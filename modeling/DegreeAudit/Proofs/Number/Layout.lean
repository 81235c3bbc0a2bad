import DegreeAudit.Number.Layout
import DegreeAudit.Proofs.Text.Digit
import Mathlib.Data.List.TakeWhile

namespace DegreeAudit
namespace Number

/-!
# Digits that are set out

A number is written with its significant digits, the zeros at their end being left out.  There is
always one of them, so that no text of a number is empty.
-/

section Significant

/-! ## Digits without the zeros at their end -/

/-- Zeros follow the significant digits of a number. -/
theorem exists_significant {number : Nat} (present : number ≠ 0) :
    ∃ count, Text.digitsOf number = significant number ++ List.replicate count '0' := by
  let reversed := (Text.digitsOf number).reverse
  let zeros := reversed.takeWhile (fun digit => digit == '0')
  let others := reversed.dropWhile (fun digit => digit == '0')
  have cut : Text.digitsOf number = others.reverse ++ zeros.reverse := by
    rw [<- List.reverse_append, List.takeWhile_append_dropWhile, List.reverse_reverse]
  have same : zeros.reverse = List.replicate zeros.length '0' := by
    rw [<- List.length_reverse]
    apply List.eq_replicate_length.mpr
    intro c member
    have kept : c ∈ zeros := List.mem_reverse.mp member
    have zero := @List.mem_takeWhile_imp _ (fun digit => digit == '0') reversed c kept
    exact beq_iff_eq.mp zero
  have some : others ≠ [] := by
    intro none
    rw [none, same] at cut
    have first := Text.head?_digitsOf present
    have digit := Text.digitsOf_ne_nil number
    rw [cut] at first digit
    cases count : zeros.length with
    | zero => exact digit (by rw [count]; rfl)
    | succ count' => exact first (by rw [count]; rfl)
  refine ⟨zeros.length, ?_⟩
  have kept : significant number = others.reverse := by
    unfold significant
    split
    case h_1 none => exact absurd none some
    case h_2 => rfl
  rw [kept, cut, same]

theorem significant_ne_nil (number : Nat) : significant number ≠ [] := by
  unfold significant
  split
  case h_1 => exact List.cons_ne_nil _ _
  case h_2 some => exact fun none => some (List.reverse_eq_nil_iff.mp none)

theorem head?_significant {number : Nat} (present : number ≠ 0) :
    (significant number).head? ≠ some '0' := by
  rcases exists_significant present with ⟨count, digits⟩
  have first := Text.head?_digitsOf present
  rw [digits, List.head?_append_of_ne_nil _ (significant_ne_nil number)] at first
  exact first

theorem isDigit_of_mem_significant {number : Nat} (present : number ≠ 0) {c : Char}
    (member : c ∈ significant number) : c.isDigit = true := by
  rcases exists_significant present with ⟨count, digits⟩
  apply @Text.isDigit_of_mem_digitsOf number c
  rw [digits]
  exact List.mem_append_left _ member

end Significant

section Texts

/-! ## Texts -/

theorem text_ne_nil (layout : RealLayout) {digits : List Char} (present : digits ≠ [])
    (leading : Int) : layout.text digits leading ≠ [] := by
  rcases List.exists_cons_of_ne_nil present with ⟨first, rest, rfl⟩
  unfold RealLayout.text
  split
  · split
    · exact List.cons_ne_nil _ _
    · exact List.cons_ne_nil _ _
  · exact List.cons_ne_nil _ _

theorem exactText_ne_nil (x : Float) : exactText x ≠ [] := by
  have signed (negative : Bool) {text : List Char} (present : text ≠ []) :
      (if negative then '-' :: text else text) ≠ [] := by
    cases negative
    · exact present
    · exact List.cons_ne_nil _ _
  unfold exactText RealLayout.write
  cases view x with
  | nan => exact List.cons_ne_nil _ _
  | infinite negative => exact signed negative (List.cons_ne_nil _ _)
  | finite negative mantissa exponent =>
      dsimp only
      split
      · exact signed negative (text_ne_nil _ (List.cons_ne_nil _ _) _)
      · exact signed negative (text_ne_nil _ (significant_ne_nil _) _)

end Texts

end Number
end DegreeAudit
