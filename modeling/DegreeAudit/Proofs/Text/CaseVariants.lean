import DegreeAudit.Proofs.Text.LetterCase
import DegreeAudit.Text.CaseVariants

namespace DegreeAudit
namespace Text

/-!
# The spellings of a letter

A letter is compared with others in the upper case of its lower case.  Which letters agree with a
given one is found by going through the tables backwards, and no letter is missed by that.
-/

section Sources

/-! ## Tables read backwards -/

theorem mem_sourcesOf (rows : List (Nat × Nat × Nat × Nat)) (code : Nat) :
    imageOf rows code = code ∨ code ∈ sourcesOf rows (imageOf rows code) := by
  induction rows with
  | nil => exact Or.inl rfl
  | cons row rows inductionHypothesis =>
      rcases row with ⟨first, last, step, image⟩
      unfold imageOf
      split
      · exact Or.inl rfl
      · rename_i above
        split
        · rename_i here
          rw [Bool.and_eq_true, decide_eq_true_iff] at here
          refine Or.inr (List.mem_filterMap.mpr ⟨_, List.mem_cons_self, ?_⟩)
          have distance : image + (code - first) - image = code - first := by omega
          have bounds : (decide (image ≤ image + (code - first))
              && decide (code - first ≤ last - first) && (code - first) % step == 0) = true := by
            simp only [Bool.and_eq_true, decide_eq_true_iff]
            exact ⟨⟨by omega, by omega⟩, here.2⟩
          dsimp only
          rw [distance, if_pos bounds, Option.some.injEq]
          omega
        · rcases inductionHypothesis with same | source
          · exact Or.inl same
          · rcases List.mem_filterMap.mp source with ⟨entry, listed, made⟩
            exact Or.inr (List.mem_filterMap.mpr ⟨entry, List.mem_cons_of_mem _ listed, made⟩)

/-- The code points of the letters that become one letter where case does not count. -/
def foldSources (mark : Char) : List Nat :=
  let small := mark.toNat :: sourcesOf upperRows mark.toNat
  small ++ small.flatMap (sourcesOf lowerRows)

theorem isValidChar_imageOf_lowerRows (c : Char) :
    (imageOf lowerRows c.toNat).isValidChar := by
  have valid : forall image, image ∈ imagesOf lowerRows -> image.isValidChar := by
    decide +kernel
  rcases imageOf_cases lowerRows c.toNat with same | ⟨_, image⟩
  · rw [same]
    exact c.valid
  · exact valid _ image

theorem isValidChar_of_mem_upperCodes {c : Char} {code : Nat} (member : code ∈ upperCodes c.toNat) :
    code.isValidChar := by
  rcases upperCodes_cases c.toNat with same | ⟨_, large⟩
  · rw [same, List.mem_singleton] at member
    rw [member]
    exact c.valid
  · exact isValidChar_of_large (large code member)

/-- What has one letter as its upper case is that letter, or the table takes it there. -/
theorem mem_of_upperLetter {c mark : Char} (same : upperLetter c = [mark]) :
    c.toNat ∈ mark.toNat :: sourcesOf upperRows mark.toNat := by
  have several : forall entry, entry ∈ upperExpansions -> entry.2.length ≠ 1 := by
    decide
  rcases List.map_eq_singleton_iff.mp same with ⟨code, codes, made⟩
  have valid : code.isValidChar :=
    isValidChar_of_mem_upperCodes (codes ▸ List.mem_singleton_self code)
  rw [<- made, toNat_ofNat valid]
  unfold upperCodes at codes
  split at codes
  · rename_i images found
    exact absurd (congrArg List.length codes) (several _ (mem_of_expansionOf found))
  · rw [List.cons.injEq] at codes
    rw [<- codes.1, List.mem_cons]
    exact (mem_sourcesOf upperRows c.toNat).imp_left Eq.symm

/-- No spelling of a letter is missed by going through the tables backwards. -/
theorem mem_foldSources {c mark : Char} (same : foldLetter c = [mark]) :
    c.toNat ∈ foldSources mark := by
  have small := mem_of_upperLetter same
  unfold lowerLetter at small
  rw [toNat_ofNat (isValidChar_imageOf_lowerRows c)] at small
  rcases mem_sourcesOf lowerRows c.toNat with fixed | source
  · rw [fixed] at small
    exact List.mem_append_left _ small
  · exact List.mem_append_right _ (List.mem_flatMap.mpr ⟨_, small, source⟩)

end Sources

end Text
end DegreeAudit
