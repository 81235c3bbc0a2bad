import DegreeAudit.Compound
import DegreeAudit.Proofs.Text.LetterCase

namespace DegreeAudit

/-!
# Parts of compound codes

A requirement keeps the parts of a compound code as they are written, a course that is entered is
given one code with all its parts normalized, and codes are normalized once more where they are
compared.  All of this depends on the normalized parts alone: on none of the blanks around a code or
its parts, nor on parts that are blank, nor on the case of letters.  Codes that are normalized alike
as a whole have the same parts, since nothing but a plus sign becomes one in upper case.
-/

/-- The normalized codes of the parts of a text that are not blank. -/
def codeParts (text : String) : List String :=
  ((Text.splitOn '+' text.toList).filter fun part => !Text.allBlank part).map fun part =>
    normalizeCode (String.ofList part)

section Codes

/-! ## Normalized codes -/

theorem normalizeCode_trim (text : List Char) :
    normalizeCode (String.ofList (Text.trim text)) = normalizeCode (String.ofList text) := by
  unfold normalizeCode
  rw [String.toList_ofList, String.toList_ofList, Text.trim_trim]

/-- A normalized code is its own normalized form. -/
theorem normalizeCode_normalizeCode (code : String) :
    normalizeCode (normalizeCode code) = normalizeCode code := by
  unfold normalizeCode
  rw [String.toList_ofList, Text.trim_upper (Text.trim_trim code.toList), Text.upper_upper]

theorem normalizeCode_ne_nil {code : List Char} (visible : Text.allBlank code = false) :
    (normalizeCode (String.ofList code)).toList ≠ [] := by
  unfold normalizeCode
  rw [String.toList_ofList, String.toList_ofList]
  apply Text.upper_ne_nil
  rw [<- Text.isEmpty_trim] at visible
  exact List.isEmpty_eq_false_iff.mp visible

end Codes

section Parts

/-! ## Parts -/

variable {text : String}

theorem ne_nil_of_mem_codeParts {part : String} (member : part ∈ codeParts text) :
    part.toList ≠ [] := by
  rcases List.mem_map.mp member with ⟨piece, kept, rfl⟩
  exact normalizeCode_ne_nil (by simpa using (List.mem_filter.mp kept).2)

/-- The parts that a requirement keeps are those that are compared. -/
theorem map_normalizeCode_splitCompound (text : String) :
    (splitCompound text).map normalizeCode = codeParts text := by
  unfold splitCompound codeParts
  rw [List.filter_map, List.map_map, List.map_map]
  have kept : ((fun part : List Char => !part.isEmpty) ∘ Text.trim)
      = fun part => !Text.allBlank part :=
    funext fun part => congrArg (fun empty => !empty) (Text.isEmpty_trim part)
  rw [kept]
  exact List.map_congr_left fun part _ => normalizeCode_trim part

theorem codeParts_trim (text : String) :
    codeParts (String.ofList (Text.trim text.toList)) = codeParts text := by
  rw [<- map_normalizeCode_splitCompound, <- map_normalizeCode_splitCompound]
  unfold splitCompound
  rw [String.toList_ofList, Text.map_trim_splitOn_trim (by decide)]

theorem codeParts_of_noPlus {code : List Char} (single : '+' ∉ code) :
    codeParts (String.ofList code)
      = if Text.allBlank code then [] else [normalizeCode (String.ofList code)] := by
  unfold codeParts
  rw [String.toList_ofList, Text.splitOn_of_not_mem single]
  cases blank : Text.allBlank code <;> simp [blank]

theorem codeParts_upper (text : List Char) :
    codeParts (String.ofList (Text.upper text)) = codeParts (String.ofList text) := by
  have blank : ((fun part => !Text.allBlank part) ∘ Text.upper)
      = fun part => !Text.allBlank part := by
    funext part
    simp only [Function.comp_apply, Text.allBlank_upper]
  have key : ((fun part => normalizeCode (String.ofList part)) ∘ Text.upper)
      = fun part => normalizeCode (String.ofList part) := by
    funext part
    simp only [Function.comp_apply, normalizeCode, String.toList_ofList, Text.trim_upper_eq,
      Text.upper_upper]
  unfold codeParts
  rw [String.toList_ofList, String.toList_ofList, Text.splitOn_plus_upper, List.filter_map,
    List.map_map, blank, key]

/-- Normalizing a code as a whole keeps its parts. -/
theorem codeParts_normalizeCode (code : String) :
    codeParts (normalizeCode code) = codeParts code := by
  rw [normalizeCode, codeParts_upper, codeParts_trim]

theorem joinCompound_singleton (part : String) : joinCompound [part] = part :=
  String.ofList_toList

end Parts

section Entries

/-! ## Codes that are entered -/

/-- A compound code is entered as the compound of its normalized parts. -/
theorem normalizeCompound_of_plus {text : String} (several : '+' ∈ Text.trim text.toList) :
    normalizeCompound text = joinCompound (codeParts text) := by
  unfold normalizeCompound
  dsimp only
  rw [if_pos (List.contains_iff_mem.mpr several), <- codeParts_trim text, codeParts,
    String.toList_ofList]

/-- Any other code is entered as it is, without the blanks around it. -/
theorem normalizeCompound_of_noPlus {text : String} (single : '+' ∉ Text.trim text.toList) :
    normalizeCompound text = String.ofList (Text.trim text.toList)
      ∧ codeParts text
        = if Text.allBlank (Text.trim text.toList) then []
          else [normalizeCode (String.ofList (Text.trim text.toList))] := by
  rw [<- codeParts_trim text, codeParts_of_noPlus single]
  refine ⟨?_, rfl⟩
  unfold normalizeCompound
  dsimp only
  rw [if_neg (fun contained => single (List.contains_iff_mem.mp contained))]

/-- A code that is entered is compared as the compound of its normalized parts is. -/
theorem normalizeCode_normalizeCompound (text : String) :
    normalizeCode (normalizeCompound text) = normalizeCode (joinCompound (codeParts text)) := by
  by_cases several : '+' ∈ Text.trim text.toList
  · rw [normalizeCompound_of_plus several]
  · -- a single code is entered in its own spelling, and may be blank
    rcases normalizeCompound_of_noPlus several with ⟨entered, parts⟩
    rw [entered, parts]
    split
    · rename_i blank
      rw [<- Text.isEmpty_trim, Text.trim_trim, List.isEmpty_iff] at blank
      rw [blank]
      rfl
    · rw [joinCompound_singleton, normalizeCode_normalizeCode]

/-- A code with a part that is not blank is not taken for none. -/
theorem normalizeCompound_ne_nil {text : String} (said : codeParts text ≠ []) :
    (normalizeCompound text).toList ≠ [] := by
  by_cases several : '+' ∈ Text.trim text.toList
  · rw [normalizeCompound_of_plus several, joinCompound, Text.joinStrings, String.toList_ofList]
    apply Text.join_ne_nil
    · exact fun nothing => said (List.map_eq_nil_iff.mp nothing)
    · intro part member
      rcases List.mem_map.mp member with ⟨code, listed, rfl⟩
      exact ne_nil_of_mem_codeParts listed
  · rcases normalizeCompound_of_noPlus several with ⟨entered, parts⟩
    rw [entered, String.toList_ofList]
    intro nothing
    rw [nothing] at parts
    exact said parts

/-- A code is entered as nothing just if none of its parts says anything. -/
theorem normalizeCompound_eq_empty_iff (text : String) :
    normalizeCompound text = "" ↔ codeParts text = [] := by
  constructor
  · intro nothing
    by_contra said
    exact normalizeCompound_ne_nil said (by rw [nothing]; rfl)
  · intro nothing
    by_cases several : '+' ∈ Text.trim text.toList
    · rw [normalizeCompound_of_plus several, nothing]
      rfl
    · rcases normalizeCompound_of_noPlus several with ⟨entered, parts⟩
      have blank : Text.allBlank (Text.trim text.toList) = true := by
        by_contra visible
        rw [nothing, if_neg visible] at parts
        cases parts
      rw [<- Text.isEmpty_trim, Text.trim_trim, List.isEmpty_iff] at blank
      rw [entered, blank]

end Entries

end DegreeAudit
