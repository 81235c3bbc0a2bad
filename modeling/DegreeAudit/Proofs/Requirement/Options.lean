import DegreeAudit.Proofs.Requirement.WellFormed

namespace DegreeAudit

/-!
# Options as they are shown

A report shows an option as the compound of its parts.  The text that is shown is read as the same
option again, and as the code of a course it stands for the option.  What decides this is that the
parts of an option can be told from one another: none is empty, has blanks around it or holds a plus
sign, and none comes to hold one in upper case.

A code that is entered is normalized only if it is compound.  It need not be compound afterwards,
since blank parts are left out of it, but then its one part is normalized already.
-/

section Parts

/-! ## Parts that are joined -/

variable {part text : String} {parts : List String}

theorem IsOptionPart.toList_ne_nil (isPart : IsOptionPart part) : part.toList ≠ [] := by
  rw [Ne, String.toList_eq_nil_iff]
  exact isPart.present

/-- A part stays one when it is normalized. -/
theorem IsOptionPart.normalizeCode (isPart : IsOptionPart part) :
    IsOptionPart (normalizeCode part) := by
  have uppered : (DegreeAudit.normalizeCode part).toList = Text.upper part.toList := by
    rw [DegreeAudit.normalizeCode, String.toList_ofList, isPart.trimmed]
  constructor
  case present =>
    rw [Ne, <- String.toList_eq_nil_iff, uppered]
    exact Text.upper_ne_nil isPart.toList_ne_nil
  case trimmed =>
    rw [uppered]
    exact Text.trim_upper isPart.trimmed
  case single =>
    rw [uppered]
    intro plus
    rcases List.mem_flatMap.mp plus with ⟨c, member, image⟩
    refine Text.plus_not_mem_upperLetter ?_ image
    rintro rfl
    exact isPart.single member

theorem isOptionPart_of_mem_codeParts (member : part ∈ codeParts text) : IsOptionPart part := by
  rw [<- map_normalizeCode_splitCompound] at member
  rcases List.mem_map.mp member with ⟨written, listed, rfl⟩
  exact (isOptionPart_of_mem_splitCompound listed).normalizeCode

/-- The parts of a code are normalized. -/
theorem map_normalizeCode_codeParts (text : String) :
    (codeParts text).map normalizeCode = codeParts text := by
  rw [<- map_normalizeCode_splitCompound, List.map_map]
  exact List.map_congr_left fun part _ => normalizeCode_normalizeCode part

/-- Parts that are joined are told from one another. -/
theorem splitCompound_joinCompound (each : forall part, part ∈ parts -> IsOptionPart part) :
    splitCompound (joinCompound parts) = parts := by
  by_cases present : parts = []
  · rw [present]
    rfl
  · have single : forall piece, piece ∈ parts.map String.toList -> '+' ∉ piece :=
      List.forall_mem_map.mpr fun part listed => (each part listed).single
    have cut : Text.splitOn '+' (joinCompound parts).toList = parts.map String.toList := by
      rw [joinCompound, Text.joinStrings, String.toList_ofList]
      exact Text.splitOn_join (List.map_eq_nil_iff.not.mpr present) single
    have trimmed : (parts.map String.toList).map Text.trim = parts.map String.toList := by
      rw [List.map_map]
      exact List.map_congr_left fun part listed => (each part listed).trimmed
    have kept : (parts.map String.toList).filter (fun piece => !piece.isEmpty)
        = parts.map String.toList := by
      rw [List.filter_eq_self, List.forall_mem_map]
      intro part listed
      simp [(each part listed).toList_ne_nil]
    rw [splitCompound, cut, trimmed, kept, List.map_map]
    exact (List.map_congr_left fun part _ => String.ofList_toList).trans (List.map_id _)

theorem codeParts_joinCompound (each : forall part, part ∈ parts -> IsOptionPart part) :
    codeParts (joinCompound parts) = parts.map normalizeCode := by
  rw [<- map_normalizeCode_splitCompound, splitCompound_joinCompound each]

theorem trim_joinCompound (each : forall part, part ∈ parts -> IsOptionPart part) :
    Text.trim (joinCompound parts).toList = (joinCompound parts).toList := by
  rw [joinCompound, Text.joinStrings, String.toList_ofList]
  apply Text.trim_join
  · exact List.forall_mem_map.mpr fun part listed => (each part listed).toList_ne_nil
  · exact List.forall_mem_map.mpr fun part listed => (each part listed).trimmed

end Parts

section Entries

/-! ## Codes that are entered again -/

variable {text : String}

/-- Blanks around a text are no plus signs. -/
theorem plus_mem_trim (several : '+' ∈ text.toList) : '+' ∈ Text.trim text.toList := by
  have visible : ¬ Text.isBlank '+' = true := by decide
  rcases Text.exists_trim text.toList with ⟨before, after, surrounded, blankBefore, blankAfter⟩
  rw [surrounded, List.mem_append, List.mem_append] at several
  rcases several with inBefore | inside | inAfter
  · exact absurd (blankBefore '+' inBefore) visible
  · exact inside
  · exact absurd (blankAfter '+' inAfter) visible

/-- A compound code is entered with its parts normalized. -/
theorem splitCompound_normalizeCompound (several : '+' ∈ text.toList) :
    splitCompound (normalizeCompound text) = (splitCompound text).map normalizeCode := by
  rw [normalizeCompound_of_plus (plus_mem_trim several), map_normalizeCode_splitCompound]
  exact splitCompound_joinCompound fun part member => isOptionPart_of_mem_codeParts member

/-- Entering a code keeps its parts. -/
theorem codeParts_normalizeCompound (text : String) :
    codeParts (normalizeCompound text) = codeParts text := by
  by_cases several : '+' ∈ Text.trim text.toList
  · rw [normalizeCompound_of_plus several,
      codeParts_joinCompound fun part member => isOptionPart_of_mem_codeParts member,
      map_normalizeCode_codeParts]
  · rw [(normalizeCompound_of_noPlus several).1, codeParts_trim]

/-- A code that was entered is entered as it is. -/
theorem normalizeCompound_normalizeCompound (text : String) :
    normalizeCompound (normalizeCompound text) = normalizeCompound text := by
  have each : forall part, part ∈ codeParts text -> IsOptionPart part :=
    fun part member => isOptionPart_of_mem_codeParts member
  by_cases several : '+' ∈ Text.trim text.toList
  · rw [normalizeCompound_of_plus several]
    by_cases again : '+' ∈ Text.trim (joinCompound (codeParts text)).toList
    · rw [normalizeCompound_of_plus again, codeParts_joinCompound each,
        map_normalizeCode_codeParts]
    · -- one part or none is left of it
      rw [(normalizeCompound_of_noPlus again).1, trim_joinCompound each, String.ofList_toList]
  · rw [(normalizeCompound_of_noPlus several).1]
    have again : '+' ∉ Text.trim (String.ofList (Text.trim text.toList)).toList := by
      rwa [String.toList_ofList, Text.trim_trim]
    rw [(normalizeCompound_of_noPlus again).1, String.toList_ofList, Text.trim_trim]

end Entries

section Labels

/-! ## Labels -/

/-- A text that is typed as the code of a course stands for an option: it has the same normalized
parts, and whoever holds a course with that code holds the option. -/
structure StandsForOption (label : String) (option : List String) : Prop where
  parts : (splitCompound (normalizeCompound label)).map normalizeCode = option.map normalizeCode
  held : forall (κ : Type) (courses : List (Course κ)) (course : Course κ), course ∈ courses ->
    course.code = normalizeCompound label -> AnyOf.optionHeld courses option = true

/-- An option is held once the compound of its normalized parts is. -/
theorem optionHeld_of_key {κ : Type} {courses : List (Course κ)} {option : List String}
    (present : option ≠ [])
    (held : Audit.Held courses (joinCompound (option.map normalizeCode))) :
    AnyOf.optionHeld courses option = true := by
  rw [Audit.optionHeld_iff]
  rcases List.exists_cons_of_ne_nil present with ⟨code, others, rfl⟩
  cases others with
  | nil =>
      -- an option of one code is not looked for as a compound, so the code itself has to be held
      rw [List.map_singleton, joinCompound_singleton, Audit.Held, normalizeCode_normalizeCode]
        at held
      refine Or.inl fun other listed => ?_
      rw [List.mem_singleton.mp listed]
      exact held
  | cons next others => exact Or.inr ⟨Nat.le_add_left 2 others.length, held⟩

namespace AnyOf.WellFormed

variable {choice : AnyOf}

/-- The options of a choice are read from their labels. -/
theorem ofTexts_labels (wellFormed : choice.WellFormed) :
    AnyOf.ofTexts choice.labels = choice := by
  have read : choice.labels.map splitCompound = choice.options := by
    rw [AnyOf.labels, List.map_map]
    refine (List.map_congr_left fun option listed => ?_).trans (List.map_id _)
    exact splitCompound_joinCompound (wellFormed.part option listed)
  have kept : choice.options.filter (fun option => !option.isEmpty) = choice.options := by
    rw [List.filter_eq_self]
    intro option listed
    simp [wellFormed.option option listed]
  rw [AnyOf.ofTexts, read, kept]

/-- The label of an option may be typed for it. -/
theorem standsForOption (wellFormed : choice.WellFormed) {option : List String}
    (listed : option ∈ choice.options) : StandsForOption (joinCompound option) option := by
  have parts := codeParts_joinCompound (wellFormed.part option listed)
  constructor
  case parts => rw [map_normalizeCode_splitCompound, codeParts_normalizeCompound, parts]
  case held =>
    intro κ courses course member code
    refine optionHeld_of_key (wellFormed.option option listed) ⟨course, member, ?_⟩
    rw [code, normalizeCode_normalizeCompound, parts]

end AnyOf.WellFormed

/-- Options are read again from the labels that are shown for them, and each label stands for its
option when it is typed as the code of a course.  Entering a code changes nothing the second time,
and the code of a compound has the normalized parts of what was typed. -/
theorem labels_read_back :
    (forall texts, AnyOf.ofTexts (AnyOf.ofTexts texts).labels = AnyOf.ofTexts texts)
      ∧ (forall texts, List.Forall₂ StandsForOption (AnyOf.ofTexts texts).labels
          (AnyOf.ofTexts texts).options)
      ∧ (forall text, normalizeCompound (normalizeCompound text) = normalizeCompound text)
      ∧ forall text : String, '+' ∈ text.toList ->
        splitCompound (normalizeCompound text) = (splitCompound text).map normalizeCode := by
  refine ⟨fun texts => (wellFormed_ofTexts texts).ofTexts_labels, fun texts => ?_,
    normalizeCompound_normalizeCompound, fun text => splitCompound_normalizeCompound⟩
  rw [AnyOf.labels, List.forall₂_map_left_iff, List.forall₂_same]
  exact fun option listed => (wellFormed_ofTexts texts).standsForOption listed

/-- Options with blanks, blank parts and letters that become two in upper case; the second text
writes none, and the third is left with one part. -/
def looseOptions : List String := ["straße +\tﬁ205", " + ", "be205+"]

theorem labels_read_back_looseOptions :
    (AnyOf.ofTexts looseOptions).labels = ["straße+ﬁ205", "be205"]
      ∧ AnyOf.ofTexts ["straße+ﬁ205", "be205"] = AnyOf.ofTexts looseOptions
      ∧ '+' ∈ "straße +\tﬁ205".toList
      ∧ splitCompound (normalizeCompound "straße +\tﬁ205") = ["STRASSE", "FI205"] := by
  have labels : (AnyOf.ofTexts looseOptions).labels = ["straße+ﬁ205", "be205"] := by
    decide +kernel
  have compound : '+' ∈ "straße +\tﬁ205".toList := by decide +kernel
  rcases labels_read_back with ⟨options, _, _, parts⟩
  refine ⟨labels, ?_, compound, ?_⟩
  · rw [<- labels]
    exact options looseOptions
  · rw [parts _ compound]
    decide +kernel

end Labels

end DegreeAudit
