import DegreeAudit.Packaged.Requirements
import DegreeAudit.Proofs.Planner.Pasting
import DegreeAudit.Proofs.Planner.RoundTrip
import DegreeAudit.Proofs.Requirement.WellFormed
import DegreeAudit.Proofs.Text.LetterCase
import DegreeAudit.Proofs.Transcript.Account
import DegreeAudit.Proofs.Transcript.Table

namespace DegreeAudit

/-!
# Requirements that a transcript meets

A code that is required can come from a transcript only if the reader of transcripts takes it for a
code.  Of the codes that the packaged requirements name, most are words of its grammar: a row with
such a code adds its course, whatever its name looks like, and the code is held from then on.  The
codes of English and of sports are no such words.  Their rows are skipped, no text at all makes them
held, and so no cohort is done with pasted courses alone.
-/

section Codes

/-! ## The codes that requirements name -/

variable {κ : Type}

def AnyOf.codes (choice : AnyOf) : List String :=
  choice.options.flatten

def TheoryLab.codes (rule : TheoryLab) : List String :=
  rule.theoryAll.getD [] ++ rule.theoryAny ++ rule.labAny

def AreaRule.codes (area : AreaRule κ) : List String :=
  area.required.codes ++ area.choice.toList.flatMap AnyOf.codes

def Checklist.codes (list : Checklist) : List String :=
  list.all.codes ++ list.one.toList.flatMap AnyOf.codes

/-- The codes that are named for a cohort, those of the sciences and of all areas included. -/
def Cohort.codes (cohort : Cohort κ) : List String :=
  cohort.math.required.codes ++ cohort.math.elective.codes
    ++ [cohort.science.physics, cohort.science.chemistry, cohort.science.biology].flatMap
      TheoryLab.codes
    ++ cohort.areas.flatMap AreaRule.codes

/-- The codes that are named for a track. -/
def Track.codes (track : Track) : List String :=
  track.additions.codes ++ track.lists.flatMap Checklist.codes

/-- All codes that are named by some clause; an option of a choice counts with each of its parts. -/
def Requirements.codes (requirements : Requirements κ) : List String :=
  requirements.cohorts.flatMap Cohort.codes ++ requirements.tracks.flatMap Track.codes

end Codes

/-- Of codes that are written otherwise than those of rows, a paste changes nothing. -/
theorem Planner.held_importPaste_iff (supplied : Option (Requirements Float))
    (state : PlannerState) (text : String) (ids : IdSupply) {code : String}
    (other : ¬ Transcript.HoldsCode (normalizeCode code).toList) :
    Audit.Held (Planner.importPaste supplied text state ids).state.courses code
      ↔ Audit.Held state.courses code := by
  cases active : Planner.activeTrack supplied state with
  | error failure => rw [Planner.importPaste_of_failed active]
  | ok track =>
      rw [Planner.importPaste_of_active active, Audit.Held, Audit.Held, Planner.mem_heldKeys_iff,
        Planner.mem_heldKeys_iff, Planner.keysOf_heldAfter, List.mem_append, List.mem_reverse]
      refine or_iff_right fun added => ?_
      exact other (Transcript.holdsCode_of_mem_recognizedKeys
        (Transcript.mem_addedKeys_iff.mp added).1)

namespace Packaged

open Transcript (GradedRow IsCell IsCodeWord HoldsCode plausibleCredits?)
open Planner (importPaste)

section Required

/-! ## The packaged requirements -/

/-- The codes of English and sports, which are not written as the codes of rows are. -/
def unreadCodes : List String := ["ENG_AE1", "ENG_AE2", "PE1", "PE2"]

/-- They are those of the codes that are no words of the grammar. -/
theorem mem_unreadCodes_iff {code : String} :
    code ∈ unreadCodes ↔ code ∈ requirements.codes ∧ ¬ IsCodeWord code.toList := by
  have others : forall code, code ∈ requirements.codes -> ¬ IsCodeWord code.toList ->
      code ∈ unreadCodes := by
    decide +kernel
  constructor
  · revert code
    decide
  · exact fun named => others code named.1 named.2

/-- The numbers in all other codes are too large for credits. -/
theorem plausibleCredits?_of_mem_codes : forall code, code ∈ requirements.codes ->
    code ∉ unreadCodes -> plausibleCredits? code.toList = none := by
  decide +kernel

theorem isCell_of_mem_codes : forall code, code ∈ requirements.codes -> IsCell code.toList := by
  decide +kernel

theorem not_holdsCode_of_unread : forall code, code ∈ unreadCodes ->
    ¬ HoldsCode code.toList ∧ ¬ HoldsCode (normalizeCode code).toList := by
  decide

/-- No text makes one of these codes held. -/
theorem not_held_unread_of_importPaste {code : String} (unread : code ∈ unreadCodes)
    (supplied : Option (Requirements Float)) {state : PlannerState} (empty : state.courses = [])
    (text : String) (ids : IdSupply) :
    ¬ Audit.Held (importPaste supplied text state ids).state.courses code := by
  rw [Planner.held_importPaste_iff supplied state text ids (not_holdsCode_of_unread code unread).2,
    empty]
  rintro ⟨course, member, _⟩
  cases member

/-- So no cohort is done with what is pasted alone, since all of them ask for English. -/
theorem satisfied_importPaste_eq_false {cohort : Cohort Float}
    (listed : cohort ∈ requirements.cohorts) (track : Track) (trackType : TrackType)
    (supplied : Option (Requirements Float)) {state : PlannerState} (empty : state.courses = [])
    (text : String) (ids : IdSupply) :
    (Audit.evaluate (importPaste supplied text state ids).state.courses cohort track
      trackType).satisfied = false := by
  have asked : cohort.english.required.codes = ["ENG_AE1", "ENG_AE2"] := by
    revert cohort
    decide
  rw [Bool.eq_false_iff]
  intro satisfied
  rcases (Audit.area_ok_iff _ _ _).mp (Audit.english_ok_of_satisfied satisfied) with ⟨_, held, _⟩
  rw [asked] at held
  exact not_held_unread_of_importPaste (by decide) supplied empty text ids
    (held "ENG_AE1" List.mem_cons_self)

theorem check_singleton_iff (courses : List (Course Float)) (code : String) :
    (AllOf.mk [code]).check courses = true ↔ Audit.Held courses code := by
  rw [AllOf.check, Audit.hasAll_iff]
  exact List.forall_mem_singleton

/-- A row with a code that the packaged requirements name, pasted where nothing is held, adds its
course and meets what is asked for with the code.  The codes of English and sports are the
exception: their rows are skipped and nothing is met. -/
theorem importPaste_required {supplied : Option (Requirements Float)}
    (tracked : forall given, supplied = some given -> given.tracks ≠ [])
    {state : PlannerState} (empty : state.courses = []) {row : GradedRow}
    (named : row.code ∈ requirements.codes) (ordinary : row.Ordinary) (ids : IdSupply) :
    let paste := importPaste supplied (String.ofList row.line) state ids
    (row.code ∉ unreadCodes ->
      (∃ course, paste.result = .ok ⟨[course], ⟨1, 1, 0⟩⟩
        ∧ paste.state = { state with courses := [course] }
        ∧ course.code = row.code ∧ course.credits = row.value)
      ∧ (AllOf.mk [row.code]).check paste.state.courses = true)
    ∧ (row.code ∈ unreadCodes ->
      paste.result = .ok ⟨[], ⟨1, 0, 1⟩⟩ ∧ paste.state = state
        ∧ (AllOf.mk [row.code]).check paste.state.courses = false) := by
  intro paste
  rcases Planner.exists_activeTrack tracked state with ⟨track, active⟩
  have complete := ordinary.complete (isCell_of_mem_codes row.code named)
  constructor
  · intro read
    have word : IsCodeWord row.code.toList := by
      by_contra other
      exact read (mem_unreadCodes_iff.mpr ⟨named, other⟩)
    have recognized := complete.recognize?_eq word
      (Or.inr (plausibleCredits?_of_mem_codes row.code named read))
    rcases Planner.importPaste_of_recognized active empty complete.isLine recognized ids with
      ⟨course, result, after, code, credits⟩
    refine ⟨⟨course, result, after, code, credits⟩, ?_⟩
    rw [check_singleton_iff, after]
    exact ⟨course, List.mem_cons_self, congrArg normalizeCode code⟩
  · intro unread
    have none := complete.recognize?_eq_none (not_holdsCode_of_unread row.code unread).1
      ordinary.noCode
    rcases Planner.importPaste_of_unrecognized active complete.isLine none ids with
      ⟨result, after⟩
    refine ⟨result, after, ?_⟩
    rw [Bool.eq_false_iff, Ne, check_singleton_iff]
    exact not_held_unread_of_importPaste unread supplied empty _ ids

/-- A row with a part of an option for its code and a grade for its name. -/
def gradeNamedRow : GradedRow :=
  { code := "BE206", name := "b+", credits := "0.50", grade := "p" }

theorem importPaste_required_gradeNamedRow :
    PlannerState.initial.courses = [] ∧ gradeNamedRow.code ∈ requirements.codes
      ∧ gradeNamedRow.code ∉ unreadCodes
      ∧ (∃ course : Course Float,
        (importPaste (some requirements) (String.ofList gradeNamedRow.line) PlannerState.initial
          (IdSupply.random 0)).result = .ok ⟨[course], ⟨1, 1, 0⟩⟩ ∧ course.code = "BE206")
      ∧ (AllOf.mk ["BE206"]).check (importPaste (some requirements)
        (String.ofList gradeNamedRow.line) PlannerState.initial (IdSupply.random 0)).state.courses
        = true := by
  have tracks : requirements.tracks ≠ [] := List.cons_ne_nil _ _
  have initial : PlannerState.initial.courses = [] := rfl
  have named : gradeNamedRow.code ∈ requirements.codes := by decide +kernel
  have read : gradeNamedRow.code ∉ unreadCodes := by decide
  have ordinary : gradeNamedRow.Ordinary := by decide +kernel
  rcases (importPaste_required (Planner.tracked_some tracks)
    initial named ordinary (IdSupply.random 0)).1 read with ⟨⟨course, result, _, code, _⟩, check⟩
  exact ⟨rfl, named, read, ⟨course, result, code⟩, check⟩

/-- An ordinary row of an English course. -/
def englishRow : GradedRow :=
  { code := "ENG_AE1", name := "Academic English", credits := "2", grade := "A0" }

theorem importPaste_skips_englishRow :
    englishRow.code ∈ requirements.codes ∧ englishRow.Ordinary
      ∧ (importPaste (some requirements) (String.ofList englishRow.line) PlannerState.initial
        (IdSupply.random 0)).result = .ok ⟨[], ⟨1, 0, 1⟩⟩
      ∧ (AllOf.mk [englishRow.code]).check (importPaste (some requirements)
        (String.ofList englishRow.line) PlannerState.initial (IdSupply.random 0)).state.courses
        = false := by
  decide +kernel

end Required
end Packaged
end DegreeAudit
