import DegreeAudit.Catalog
import DegreeAudit.Proofs.Json.Magnitude
import DegreeAudit.Requirement.Document

namespace DegreeAudit

/-!
# Requirements and catalogs of documents

Requirements that a document gives have a cohort and a track to fall back on.  Of a moderate
document there are requirements or a fault that is told, whatever it holds in the wrong place: each
function that reads a part of it meets no number that is too large.
-/

open Json (Yields yields_need yields_part yields_find? yields_has yields_elements yields_toText
  yields_toCodes yields_codesAt yields_realAt yields_realOrZero)

namespace Requirements

/-- What a document gives are its cohorts and tracks, and it has some of both. -/
theorem readParts_of_ofDocument {document : Json} {requirements : Requirements Float}
    (given : (ofDocument document).outcome = .ok requirements) :
    (readParts document).outcome = .ok requirements
      ∧ requirements.cohorts ≠ [] ∧ requirements.tracks ≠ [] := by
  unfold ofDocument at given
  dsimp only at given
  split at given
  · cases given
  · rename_i read
    split at given
    · cases given
    · rename_i present
      rcases Except.ok.inj given with rfl
      exact ⟨read, by simpa using present⟩

/-- What a document gives is not empty. -/
theorem present_ofDocument {document : Json} {requirements : Requirements Float}
    (given : (ofDocument document).outcome = .ok requirements) :
    requirements.cohorts ≠ [] ∧ requirements.tracks ≠ [] :=
  (readParts_of_ofDocument given).2

section Parts

/-! ## The parts of a moderate document -/

variable {value : Json} (moderate : value.isModerate = true)

include moderate

theorem yields_readAllOf (key : String) : Yields (fun _ => True) (readAllOf key value) :=
  (yields_codesAt key moderate).andThen fun _ => trivial

theorem yields_readChoice (key : String) (otherwise : Option AnyOf) :
    Yields (fun _ => True) (readChoice key value otherwise) := by
  unfold readChoice
  refine (yields_has key).andThen fun present => ?_
  split
  · exact yields_part key moderate (fun _ _ => yields_toCodes) fun _ => trivial
  · trivial

theorem yields_readArea (obligatory : Bool) :
    Yields (fun _ => True) (readArea obligatory value) := by
  unfold readArea
  refine (yields_readChoice moderate _ _).andThen fun _ => ?_
  refine (yields_readChoice moderate _ _).andThen fun _ => ?_
  refine (yields_realAt _ moderate).andThen fun _ => ?_
  exact (yields_readAllOf moderate _).andThen fun _ => trivial

theorem yields_readTheoryLab : Yields (fun _ => True) (readTheoryLab value) := by
  unfold readTheoryLab
  refine (yields_has _).andThen fun present => ?_
  have rest (theoryAll : Option (List String)) : Yields (fun _ => True) (do
      let theoryAny <- value.codesAt "theoryAnyOf"
      let labAny <- value.codesAt "lab"
      pure (TheoryLab.mk theoryAll theoryAny labAny)) :=
    (yields_codesAt _ moderate).andThen fun _ =>
      (yields_codesAt _ moderate).andThen fun _ => trivial
  split
  · exact yields_part _ moderate (fun _ _ => yields_toCodes) fun _ => rest _
  · exact rest none

theorem yields_readLabel : Yields (fun _ => True) (readLabel value) := by
  unfold readLabel
  refine (yields_find? _ moderate).bind fun _ _ => ?_
  exact (yields_need _ moderate).bind fun _ _ => yields_toText

theorem yields_readMath : Yields (fun _ => True) (readMath value) := by
  unfold readMath
  refine (yields_realOrZero _ moderate).andThen fun _ => ?_
  refine (yields_readAllOf moderate _).andThen fun _ => ?_
  refine (yields_need _ moderate).bind fun _ choice => ?_
  refine yields_part _ choice (fun _ _ => yields_toCodes) fun _ => ?_
  exact yields_part _ moderate (fun _ => yields_realAt _) fun _ => trivial

theorem yields_readCohort : Yields (fun _ => True) (readCohort value) := by
  unfold readCohort
  refine (yields_need _ moderate).bind fun basic moderateBasic => ?_
  refine (yields_need _ moderate).bind fun totals moderateTotals => ?_
  refine (yields_need _ moderate).bind fun advanced moderateAdvanced => ?_
  refine (yields_need _ moderateBasic).bind fun math moderateMath => ?_
  refine (yields_need _ moderateBasic).bind fun science moderateScience => ?_
  refine (yields_need _ moderateScience).bind fun areas moderateAreas => ?_
  refine (yields_find? _ moderateBasic).bind fun arts moderateArts => ?_
  refine yields_part _ moderate (fun _ _ => yields_toText) fun id => ?_
  refine (yields_readLabel moderate).andThen fun label => ?_
  refine (yields_realAt _ moderateTotals).andThen fun total => ?_
  refine (yields_realAt _ moderateTotals).andThen fun basicMinimum => ?_
  refine (yields_realAt _ moderateTotals).andThen fun advancedMinimum => ?_
  refine (yields_readMath moderateMath).andThen fun mathRule => ?_
  refine (yields_realAt _ moderateScience).andThen fun scienceMinimum => ?_
  refine yields_part _ moderateAreas (fun _ => yields_readTheoryLab) fun physics => ?_
  refine yields_part _ moderateAreas (fun _ => yields_readTheoryLab) fun chemistry => ?_
  refine yields_part _ moderateAreas (fun _ => yields_readTheoryLab) fun biology => ?_
  refine yields_part _ moderateBasic (fun _ inner => yields_readArea inner _) fun core => ?_
  refine yields_part _ moderateBasic (fun _ inner => yields_readArea inner _) fun select => ?_
  refine yields_part _ moderateBasic (fun _ inner => yields_readArea inner _) fun humanities => ?_
  refine yields_part _ moderateBasic (fun _ inner => yields_readArea inner _) fun english => ?_
  split
  case' h_1 area something =>
    have inner := moderateArts area (Json.eq_some_of_something? something)
    refine ((yields_readArea inner _).map _).andThen fun artsAndSports => ?_
  case' h_2 => refine Yields.andThen trivial fun artsAndSports => ?_
  all_goals
    refine (yields_realOrZero _ moderateAdvanced).andThen fun track => ?_
    refine (yields_realOrZero _ moderateAdvanced).andThen fun nonTrack => ?_
    refine (yields_realOrZero _ moderateAdvanced).andThen fun ugrp => ?_
    exact (yields_realOrZero _ moderateAdvanced).andThen fun internship => trivial

theorem yields_readChecklist : Yields (fun _ => True) (readChecklist value) := by
  unfold readChecklist
  refine (yields_find? _ moderate).bind fun one _ => ?_
  refine (yields_readAllOf moderate _).andThen fun all => ?_
  split
  · exact yields_toCodes.andThen fun _ => trivial
  · trivial

end Parts

section Rules

/-! ## The rules of a track -/

variable {rules : List (String × Json)} (moderate : Json.isModerate (.object rules) = true)

include moderate

/-- Reading the rules after those of some key is reading them after other rules. -/
theorem yields_readChecklists (track : String) (lists : Checklists) :
    Yields (fun _ => True) (readChecklists track lists rules).outcome := by
  induction rules generalizing lists with
  | nil => trivial
  | cons rule rules inductionHypothesis =>
      rw [Json.isModerate_object, List.forall_mem_cons, <- Json.isModerate_object] at moderate
      obtain ⟨key, rule⟩ := rule
      unfold readChecklists
      split
      · rw [Logged.outcome_bind]
        refine (yields_readChecklist moderate.1).andThen fun list => ?_
        exact inductionHypothesis moderate.2 _
      · rw [Logged.outcome_bind]
        exact inductionHypothesis moderate.2 _

theorem yields_rulesOf (id : Json) :
    Yields (fun own => Json.isModerate (.object own) = true) (rulesOf rules id) := by
  unfold rulesOf
  split
  · exact nofun
  · exact nofun
  · split
    · rfl
    · rename_i entries something
      exact Json.isModerate_of_lookup moderate (Json.eq_some_of_something? something)
    · exact nofun
  · rfl

end Rules

section Whole

/-! ## The whole document -/

theorem yields_readTrack {rules entry : Json} (moderateRules : rules.isModerate = true)
    (moderate : entry.isModerate = true) :
    Yields (fun _ => True) (readTrack rules entry).outcome := by
  unfold readTrack
  rw [Logged.outcome_bind]
  refine Yields.bind
    (show Yields (fun own => Json.isModerate (.object own) = true) _ from ?_)
    fun own moderateOwn => ?_
  · split
    · exact (yields_need _ moderate).bind fun id _ => yields_rulesOf moderateRules id
    · exact nofun
  rw [Logged.outcome_bind]
  refine (yields_need _ moderate).bind fun id _ => ?_
  rw [Logged.outcome_bind]
  refine (yields_readChecklists moderateOwn _ _).andThen fun checklists => ?_
  rw [Logged.outcome_lift]
  refine (yields_find? _ moderate).bind fun additions moderateAdditions => ?_
  split
  case' h_1 added something =>
    have inner := moderateAdditions added (Json.eq_some_of_something? something)
    refine (yields_find? _ inner).bind fun adds _ => ?_
  case' h_2 => refine Yields.andThen trivial fun adds => ?_
  all_goals
    refine yields_toText.andThen fun id => ?_
    refine (yields_readLabel moderate).andThen fun label => ?_
    refine (yields_codesAt _ moderate).andThen fun starts => ?_
    exact yields_toCodes.andThen fun codes => trivial

/-- Each entry is read. -/
theorem yields_readEach {α : Type} {read : Json -> Logged Json.Mismatch α}
    (reads : forall item, item.isModerate = true -> Yields (fun _ => True) (read item).outcome)
    {items : List Json} (moderate : forall item, item ∈ items -> item.isModerate = true) :
    Yields (fun _ => True) (readEach read items).outcome := by
  induction items with
  | nil => trivial
  | cons item items inductionHypothesis =>
      rw [List.forall_mem_cons] at moderate
      unfold readEach
      rw [Logged.outcome_bind]
      refine (reads item moderate.1).andThen fun first => ?_
      rw [Logged.outcome_bind]
      exact (inductionHypothesis moderate.2).andThen fun rest => trivial

theorem yields_readParts {document : Json} (moderate : document.isModerate = true) :
    Yields (fun _ => True) (readParts document).outcome := by
  unfold readParts
  rw [Logged.outcome_bind]
  refine (yields_find? _ moderate).bind fun rules moderateRules => ?_
  have inner : ((Json.something? rules).getD (.object [])).isModerate = true := by
    cases something : Json.something? rules with
    | none => rfl
    | some rules => exact moderateRules rules (Json.eq_some_of_something? something)
  rw [Logged.outcome_bind]
  refine ((yields_need _ moderate).bind fun _ => yields_elements).bind fun cohorts ofCohorts => ?_
  rw [Logged.outcome_bind]
  refine (yields_readEach (fun _ => yields_readCohort) ofCohorts).andThen fun cohorts => ?_
  rw [Logged.outcome_bind]
  refine ((yields_need _ moderate).bind fun _ => yields_elements).bind fun tracks ofTracks => ?_
  rw [Logged.outcome_bind]
  exact (yields_readEach (fun _ => yields_readTrack inner) ofTracks).andThen fun tracks => trivial

/-- Where a moderate document gives no requirements, the fault is told. -/
theorem ne_tooLarge_of_ofDocument {document : Json} (moderate : document.isModerate = true)
    {fault : Fault} (failed : (ofDocument document).outcome = .error fault) :
    fault ≠ .mismatch .tooLarge := by
  have parts := yields_readParts moderate
  unfold ofDocument at failed
  dsimp only at failed
  split at failed
  · rename_i cause broken
    rcases Except.error.inj failed with rfl
    rw [broken] at parts
    intro same
    exact parts (Fault.mismatch.inj same)
  · split at failed
    · rcases Except.error.inj failed with rfl
      exact nofun
    · cases failed

end Whole

end Requirements

namespace Catalog

theorem yields_readEntry {item : Json} (moderate : item.isModerate = true) :
    Yields (fun _ => True) (readEntry item) := by
  unfold readEntry
  refine yields_part _ moderate (fun _ _ => yields_toText) fun code => ?_
  refine (yields_find? _ moderate).bind fun name _ => yields_toText.andThen fun name => ?_
  exact (yields_realOrZero _ moderate).andThen fun credits => trivial

/-- A moderate document gives a catalog, or what is wrong with it is told. -/
theorem yields_ofDocument {document : Json} (moderate : document.isModerate = true) :
    Yields (fun _ => True) (ofDocument document) := by
  unfold ofDocument
  refine (yields_elements moderate).bind fun items ofItems => ?_
  have reads := Json.yields_mapM fun item listed => yields_readEntry (ofItems item listed)
  exact reads.andThen fun entries => trivial

end Catalog
end DegreeAudit
