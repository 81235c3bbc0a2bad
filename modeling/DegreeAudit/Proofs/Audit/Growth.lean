import Mathlib.Algebra.BigOperators.Group.List.Basic
import Mathlib.Algebra.Order.Monoid.Defs
import Mathlib.Algebra.Order.Ring.Rat
import Mathlib.Tactic.NormNum
import DegreeAudit.Proofs.Audit.Fulfilment

namespace DegreeAudit
namespace Audit

/-!
# One more course

A course with credits that are not negative never does harm, wherever it is put into the list: it
closes no clause that was open, it opens none that was met, and it lengthens no list of missing
codes.

Credits are exact here, of any type with an addition that respects its order.  Rounded additions do
not have this property, since one more summand in the middle may round the rest the other way.
-/

section Order

variable {κ : Type}

/-- What one list of courses has over another: whatever is held stays held, and no sum of credits
becomes smaller, whichever courses are counted. -/
structure Widens [OfNat κ 0] [Add κ] [LE κ] (old new : List (Course κ)) : Prop where
  held : forall code, Held old code -> Held new code
  credits : forall (property : Course κ -> Prop) [DecidablePred property],
    creditSum property old ≤ creditSum property new

/-- A clause keeps its name, and if it was met it still is. -/
def ClauseKept (old new : String × Bool) : Prop :=
  old.1 = new.1 ∧ (old.2 = true -> new.2 = true)

/-- No list of missing codes of a report has gained or moved a code. -/
structure MissingShrinks (old new : Report κ) : Prop where
  math : new.math.missing.Sublist old.math.missing
  engineeringCore : new.engineeringCore.missing.Sublist old.engineeringCore.missing
  engineeringSelect : new.engineeringSelect.missing.Sublist old.engineeringSelect.missing
  humanities : new.humanities.missing.Sublist old.humanities.missing
  english : new.english.missing.Sublist old.english.missing
  artsAndSports :
    Option.Rel (fun old new => new.missing.Sublist old.missing) old.artsAndSports new.artsAndSports
  checklist :
    Option.Rel (fun old new => new.missing.Sublist old.missing) old.checklist new.checklist

/-- Clauses that are all kept leave no new name among those that are not met. -/
theorem unmet_sublist_of_kept {old new : Report κ}
    (kept : List.Forall₂ ClauseKept old.clauses new.clauses) : new.unmet.Sublist old.unmet := by
  unfold Report.unmet
  generalize old.clauses = oldClauses, new.clauses = newClauses at kept
  induction kept with
  | nil => exact List.Sublist.refl _
  | @cons before after _ _ kept _ inductionHypothesis =>
      rcases before with ⟨name, wasMet⟩
      rcases after with ⟨sameName, isMet⟩
      obtain ⟨rfl, preserved⟩ : name = sameName ∧ (wasMet = true -> isMet = true) := kept
      cases isMet with
      | true =>
          cases wasMet with
          | true => exact inductionHypothesis
          | false => exact inductionHypothesis.cons name
      | false =>
          cases wasMet with
          | true => exact absurd (preserved rfl) Bool.false_ne_true
          | false => exact inductionHypothesis.cons_cons name

/-- Clauses that are all kept keep the verdict. -/
theorem satisfied_of_kept {old new : Report κ}
    (kept : List.Forall₂ ClauseKept old.clauses new.clauses) (satisfied : old.satisfied = true) :
    new.satisfied = true := by
  unfold Report.satisfied at satisfied ⊢
  generalize old.clauses = oldClauses, new.clauses = newClauses at kept satisfied
  induction kept with
  | nil => rfl
  | cons kept _ inductionHypothesis =>
      rw [List.all_cons, Bool.and_eq_true] at satisfied ⊢
      exact ⟨kept.2 satisfied.1, inductionHypothesis satisfied.2⟩

end Order

section Insertion

variable {κ : Type} [AddCommMonoid κ]

theorem creditSum_eq_sum (property : Course κ -> Prop) [DecidablePred property]
    (courses : List (Course κ)) :
    creditSum property courses
      = ((courses.filter fun course => property course).map fun course => course.credits).sum := by
  rw [List.sum_eq_foldl, List.foldl_map, List.foldl_filter]
  simp only [decide_eq_true_eq]
  rfl

/-- One more course adds its own credits to a sum that counts it, wherever it stands. -/
theorem creditSum_insert (property : Course κ -> Prop) [DecidablePred property]
    (before after : List (Course κ)) (course : Course κ) :
    creditSum property (before ++ course :: after)
      = (if property course then course.credits else 0) + creditSum property (before ++ after) := by
  simp only [creditSum_eq_sum, List.filter_append, List.filter_cons, List.map_append,
    List.sum_append, decide_eq_true_eq]
  split
  · rw [List.map_cons, List.sum_cons, add_left_comm]
  · rw [zero_add]

variable [PartialOrder κ] [IsOrderedAddMonoid κ]

theorem widens_insert (before after : List (Course κ)) (course : Course κ)
    (credited : 0 ≤ course.credits) : Widens (before ++ after) (before ++ course :: after) where
  held := by
    rintro code ⟨holder, member, same⟩
    refine ⟨holder, ?_, same⟩
    rcases List.mem_append.mp member with earlier | later
    · exact List.mem_append_left _ earlier
    · exact List.mem_append_right _ (List.mem_cons_of_mem course later)
  credits := by
    intro property _
    rw [creditSum_insert]
    apply le_add_of_nonneg_left
    split
    · exact credited
    · exact le_refl 0

end Insertion

namespace Widens

section Codes

variable {κ : Type} [OfNat κ 0] [Add κ] [LE κ] {old new : List (Course κ)}

theorem allHeld (wider : Widens old new) {codes : List String} (all : AllHeld old codes) :
    AllHeld new codes :=
  fun code member => wider.held code (all code member)

theorem someHeld (wider : Widens old new) {codes : List String} (some : SomeHeld old codes) :
    SomeHeld new codes := by
  rcases some with ⟨code, member, held⟩
  exact ⟨code, member, wider.held code held⟩

/-- An option may now be met in the other way, but it is met. -/
theorem choiceMet (wider : Widens old new) {choice : AnyOf} (met : ChoiceMet old choice) :
    ChoiceMet new choice := by
  rcases met with ⟨option, member, parts | ⟨several, compound⟩⟩
  · exact ⟨option, member, Or.inl (wider.allHeld parts)⟩
  · exact ⟨option, member, Or.inr ⟨several, wider.held _ compound⟩⟩

theorem theoryLabMet (wider : Widens old new) {rule : TheoryLab} (met : TheoryLabMet old rule) :
    TheoryLabMet new rule := by
  rcases met with ⟨⟨theory, listed, all⟩ | other, lab⟩
  · exact ⟨Or.inl ⟨theory, listed, wider.allHeld all⟩, wider.someHeld lab⟩
  · exact ⟨Or.inr (wider.someHeld other), wider.someHeld lab⟩

theorem checklistMet (wider : Widens old new) {list : Checklist} (met : ChecklistMet old list) :
    ChecklistMet new list :=
  ⟨wider.allHeld met.1, fun choice asked => wider.choiceMet (met.2 choice asked)⟩

/-- What is missing now was missing before, in the same order. -/
theorem missing_sublist (wider : Widens old new) (codes : List String) :
    (Holdings.missing new codes).Sublist (Holdings.missing old codes) := by
  apply List.monotone_filter_right
  intro code absent
  rw [Bool.not_eq_true', ← Bool.not_eq_true, has_iff] at absent ⊢
  intro held
  exact absent (wider.held code held)

end Codes

section Clauses

variable {κ : Type} [OfNat κ 0] [Add κ] [Preorder κ] {old new : List (Course κ)}

/-- A minimum that was reached is still reached. -/
theorem reached (wider : Widens old new) {minimum : κ} (property : Course κ -> Prop)
    [DecidablePred property] (before : minimum ≤ creditSum property old) :
    minimum ≤ creditSum property new :=
  le_trans before (wider.credits property)

theorem areaMet (wider : Widens old new) {rule : AreaRule κ} {bucket : Bucket}
    (met : AreaMet old rule bucket) : AreaMet new rule bucket :=
  ⟨wider.reached _ met.1, wider.allHeld met.2.1,
    fun choice asked => wider.choiceMet (met.2.2 choice asked)⟩

theorem floorMet (wider : Widens old new) {bucket : Bucket} {minimum : κ}
    (met : FloorMet old bucket minimum) : FloorMet new bucket minimum :=
  wider.reached _ met

variable [DecidableLE κ]

/-- Every clause of a report is kept when the courses become more. -/
theorem clauses_kept (wider : Widens old new) (cohort : Cohort κ) (track : Track)
    (trackType : TrackType) :
    List.Forall₂ ClauseKept (evaluate old cohort track trackType).clauses
      (evaluate new cohort track trackType).clauses := by
  have area (rule : AreaRule κ) (bucket : Bucket) (ok : (area old rule bucket).ok = true) :
      (Audit.area new rule bucket).ok = true :=
    (area_ok_iff new rule bucket).mpr (wider.areaMet ((area_ok_iff old rule bucket).mp ok))
  have floor (bucket : Bucket) (need : κ) (ok : (floor old bucket need).ok = true) :
      (Audit.floor new bucket need).ok = true :=
    (floor_ok_iff new bucket need).mpr (wider.floorMet ((floor_ok_iff old bucket need).mp ok))
  have required (clause : AllOf) (ok : clause.check old = true) : clause.check new = true :=
    (hasAll_iff new clause.codes).mpr (wider.allHeld ((hasAll_iff old clause.codes).mp ok))
  have total (minimum : κ) : reaches (Holdings.totalCredits old) minimum = true ->
      reaches (Holdings.totalCredits new) minimum = true := by
    rw [reaches_iff, reaches_iff, value_totalCredits, value_totalCredits]
    exact wider.reached _
  have basic (minimum : κ) : reaches (Holdings.basicCredits old) minimum = true ->
      reaches (Holdings.basicCredits new) minimum = true := by
    rw [reaches_iff, reaches_iff, value_basicCredits, value_basicCredits]
    exact wider.reached _
  have advanced (minimum : κ) : reaches (Holdings.advancedCredits old) minimum = true ->
      reaches (Holdings.advancedCredits new) minimum = true := by
    rw [reaches_iff, reaches_iff, value_advancedCredits, value_advancedCredits]
    exact wider.reached _
  have elective (clause : CreditsFrom κ) : clause.check old = true -> clause.check new = true := by
    rw [elective_check_iff, elective_check_iff]
    exact wider.reached _
  have science (rule : ScienceRule κ) (additions : AllOf) :
      (science old rule additions).ok = true -> (Audit.science new rule additions).ok = true := by
    rw [science_ok_iff, science_ok_iff]
    rintro ⟨credits, physics, chemistry, biology, added⟩
    exact ⟨wider.reached _ credits, wider.theoryLabMet physics, wider.theoryLabMet chemistry,
      wider.theoryLabMet biology, wider.allHeld added⟩
  have arts (part : Option (AreaRule κ)) (bucket : Bucket) :
      ((part.map fun rule => Audit.area old rule bucket).map fun area => area.ok).getD true
          = true ->
        ((part.map fun rule => Audit.area new rule bucket).map fun area => area.ok).getD true
          = true := by
    rw [getD_true_iff, getD_true_iff]
    intro met rule present
    exact area rule bucket (met rule present)
  have list (part : Option Checklist) :
      ((part.map (checklist old)).map fun list => list.ok).getD true = true ->
        ((part.map (checklist new)).map fun list => list.ok).getD true = true := by
    rw [getD_true_iff, getD_true_iff]
    intro met list present
    have before := met list present
    rw [checklist_ok_iff] at before ⊢
    exact wider.checklistMet before
  unfold Report.clauses
  refine .cons ⟨rfl, total _⟩ <| .cons ⟨rfl, basic _⟩ <| .cons ⟨rfl, advanced _⟩ <|
    .cons ⟨rfl, required _⟩ <| .cons ⟨rfl, elective _⟩ <| .cons ⟨rfl, science _ _⟩ <|
    .cons ⟨rfl, area _ _⟩ <| .cons ⟨rfl, area _ _⟩ <| .cons ⟨rfl, area _ _⟩ <|
    .cons ⟨rfl, area _ _⟩ <| .cons ⟨rfl, arts _ _⟩ <| .cons ⟨rfl, floor _ _⟩ <|
    .cons ⟨rfl, floor _ _⟩ <| .cons ⟨rfl, floor _ _⟩ <| .cons ⟨rfl, floor _ _⟩ <|
    .cons ⟨rfl, list _⟩ .nil

theorem missing_shrinks (wider : Widens old new) (cohort : Cohort κ) (track : Track)
    (trackType : TrackType) :
    MissingShrinks (evaluate old cohort track trackType) (evaluate new cohort track trackType) where
  math := wider.missing_sublist _
  engineeringCore := wider.missing_sublist _
  engineeringSelect := wider.missing_sublist _
  humanities := wider.missing_sublist _
  english := wider.missing_sublist _
  artsAndSports := by
    unfold evaluate
    cases cohort.artsAndSports with
    | none => exact .none
    | some rule => exact .some (wider.missing_sublist _)
  checklist := by
    unfold evaluate
    cases track.checklists.get? trackType with
    | none => exact .none
    | some list => exact .some (wider.missing_sublist _)

end Clauses

end Widens

/-- A course that is put anywhere into the list, with credits that are not negative, keeps every
clause that was met, adds no name to those that are not met and no code to those that are missing,
and keeps the verdict. -/
theorem evaluate_insert {κ : Type} [AddCommMonoid κ] [PartialOrder κ] [IsOrderedAddMonoid κ]
    [DecidableLE κ] (before after : List (Course κ)) (course : Course κ)
    (credited : 0 ≤ course.credits) (cohort : Cohort κ) (track : Track) (trackType : TrackType) :
    let old := evaluate (before ++ after) cohort track trackType
    let new := evaluate (before ++ course :: after) cohort track trackType
    List.Forall₂ ClauseKept old.clauses new.clauses ∧
      new.unmet.Sublist old.unmet ∧
      MissingShrinks old new ∧
      (old.satisfied = true -> new.satisfied = true) := by
  have wider := widens_insert before after course credited
  have kept := wider.clauses_kept cohort track trackType
  exact ⟨kept, unmet_sublist_of_kept kept, wider.missing_shrinks cohort track trackType,
    satisfied_of_kept kept⟩

/-- An area that asks for nothing. -/
def freeArea : AreaRule ℚ :=
  { minimum := 0, required := ⟨[]⟩, choice := none }

/-- A cohort that asks for one course of mathematics and six credits in all. -/
def smallCohort : Cohort ℚ :=
  {
    id := "small"
    label := "Small"
    totals := ⟨6, 0, 0⟩
    math := ⟨3, ⟨["BS101"]⟩, ⟨[], 0⟩⟩
    science := ⟨0, ⟨some [], [], ["BS105a"]⟩, ⟨some [], [], []⟩, ⟨none, ["BS114"], []⟩⟩
    engineeringCore := freeArea
    engineeringSelect := { freeArea with choice := some ⟨[["BE205", "BE206"]]⟩ }
    humanities := freeArea
    english := freeArea
    artsAndSports := some freeArea
    advanced := ⟨0, 0, 0, 0⟩
  }

/-- A track that adds nothing. -/
def plainTrack : Track :=
  { id := "plain", label := "Plain", codeStarts := [], additions := ⟨[]⟩, checklists := .empty }

/-- A course of some credits in mathematics. -/
def mathCourse (code : String) (credits : ℚ) : Course ℚ :=
  { code, name := code, credits, bucket := .math, id := code }

/-- One and a half credits put between two courses close the clause on the total. -/
theorem evaluate_insert_mathCourse :
    0 ≤ (mathCourse "bs101" (3 / 2)).credits ∧
      (let old := evaluate ([mathCourse "BS102a" 3] ++ [mathCourse "BS201a" (3 / 2)]) smallCohort
        plainTrack .major
      let new := evaluate
        ([mathCourse "BS102a" 3] ++ mathCourse "bs101" (3 / 2) :: [mathCourse "BS201a" (3 / 2)])
        smallCohort plainTrack .major
      List.Forall₂ ClauseKept old.clauses new.clauses ∧
        new.unmet.Sublist old.unmet ∧
        MissingShrinks old new ∧
        (old.satisfied = true -> new.satisfied = true)) := by
  have credited : (0 : ℚ) ≤ 3 / 2 := by norm_num
  exact ⟨credited, evaluate_insert _ _ _ credited smallCohort plainTrack .major⟩

end Audit
end DegreeAudit
