import Mathlib.Data.Set.Basic
import DegreeAudit.Audit.Evaluation

namespace DegreeAudit
namespace Audit

/-!
# What the verdict says

The requirements, said without the evaluation: which codes are held, and which sums of credits reach
which minimum.  Codes are compared as a set of normalized codes, and sums are taken from the left
over the courses themselves, so nothing here goes through a clause test, a tally or a report.

A part that is absent does not always count as met.  Without a list of theory courses needed
together a science can only be met by one of the other theory courses, while an area without a
choice, a cohort without arts and sports and a track without a checklist ask for nothing more.

The verdict of the report is exactly this condition, for credits of every type: it holds of
binary64 sums as they are rounded, and of exact ones.
-/

section Codes

variable {κ : Type}

/-- The normalized codes of the held courses. -/
def heldKeys (courses : List (Course κ)) : Set String :=
  {key | exists course, course ∈ courses ∧ normalizeCode course.code = key}

/-- A code of the requirements is held, in whatever spelling it is written there. -/
def Held (courses : List (Course κ)) (code : String) : Prop :=
  normalizeCode code ∈ heldKeys courses

/-- Every code of a list is held. -/
def AllHeld (courses : List (Course κ)) (codes : List String) : Prop :=
  forall code, code ∈ codes -> Held courses code

/-- Some code of a list is held. -/
def SomeHeld (courses : List (Course κ)) (codes : List String) : Prop :=
  exists code, code ∈ codes ∧ Held courses code

/-- Some option has all its parts held, or has several parts and is held as one course under the
compound of their normalized codes. -/
def ChoiceMet (courses : List (Course κ)) (choice : AnyOf) : Prop :=
  exists option, option ∈ choice.options ∧
    (AllHeld courses option ∨
      (2 ≤ option.length ∧ Held courses (joinCompound (option.map normalizeCode))))

/-- Theory and laboratory are met.  An absent list of theory courses is not an empty one. -/
def TheoryLabMet (courses : List (Course κ)) (rule : TheoryLab) : Prop :=
  ((exists theory, rule.theoryAll = some theory ∧ AllHeld courses theory) ∨
      SomeHeld courses rule.theoryAny) ∧
    SomeHeld courses rule.labAny

/-- The courses that a track asks for in addition are held. -/
def ChecklistMet (courses : List (Course κ)) (list : Checklist) : Prop :=
  AllHeld courses list.all.codes ∧ forall choice, list.one = some choice -> ChoiceMet courses choice

theorem has_iff (courses : List (Course κ)) (code : String) :
    Holdings.has courses code = true <-> Held courses code := by
  simp only [Holdings.has, List.any_eq_true, beq_iff_eq, CourseData.key, Held, heldKeys,
    Set.mem_ofPred_eq]

theorem hasAll_iff (courses : List (Course κ)) (codes : List String) :
    Holdings.hasAll courses codes = true <-> AllHeld courses codes := by
  simp only [Holdings.hasAll, List.all_eq_true, has_iff, AllHeld]

theorem hasAny_iff (courses : List (Course κ)) (codes : List String) :
    Holdings.hasAny courses codes = true <-> SomeHeld courses codes := by
  simp only [Holdings.hasAny, List.any_eq_true, has_iff, SomeHeld]

theorem optionHeld_iff (courses : List (Course κ)) (option : List String) :
    AnyOf.optionHeld courses option = true <->
      AllHeld courses option ∨
        (2 ≤ option.length ∧ Held courses (joinCompound (option.map normalizeCode))) := by
  simp only [AnyOf.optionHeld, Bool.or_eq_true, Bool.and_eq_true, decide_eq_true_eq, has_iff,
    hasAll_iff, Nat.lt_iff_add_one_le]
  exact Or.comm

theorem choice_check_iff (courses : List (Course κ)) (choice : AnyOf) :
    choice.check courses = true <-> ChoiceMet courses choice := by
  simp only [AnyOf.check, List.any_eq_true, optionHeld_iff, ChoiceMet]

theorem theoryLab_check_iff (courses : List (Course κ)) (rule : TheoryLab) :
    rule.check courses = true <-> TheoryLabMet courses rule := by
  have theory : rule.theoryAllOk courses = true <->
      exists theory, rule.theoryAll = some theory ∧ AllHeld courses theory := by
    cases listed : rule.theoryAll with
    | none => simp [TheoryLab.theoryAllOk, listed]
    | some theory => simp [TheoryLab.theoryAllOk, listed, hasAll_iff]
  simp only [TheoryLab.check, Bool.and_eq_true, Bool.or_eq_true, theory, TheoryLab.theoryAnyOk,
    TheoryLab.labOk, hasAny_iff, TheoryLabMet]

theorem checklist_ok_iff (courses : List (Course κ)) (list : Checklist) :
    (checklist courses list).ok = true <-> ChecklistMet courses list := by
  cases choice : list.one with
  | none => simp [checklist, choice, AllOf.check, hasAll_iff, ChecklistMet]
  | some one => simp [checklist, choice, AllOf.check, hasAll_iff, choice_check_iff, ChecklistMet]

end Codes

section Credits

variable {κ : Type} [OfNat κ 0] [Add κ]

/-- The credits of the courses with a property, added one after another to zero. -/
def creditSum (property : Course κ -> Prop) [DecidablePred property]
    (courses : List (Course κ)) : κ :=
  courses.foldl (fun sum course => if property course then sum + course.credits else sum) 0

/-- The name of a bucket tells that its credits are basic ones. -/
def NamedBasic (course : Course κ) : Prop :=
  "basic-".toList.isPrefixOf course.bucket.id.toList = true

/-- The name of a bucket tells that its credits are advanced ones. -/
def NamedAdvanced (course : Course κ) : Prop :=
  "adv-".toList.isPrefixOf course.bucket.id.toList = true

/-- The code of a course is one of a list, in whatever spelling. -/
def Listed (codes : List String) (course : Course κ) : Prop :=
  exists code, code ∈ codes ∧ normalizeCode code = normalizeCode course.code

instance : DecidablePred (NamedBasic (κ := κ)) := fun _ => inferInstanceAs (Decidable (_ = _))

instance : DecidablePred (NamedAdvanced (κ := κ)) := fun _ => inferInstanceAs (Decidable (_ = _))

instance (codes : List String) : DecidablePred (Listed (κ := κ) codes) :=
  fun _ => inferInstanceAs (Decidable (exists code, code ∈ codes ∧ _))

/-- A tally of the courses that pass a test is the sum over the property that the test decides. -/
theorem value_creditsWhere (test : Course κ -> Bool) (property : Course κ -> Prop)
    [DecidablePred property] (decides : forall course, test course = true <-> property course)
    (courses : List (Course κ)) :
    (Holdings.creditsWhere test courses).value = creditSum property courses := by
  have same (sum : κ) (course : Course κ) :
      (if test course = true then sum + course.credits else sum) =
        if property course then sum + course.credits else sum := by
    simp only [decides course]
  simp only [Holdings.creditsWhere, Tally.value_sum, List.foldl_map, List.foldl_filter, same,
    creditSum]

theorem value_totalCredits (courses : List (Course κ)) :
    (Holdings.totalCredits courses).value = creditSum (fun _ => True) courses := by
  simp only [Holdings.totalCredits, Tally.value_sum, List.foldl_map, creditSum, if_true]

theorem value_basicCredits (courses : List (Course κ)) :
    (Holdings.basicCredits courses).value = creditSum NamedBasic courses := by
  have named (bucket : Bucket) : bucket.isBasic = "basic-".toList.isPrefixOf bucket.id.toList := by
    cases bucket <;> decide
  exact value_creditsWhere _ _ (fun course => by rw [named, NamedBasic]) courses

theorem value_advancedCredits (courses : List (Course κ)) :
    (Holdings.advancedCredits courses).value = creditSum NamedAdvanced courses := by
  have named (bucket : Bucket) :
      bucket.isAdvanced = "adv-".toList.isPrefixOf bucket.id.toList := by
    cases bucket <;> decide
  exact value_creditsWhere _ _ (fun course => by rw [named, NamedAdvanced]) courses

theorem value_bucketCredits (courses : List (Course κ)) (buckets : List Bucket) :
    (Holdings.bucketCredits courses buckets).value =
      creditSum (fun course => course.bucket ∈ buckets) courses :=
  value_creditsWhere _ _ (fun _ => List.contains_iff_mem) courses

theorem value_creditsFor (courses : List (Course κ)) (codes : List String) :
    (Holdings.creditsFor courses codes).value = creditSum (Listed codes) courses :=
  value_creditsWhere _ _
    (fun course => by simp only [List.contains_iff_mem, List.mem_map, CourseData.key, Listed])
    courses

end Credits

/-- A part that may be absent is met if it is met wherever it is present. -/
theorem getD_true_iff {Part Result : Type} (part : Option Part) (result : Part -> Result)
    (ok : Result -> Bool) :
    ((part.map result).map ok).getD true = true <->
      forall present, part = some present -> ok (result present) = true := by
  cases part with
  | none => simp
  | some present => simp

theorem reaches_iff {κ : Type} [OfNat κ 0] [LE κ] [DecidableLE κ] (credits : Tally κ)
    (minimum : κ) : reaches credits minimum = true <-> minimum ≤ credits.value :=
  decide_eq_true_iff

theorem english_ok_of_satisfied {κ : Type} {report : Report κ}
    (satisfied : report.satisfied = true) : report.english.ok = true :=
  List.all_eq_true.mp satisfied ("english", report.english.ok) (by simp [Report.clauses])

section Verdict

variable {κ : Type} [OfNat κ 0] [Add κ] [LE κ]

/-- An area reaches its credits, holds its codes and meets its choice if it has one. -/
def AreaMet (courses : List (Course κ)) (rule : AreaRule κ) (bucket : Bucket) : Prop :=
  rule.minimum ≤ creditSum (fun course => course.bucket = bucket) courses ∧
    AllHeld courses rule.required.codes ∧
    forall choice, rule.choice = some choice -> ChoiceMet courses choice

/-- A bucket of the advanced part reaches its credits. -/
def FloorMet (courses : List (Course κ)) (bucket : Bucket) (minimum : κ) : Prop :=
  minimum ≤ creditSum (fun course => course.bucket = bucket) courses

/-- The requirements of a cohort, a track and its declaration, over held codes and sums alone. -/
structure Fulfilled (courses : List (Course κ)) (cohort : Cohort κ) (track : Track)
    (trackType : TrackType) : Prop where
  total : cohort.totals.total ≤ creditSum (fun _ => True) courses
  basic : cohort.totals.basic ≤ creditSum NamedBasic courses
  advanced : cohort.totals.advanced ≤ creditSum NamedAdvanced courses
  mathRequired : AllHeld courses cohort.math.required.codes
  mathElective :
    cohort.math.elective.minimum ≤ creditSum (Listed cohort.math.elective.codes) courses
  scienceTotal :
    cohort.science.minimum ≤
      creditSum (fun course => course.bucket = .physics ∨ course.bucket = .chemistry ∨
        course.bucket = .biology) courses
  physics : TheoryLabMet courses cohort.science.physics
  chemistry : TheoryLabMet courses cohort.science.chemistry
  biology : TheoryLabMet courses cohort.science.biology
  additions : AllHeld courses track.additions.codes
  engineeringCore : AreaMet courses cohort.engineeringCore .engineeringCore
  engineeringSelect : AreaMet courses cohort.engineeringSelect .engineeringSelect
  humanities : AreaMet courses cohort.humanities .humanities
  english : AreaMet courses cohort.english .english
  artsAndSports : forall rule, cohort.artsAndSports = some rule ->
    AreaMet courses rule .artsAndSports
  trackFloor : FloorMet courses .track cohort.advanced.track
  nonTrackFloor : FloorMet courses .nonTrack cohort.advanced.nonTrack
  ugrpFloor : FloorMet courses .ugrp cohort.advanced.ugrp
  internshipFloor : FloorMet courses .internship cohort.advanced.internship
  checklist : forall list, track.checklists.get? trackType = some list -> ChecklistMet courses list

variable [DecidableLE κ]

theorem area_ok_iff (courses : List (Course κ)) (rule : AreaRule κ) (bucket : Bucket) :
    (area courses rule bucket).ok = true <-> AreaMet courses rule bucket := by
  cases choice : rule.choice with
  | none =>
      simp [area, choice, AllOf.check, hasAll_iff, reaches_iff, value_bucketCredits, AreaMet]
  | some one =>
      simp [area, choice, AllOf.check, hasAll_iff, reaches_iff, value_bucketCredits, AreaMet,
        choice_check_iff, and_assoc]

theorem floor_ok_iff (courses : List (Course κ)) (bucket : Bucket) (need : κ) :
    (floor courses bucket need).ok = true <-> FloorMet courses bucket need := by
  simp only [floor, reaches_iff, value_bucketCredits, List.mem_singleton, FloorMet]

theorem science_ok_iff (courses : List (Course κ)) (rule : ScienceRule κ) (additions : AllOf) :
    (science courses rule additions).ok = true <->
      rule.minimum ≤
          creditSum (fun course => course.bucket = .physics ∨ course.bucket = .chemistry ∨
            course.bucket = .biology) courses ∧
        TheoryLabMet courses rule.physics ∧ TheoryLabMet courses rule.chemistry ∧
        TheoryLabMet courses rule.biology ∧ AllHeld courses additions.codes := by
  simp only [science, scienceArea, Bool.and_eq_true, and_assoc, reaches_iff, value_bucketCredits,
    Bucket.sciences, List.mem_cons, List.not_mem_nil, or_false, theoryLab_check_iff, AllOf.check,
    hasAll_iff]

theorem elective_check_iff (courses : List (Course κ)) (clause : CreditsFrom κ) :
    clause.check courses = true <-> clause.minimum ≤ creditSum (Listed clause.codes) courses := by
  simp only [CreditsFrom.check, CreditsFrom.credits, decide_eq_true_eq, value_creditsFor]

/-- The verdict on a report is the condition on held codes and sums of credits. -/
theorem satisfied_evaluate_iff (courses : List (Course κ)) (cohort : Cohort κ) (track : Track)
    (trackType : TrackType) :
    (evaluate courses cohort track trackType).satisfied = true <->
      Fulfilled courses cohort track trackType := by
  simp only [Report.satisfied, Report.clauses, evaluate, List.all_cons, List.all_nil,
    Bool.and_true, Bool.and_eq_true, getD_true_iff, area_ok_iff, floor_ok_iff, science_ok_iff,
    checklist_ok_iff, totals, math, reaches_iff, value_totalCredits, value_basicCredits,
    value_advancedCredits, AllOf.check, hasAll_iff, elective_check_iff]
  constructor
  · rintro ⟨total, basic, advanced, required, elective, ⟨science, physics, chemistry, biology,
      additions⟩, core, select, humanities, english, arts, inTrack, outside, ugrp, internship, list⟩
    exact ⟨total, basic, advanced, required, elective, science, physics, chemistry, biology,
      additions, core, select, humanities, english, arts, inTrack, outside, ugrp, internship, list⟩
  · intro fulfilled
    exact ⟨fulfilled.total, fulfilled.basic, fulfilled.advanced, fulfilled.mathRequired,
      fulfilled.mathElective, ⟨fulfilled.scienceTotal, fulfilled.physics, fulfilled.chemistry,
      fulfilled.biology, fulfilled.additions⟩, fulfilled.engineeringCore,
      fulfilled.engineeringSelect, fulfilled.humanities, fulfilled.english,
      fulfilled.artsAndSports, fulfilled.trackFloor, fulfilled.nonTrackFloor,
      fulfilled.ugrpFloor, fulfilled.internshipFloor, fulfilled.checklist⟩

end Verdict

end Audit
end DegreeAudit
