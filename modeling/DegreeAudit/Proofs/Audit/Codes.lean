import DegreeAudit.Proofs.Audit.Fulfilment

namespace DegreeAudit
namespace Audit

/-!
# What held codes decide

Some findings of a report rest on held codes alone: which codes are missing, whether all or some of
a list are held, whether a choice is met.  Lists of courses with the same normalized codes agree on
all of them, whatever the names, credits and buckets of the courses are and however often a code
occurs.
-/

variable {κ : Type}

/-- What two results for one of the sciences have in common if the same codes are held. -/
structure SameScience (left right : ScienceAreaResult κ) : Prop where
  theoryAllOk : left.theoryAllOk = right.theoryAllOk
  theoryAnyOk : left.theoryAnyOk = right.theoryAnyOk
  labOk : left.labOk = right.labOk
  ok : left.ok = right.ok

/-- What two results for an area have in common if the same codes are held. -/
structure SameArea (left right : AreaResult κ) : Prop where
  missing : left.missing = right.missing
  requiredOk : left.requiredOk = right.requiredOk
  choiceOk : left.choiceOk = right.choiceOk

/-- What two reports have in common if the same codes are held. -/
structure SameFindings (left right : Report κ) : Prop where
  mathMissing : left.math.missing = right.math.missing
  mathRequired : left.math.requiredOk = right.math.requiredOk
  physics : SameScience left.science.physics right.science.physics
  chemistry : SameScience left.science.chemistry right.science.chemistry
  biology : SameScience left.science.biology right.science.biology
  additions : left.science.additionsOk = right.science.additionsOk
  engineeringCore : SameArea left.engineeringCore right.engineeringCore
  engineeringSelect : SameArea left.engineeringSelect right.engineeringSelect
  humanities : SameArea left.humanities right.humanities
  english : SameArea left.english right.english
  artsAndSports : Option.Rel SameArea left.artsAndSports right.artsAndSports
  checklist : left.checklist = right.checklist

/-- Every clause that depends on held codes alone has the same result for two lists of courses, on
its own and in the report for any cohort and track. -/
structure DecidedAlike (left right : List (Course Float)) : Prop where
  has : forall code, Holdings.has left code = Holdings.has right code
  check : forall clause : AllOf, clause.check left = clause.check right
  missing : forall clause : AllOf, clause.missing left = clause.missing right
  choice : forall clause : AnyOf, clause.check left = clause.check right
  theoryLab : forall clause : TheoryLab, clause.check left = clause.check right
  report : forall (cohort : Cohort Float) (track : Track) (trackType : TrackType),
    SameFindings (evaluate left cohort track trackType) (evaluate right cohort track trackType)

section Clauses

/-! ## Clauses -/

variable {left right : List (Course κ)}

theorem has_congr (same : heldKeys left = heldKeys right) :
    Holdings.has left = Holdings.has right := by
  funext code
  rw [Bool.eq_iff_iff, has_iff, has_iff, Held, Held, same]

theorem hasAll_congr (same : heldKeys left = heldKeys right) :
    Holdings.hasAll left = Holdings.hasAll right := by
  funext codes
  rw [Holdings.hasAll, Holdings.hasAll, has_congr same]

theorem hasAny_congr (same : heldKeys left = heldKeys right) :
    Holdings.hasAny left = Holdings.hasAny right := by
  funext codes
  rw [Holdings.hasAny, Holdings.hasAny, has_congr same]

theorem all_missing_congr (same : heldKeys left = heldKeys right) (clause : AllOf) :
    clause.missing left = clause.missing right := by
  simp only [AllOf.missing, Holdings.missing, has_congr same]

theorem all_check_congr (same : heldKeys left = heldKeys right) (clause : AllOf) :
    clause.check left = clause.check right := by
  rw [AllOf.check, AllOf.check, hasAll_congr same]

theorem choice_check_congr (same : heldKeys left = heldKeys right) (clause : AnyOf) :
    clause.check left = clause.check right := by
  have options : AnyOf.optionHeld left = AnyOf.optionHeld right := by
    funext option
    rw [AnyOf.optionHeld, AnyOf.optionHeld, hasAll_congr same, has_congr same]
  rw [AnyOf.check, AnyOf.check, options]

theorem checklist_congr (same : heldKeys left = heldKeys right) (list : Checklist) :
    checklist left list = checklist right list := by
  simp only [checklist, all_check_congr same, all_missing_congr same, choice_check_congr same]

end Clauses

section Reports

/-! ## Reports -/

variable {left right : List (Course κ)} [OfNat κ 0] [Add κ]

theorem sameScience_of_heldKeys (same : heldKeys left = heldKeys right) (rule : TheoryLab)
    (bucket : Bucket) :
    SameScience (scienceArea left rule bucket) (scienceArea right rule bucket) := by
  have theoryAll : rule.theoryAllOk left = rule.theoryAllOk right := by
    rw [TheoryLab.theoryAllOk, TheoryLab.theoryAllOk, hasAll_congr same]
  have theoryAny : rule.theoryAnyOk left = rule.theoryAnyOk right := by
    rw [TheoryLab.theoryAnyOk, TheoryLab.theoryAnyOk, hasAny_congr same]
  have lab : rule.labOk left = rule.labOk right := by
    rw [TheoryLab.labOk, TheoryLab.labOk, hasAny_congr same]
  refine ⟨theoryAll, theoryAny, lab, ?_⟩
  change rule.check left = rule.check right
  rw [TheoryLab.check, TheoryLab.check, theoryAll, theoryAny, lab]

variable [LE κ] [DecidableLE κ]

theorem sameArea_of_heldKeys (same : heldKeys left = heldKeys right) (rule : AreaRule κ)
    (bucket : Bucket) : SameArea (area left rule bucket) (area right rule bucket) where
  missing := all_missing_congr same rule.required
  requiredOk := all_check_congr same rule.required
  choiceOk := congrArg (fun check => rule.choice.map check) (funext (choice_check_congr same))

theorem sameFindings_of_heldKeys (same : heldKeys left = heldKeys right) (cohort : Cohort κ)
    (track : Track) (trackType : TrackType) :
    SameFindings (evaluate left cohort track trackType) (evaluate right cohort track trackType) where
  mathMissing := all_missing_congr same cohort.math.required
  mathRequired := all_check_congr same cohort.math.required
  physics := sameScience_of_heldKeys same cohort.science.physics .physics
  chemistry := sameScience_of_heldKeys same cohort.science.chemistry .chemistry
  biology := sameScience_of_heldKeys same cohort.science.biology .biology
  additions := all_check_congr same track.additions
  engineeringCore := sameArea_of_heldKeys same cohort.engineeringCore .engineeringCore
  engineeringSelect := sameArea_of_heldKeys same cohort.engineeringSelect .engineeringSelect
  humanities := sameArea_of_heldKeys same cohort.humanities .humanities
  english := sameArea_of_heldKeys same cohort.english .english
  artsAndSports := by
    change Option.Rel SameArea (cohort.artsAndSports.map _) (cohort.artsAndSports.map _)
    cases cohort.artsAndSports with
    | none => exact .none
    | some rule => exact .some (sameArea_of_heldKeys same rule .artsAndSports)
  checklist := by
    change (track.checklists.get? trackType).map (checklist left) = _
    rw [funext (checklist_congr same)]
    rfl

end Reports

section Credits

/-! ## What rests on credits besides -/

variable {left right : List (Course κ)} [OfNat κ 0] [Add κ] (same : heldKeys left = heldKeys right)
  {bucket : Bucket}
  (credits : Holdings.bucketCredits left [bucket] = Holdings.bucketCredits right [bucket])

include same credits

theorem scienceArea_congr (rule : TheoryLab) :
    scienceArea left rule bucket = scienceArea right rule bucket := by
  have findings := sameScience_of_heldKeys same rule bucket
  rw [scienceArea, scienceArea, ScienceAreaResult.mk.injEq]
  exact ⟨credits, findings.theoryAllOk, findings.theoryAnyOk, findings.labOk, findings.ok⟩

variable [LE κ] [DecidableLE κ]

theorem area_congr (rule : AreaRule κ) : area left rule bucket = area right rule bucket := by
  simp only [area, credits, all_check_congr same, all_missing_congr same, choice_check_congr same]

omit same in
theorem floor_congr (need : κ) : floor left bucket need = floor right bucket need := by
  simp only [floor, credits]

omit same credits in
theorem elective_check_congr {clause : CreditsFrom κ}
    (elective : clause.credits left = clause.credits right) :
    clause.check left = clause.check right := by
  rw [CreditsFrom.check, CreditsFrom.check, elective]

omit credits in
theorem math_congr {rule : MathRule κ}
    (credits : Holdings.bucketCredits left [.math] = Holdings.bucketCredits right [.math])
    (elective : rule.elective.credits left = rule.elective.credits right) :
    math left rule = math right rule := by
  simp only [math, credits, elective, elective_check_congr elective, all_check_congr same,
    all_missing_congr same]

end Credits

/-- Courses with the same normalized codes are decided alike. -/
theorem decidedAlike_of_heldKeys {left right : List (Course Float)}
    (same : heldKeys left = heldKeys right) : DecidedAlike left right where
  has := congrFun (has_congr same)
  check := all_check_congr same
  missing := all_missing_congr same
  choice := choice_check_congr same
  theoryLab := fun clause => (sameScience_of_heldKeys same clause .physics).ok
  report := sameFindings_of_heldKeys same

end Audit
end DegreeAudit
