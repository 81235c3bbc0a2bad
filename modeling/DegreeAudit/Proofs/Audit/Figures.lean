import DegreeAudit.Proofs.Audit.Fulfilment

namespace DegreeAudit

/-!
# Credits beside their minimums

A report shows credits beside the least that is needed of them.  Where it is satisfied, the credits
reach that minimum everywhere but in one place: mathematics is decided on its required courses and
on its elective group, and the minimum that stands beside all its credits is not consulted.
-/

/-- The places of a report where credits stand beside a minimum. -/
inductive Figure where
  | total
  | basic
  | advanced
  | math
  | mathElective
  | science
  | engineeringCore
  | engineeringSelect
  | humanities
  | english
  | artsAndSports
  | track
  | nonTrack
  | ugrp
  | internship
  deriving DecidableEq, Repr

namespace Report

variable {κ : Type}

/-- The credits and the minimum that a report shows in a place, if it has the place. -/
def figure? (report : Report κ) : Figure -> Option (Tally κ × κ)
  | .total => some (report.totals.total, report.totals.totalMinimum)
  | .basic => some (report.totals.basic, report.totals.basicMinimum)
  | .advanced => some (report.totals.advanced, report.totals.advancedMinimum)
  | .math => some (report.math.credits, report.math.need)
  | .mathElective => some (report.math.electiveCredits, report.math.electiveNeed)
  | .science => some (report.science.total, report.science.need)
  | .engineeringCore => some (report.engineeringCore.credits, report.engineeringCore.need)
  | .engineeringSelect => some (report.engineeringSelect.credits, report.engineeringSelect.need)
  | .humanities => some (report.humanities.credits, report.humanities.need)
  | .english => some (report.english.credits, report.english.need)
  | .artsAndSports => report.artsAndSports.map fun area => (area.credits, area.need)
  | .track => some (report.track.credits, report.track.need)
  | .nonTrack => some (report.nonTrack.credits, report.nonTrack.need)
  | .ugrp => some (report.ugrp.credits, report.ugrp.need)
  | .internship => some (report.internship.credits, report.internship.need)

end Report

namespace Audit

variable {κ : Type} [OfNat κ 0] [Add κ] [LE κ] [DecidableLE κ]

section Parts

/-! ## The parts of a report -/

theorem reached_of_area_ok {courses : List (Course κ)} {rule : AreaRule κ} {bucket : Bucket}
    (ok : (area courses rule bucket).ok = true) :
    (area courses rule bucket).need <= (area courses rule bucket).credits.value := by
  unfold area at ok
  rw [Bool.and_eq_true, Bool.and_eq_true] at ok
  exact (reaches_iff _ _).mp ok.1.1

theorem reached_of_floor_ok {courses : List (Course κ)} {bucket : Bucket} {need : κ}
    (ok : (floor courses bucket need).ok = true) :
    (floor courses bucket need).need <= (floor courses bucket need).credits.value :=
  (reaches_iff _ _).mp ok

theorem reached_of_science_ok {courses : List (Course κ)} {rule : ScienceRule κ}
    {additions : AllOf} (ok : (science courses rule additions).ok = true) :
    (science courses rule additions).need <= (science courses rule additions).total.value := by
  unfold science at ok
  simp only [Bool.and_eq_true] at ok
  exact (reaches_iff _ _).mp ok.1.1.1.1

theorem reached_of_elective_ok {courses : List (Course κ)} {rule : MathRule κ}
    (ok : (math courses rule).electiveOk = true) :
    (math courses rule).electiveNeed <= (math courses rule).electiveCredits.value :=
  decide_eq_true_iff.mp ok

end Parts

/-- In a satisfied report the credits reach the minimum beside them, save those of mathematics. -/
theorem figure_reached {courses : List (Course κ)} {cohort : Cohort κ} {track : Track}
    {trackType : TrackType} (satisfied : (evaluate courses cohort track trackType).satisfied = true)
    {figure : Figure} (other : figure ≠ .math) {held : Tally κ} {need : κ}
    (shown : (evaluate courses cohort track trackType).figure? figure = some (held, need)) :
    need <= held.value := by
  simp only [Report.satisfied, Report.clauses, List.all_cons, List.all_nil, Bool.and_true,
    Bool.and_eq_true] at satisfied
  rcases satisfied with ⟨total, basic, advanced, _, elective, sciences, core, select, humanities,
    english, arts, inTrack, outside, ugrp, internship, _⟩
  cases figure with
  | total =>
      cases shown
      exact (reaches_iff _ _).mp total
  | basic =>
      cases shown
      exact (reaches_iff _ _).mp basic
  | advanced =>
      cases shown
      exact (reaches_iff _ _).mp advanced
  | math => exact absurd rfl other
  | mathElective =>
      cases shown
      exact reached_of_elective_ok elective
  | science =>
      cases shown
      exact reached_of_science_ok sciences
  | engineeringCore =>
      cases shown
      exact reached_of_area_ok core
  | engineeringSelect =>
      cases shown
      exact reached_of_area_ok select
  | humanities =>
      cases shown
      exact reached_of_area_ok humanities
  | english =>
      cases shown
      exact reached_of_area_ok english
  | artsAndSports =>
      rcases Option.map_eq_some_iff.mp shown with ⟨result, present, same⟩
      cases same
      rcases Option.map_eq_some_iff.mp present with ⟨rule, _, rfl⟩
      rw [present] at arts
      exact reached_of_area_ok arts
  | track =>
      cases shown
      exact reached_of_floor_ok inTrack
  | nonTrack =>
      cases shown
      exact reached_of_floor_ok outside
  | ugrp =>
      cases shown
      exact reached_of_floor_ok ugrp
  | internship =>
      cases shown
      exact reached_of_floor_ok internship

/-! ### A report with too few credits in mathematics -/

/-- A science for which one course is both the theory and the laboratory. -/
def oneScience : TheoryLab := ⟨some ["BS112"], [], ["BS112"]⟩

/-- An area that asks for nothing. -/
def undemandingArea : AreaRule Float := ⟨0, ⟨[]⟩, none⟩

/-- A cohort that asks for nine credits in mathematics, of which a course of three credits is
required and counts for the elective group as well. -/
def nineInMath : Cohort Float :=
  {
    id := "2023_2024"
    label := "2023"
    totals := ⟨7, 7, 0⟩
    math := ⟨9, ⟨["BS101"]⟩, ⟨["BS101"], 3⟩⟩
    science := ⟨4, oneScience, oneScience, oneScience⟩
    engineeringCore := undemandingArea
    engineeringSelect := undemandingArea
    humanities := undemandingArea
    english := undemandingArea
    artsAndSports := none
    advanced := ⟨0, 0, 0, 0⟩
  }

/-- A track that asks for nothing more. -/
def undemandingTrack : Track := ⟨"EE", "EE", [], ⟨[]⟩, .empty⟩

/-- A course of three credits in mathematics and one of four in physics. -/
def twoBasics : List (Course Float) :=
  [
    { code := "BS101", name := "Calculus", credits := 3, bucket := .math, id := "1" },
    { code := "BS112", name := "Physics", credits := 4, bucket := .physics, id := "2" }
  ]

theorem figure_reached_science :
    (evaluate twoBasics nineInMath undemandingTrack .major).satisfied = true
      ∧ (evaluate twoBasics nineInMath undemandingTrack .major).figure? .science
        = some (.amount 4, 4)
      ∧ (4 : Float) <= (Tally.amount 4 : Tally Float).value := by
  have satisfied : (evaluate twoBasics nineInMath undemandingTrack .major).satisfied = true := by
    decide +kernel
  have shown : (evaluate twoBasics nineInMath undemandingTrack .major).figure? .science
      = some (.amount 4, 4) := by
    decide +kernel
  exact ⟨satisfied, shown, figure_reached satisfied (by decide) shown⟩

/-- Three credits in mathematics stand beside a minimum of nine, and all requirements are met. -/
theorem figure_missed_math :
    (evaluate twoBasics nineInMath undemandingTrack .major).satisfied = true
      ∧ (evaluate twoBasics nineInMath undemandingTrack .major).figure? .math = some (.amount 3, 9)
      ∧ ¬ (9 : Float) <= (Tally.amount 3 : Tally Float).value := by
  decide +kernel

end Audit
end DegreeAudit
