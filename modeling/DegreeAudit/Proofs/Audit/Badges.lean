import DegreeAudit.Audit.Summary
import DegreeAudit.Proofs.Audit.Parts
import DegreeAudit.Proofs.Text.Split

namespace DegreeAudit
namespace Summary

/-!
# The badges of a report

The lines of a report end with badges, where they are about something that is met or not.  Other
lines may end with any text, even with one that looks like a badge, but only the line of missing
codes does so, and it is left out where no code is missing.
-/

/-- A line ends with the badge of what is met, or of what is not. -/
def Badged (ok : Bool) (line : String) : Prop :=
  ("[" ++ badge ok ++ "]").toList <:+ line.toList

/-- Every badge at the end of a line is that of something met. -/
def AllOk (lines : List String) : Prop :=
  forall line, line ∈ lines -> forall ok, Badged ok line -> ok = true

section Badges

/-! ## Lines one after another -/

variable {before line : String} {first second : List String} {ok other : Bool}

@[simp]
theorem allOk_nil : AllOk [] := by
  intro line member
  cases member

@[simp]
theorem allOk_append : AllOk (first ++ second) <-> AllOk first ∧ AllOk second := by
  simp only [AllOk, List.mem_append, or_imp, forall_and]

theorem allOk_cons_cons {next : String} :
    AllOk (line :: next :: second) <-> AllOk [line] ∧ AllOk (next :: second) := by
  rw [← allOk_append, List.singleton_append]

/-- A line that a badge is written to has this badge and no other. -/
theorem badged_iff (opened : ['['] <:+ before.toList) :
    Badged other (before ++ badge ok ++ "]") <-> other = ok := by
  have own : Badged ok (before ++ badge ok ++ "]") := by
    rcases opened with ⟨start, opened⟩
    refine ⟨start, ?_⟩
    simp only [String.toList_append, ← opened, List.append_assoc]
    rfl
  constructor
  · intro badged
    rcases List.suffix_or_suffix_of_suffix badged own with inside | inside <;>
      revert inside <;> cases ok <;> cases other <;> decide
  · rintro rfl
    exact own

theorem allOk_badge (opened : ['['] <:+ before.toList) :
    AllOk [before ++ badge ok ++ "]"] <-> ok = true := by
  simp only [AllOk, List.mem_singleton, forall_eq, badged_iff opened]

theorem allOk_unbadged (free : line.toList.getLast? ≠ some ']') : AllOk [line] := by
  intro other member ok badged
  rw [List.mem_singleton.mp member] at badged
  rcases badged with ⟨start, same⟩
  refine absurd ?_ free
  rw [← same, String.toList_append, ← List.append_assoc]
  exact List.getLast?_concat

end Badges

theorem opened_append (start : String) {opening : String} (opened : ['['] <:+ opening.toList) :
    ['['] <:+ (start ++ opening).toList := by
  rw [String.toList_append]
  exact opened.trans (List.suffix_append _ _)

theorem allOk_line (title : String) (held need : Float) (ok : Bool) :
    AllOk [line title held need ok] <-> ok = true :=
  allOk_badge (opened_append _ (by decide))

theorem allOk_choiceLine (options : List String) (ok : Bool) :
    AllOk [choiceLine options ok] <-> ok = true :=
  allOk_badge (opened_append _ (by decide))

theorem allOk_totalsLines (totals : TotalsResult Float) :
    AllOk (totalsLines totals)
      <-> totals.totalOk = true ∧ totals.basicOk = true ∧ totals.advancedOk = true := by
  rw [totalsLines, allOk_cons_cons, allOk_cons_cons, allOk_line, allOk_line, allOk_line]

theorem allOk_mathLines (math : MathResult Float) :
    AllOk (mathLines math)
      <-> math.ok = true ∧ AllOk (missingLines math.missing) ∧ math.electiveOk = true := by
  rw [mathLines, allOk_append, allOk_append, allOk_line, allOk_badge (opened_append _ (by decide)),
    and_assoc]

theorem allOk_scienceLines (science : ScienceResult Float) :
    AllOk (scienceLines science)
      <-> science.ok = true ∧ science.physics.ok = true ∧ science.chemistry.ok = true
        ∧ science.biology.ok = true
        ∧ (science.additions ≠ [] -> science.additionsOk = true) := by
  have area (title : String) (result : ScienceAreaResult Float) :
      AllOk [scienceAreaLine title result] <-> result.ok = true :=
    allOk_badge (opened_append _ (by decide))
  have additions :
      AllOk (if science.additions.isEmpty then []
        else ["      track additions " ++ codeList science.additions ++ " ["
          ++ badge science.additionsOk ++ "]"])
        <-> (science.additions ≠ [] -> science.additionsOk = true) := by
    cases science.additions with
    | nil => simp
    | cons code codes =>
        simp only [List.isEmpty_cons, Bool.false_eq_true, if_false, ne_eq, reduceCtorEq,
          not_false_eq_true, true_implies]
        exact allOk_badge (opened_append _ (by decide))
  rw [scienceLines, allOk_append, additions, allOk_cons_cons, allOk_cons_cons, allOk_cons_cons, allOk_line, area,
    area, area, and_assoc, and_assoc, and_assoc]

theorem allOk_areaLines (title : String) (area : AreaResult Float) :
    AllOk (areaLines title area)
      <-> area.ok = true ∧ AllOk (missingLines area.missing)
        ∧ (area.choice ≠ none -> area.choiceOk.getD false = true) := by
  rw [areaLines, allOk_append, allOk_append, allOk_line, and_assoc]
  cases area.choice with
  | none => simp
  | some options => simp [allOk_choiceLine]

theorem allOk_floorLine (title : String) (floor : FloorResult Float) :
    AllOk [floorLine title floor] <-> floor.ok = true :=
  allOk_line _ _ _ _

theorem allOk_checklistLines (checklist : ChecklistResult) :
    AllOk (checklistLines checklist)
      <-> checklist.ok = true ∧ checklist.allOk = true
        ∧ (checklist.one.getD [] ≠ [] -> checklist.oneOk = true) := by
  rw [checklistLines, allOk_append, allOk_cons_cons, allOk_badge (by decide),
    allOk_badge (opened_append _ (by decide)), and_assoc]
  rcases checklist.one with _ | _ | _ <;> simp [allOk_choiceLine]

section Verdict

/-! ## The last line -/

/-- A character that neither ends a line nor closes a badge. -/
def isPlain (c : Char) : Bool :=
  c != '\n' && c != ']'

theorem isPlain_of_mem_unmet {report : Report Float} {name : String}
    (member : name ∈ report.unmet) : name.toList.all isPlain = true := by
  have names : (report.clauses.map Prod.fst).all fun name => name.toList.all isPlain := by
    change (["totals.total", "totals.basic", "totals.advanced", "math.required", "math.elective",
      "science", "eng_core", "eng_select", "hss", "english", "arts_pe", "advanced.track",
      "advanced.non_track", "advanced.ugrp", "advanced.intern", "extra_track"].all
        fun name => name.toList.all isPlain) = true
    decide
  rcases List.mem_map.mp member with ⟨clause, kept, rfl⟩
  exact List.all_eq_true.mp names _
    (List.mem_map_of_mem (f := Prod.fst) (List.mem_filter.mp kept).1)

theorem isPlain_of_mem_verdictLine {report : Report Float} {c : Char}
    (inside : c ∈ (verdictLine report).toList) : isPlain c = true := by
  have met : "All graduation requirements are met.".toList.all isPlain = true := by decide
  have words : ("Not yet met: ".toList ++ ", ".toList).all isPlain = true := by decide
  unfold verdictLine at inside
  split at inside
  · exact List.all_eq_true.mp met c inside
  · rw [String.toList_append, List.mem_append] at inside
    rcases inside with before | listed
    · exact List.all_eq_true.mp words c (List.mem_append_left _ before)
    · rw [codeList, Text.joinStrings, String.toList_ofList] at listed
      rcases Text.mem_join listed with between | ⟨piece, member, inside⟩
      · exact List.all_eq_true.mp words c (List.mem_append_right _ between)
      · rcases List.mem_map.mp member with ⟨name, unmet, rfl⟩
        exact List.all_eq_true.mp (isPlain_of_mem_unmet unmet) c inside

theorem verdictLine_eq_iff (report : Report Float) :
    verdictLine report = "All graduation requirements are met." <-> report.satisfied = true := by
  unfold verdictLine
  constructor
  · intro same
    by_contra unmet
    rw [if_neg unmet] at same
    have begins := congrArg (fun line => line.toList.head?) same
    rw [String.toList_append] at begins
    cases begins
  · intro satisfied
    rw [if_pos satisfied]

/-- The verdict is what stands after the last line end of the text. -/
theorem getLast?_splitOn_lines (report : Report Float) (cohortLabel trackLabel : String) :
    (Text.splitOn '\n'
        (Text.joinStrings "\n" (lines report cohortLabel trackLabel)).toList).getLast?
      = some (verdictLine report).toList := by
  have free : '\n' ∉ (verdictLine report).toList :=
    fun inside => absurd (isPlain_of_mem_verdictLine inside) (by decide)
  obtain ⟨body, begins, whole⟩ : ∃ body, body ≠ []
      ∧ lines report cohortLabel trackLabel = body ++ [verdictLine report] :=
    ⟨_, by simp, rfl⟩
  have mapped : body.map String.toList ≠ [] := mt List.map_eq_nil_iff.mp begins
  rw [whole, Text.joinStrings, String.toList_ofList, List.map_append, List.map_singleton,
    Text.join_append mapped (List.cons_ne_nil _ _), List.append_assoc]
  change (Text.splitOn '\n' (_ ++ '\n' :: (verdictLine report).toList)).getLast? = _
  rw [Text.splitOn_append, Text.splitOn_of_not_mem free]
  exact List.getLast?_concat

end Verdict

end Summary

/-- The badges in the lines of a part are those of what is met. -/
def PartTest.allOk : PartTest Float where
  totals totals := Summary.AllOk (Summary.totalsLines totals)
  math math := Summary.AllOk (Summary.mathLines math)
  science science := Summary.AllOk (Summary.scienceLines science)
  area area := Summary.AllOk (Summary.areaLines "" area)
  floor floor := Summary.AllOk [Summary.floorLine "" floor]
  checklist list := Summary.AllOk (Summary.checklistLines list)

namespace Summary

theorem allOk_lines_iff_every (report : Report Float) (cohortLabel trackLabel : String) :
    AllOk (lines report cohortLabel trackLabel) <-> report.Every .allOk := by
  have heading : AllOk ["Cohort " ++ cohortLabel ++ " / track " ++ trackLabel ++ " ("
      ++ report.trackType.id ++ ")"] := by
    refine allOk_unbadged ?_
    rw [String.toList_append]
    change (_ ++ [')']).getLast? ≠ _
    rw [List.getLast?_concat]
    decide
  have basic : AllOk ["Basic"] := allOk_unbadged (by decide)
  have advanced : AllOk ["Advanced"] := allOk_unbadged (by decide)
  have verdict : AllOk [verdictLine report] := by
    refine allOk_unbadged fun closed => ?_
    exact absurd (isPlain_of_mem_verdictLine (List.mem_of_getLast? closed)) (by decide)
  cases arts : report.artsAndSports <;> cases list : report.checklist <;>
    simp only [lines, arts, list, allOk_append, allOk_cons_cons, allOk_nil, heading, basic,
      advanced, verdict, allOk_areaLines, allOk_floorLine, PartTest.allOk, Report.every_iff,
      true_and, and_true, and_assoc, Option.mem_def, reduceCtorEq, false_implies, implies_true,
      Option.some.injEq, forall_eq']

end Summary
namespace Audit

section Evaluated

/-! ## The badges of evaluated parts -/

variable {courses : List (Course Float)}

/-- No line is written about missing codes where the required codes are all held. -/
theorem missingLines_of_check {clause : AllOf} (held : clause.check courses = true) :
    Summary.missingLines (clause.missing courses) = [] := by
  rw [(check_iff_missing clause).mp held]
  rfl

theorem allOk_agrees_met : PartTestsAgree courses .allOk (.met Float) where
  totals rule := Summary.allOk_totalsLines (totals courses rule)
  math rule := by
    refine (Summary.allOk_mathLines (math courses rule)).trans ?_
    constructor
    · rintro ⟨ok, _, elective⟩
      exact ⟨(Bool.and_eq_true_iff.mp ok).1, elective⟩
    · rintro ⟨required, elective⟩
      have none : Summary.missingLines (math courses rule).missing = [] :=
        missingLines_of_check required
      rw [none]
      exact ⟨Bool.and_eq_true_iff.mpr ⟨required, elective⟩, Summary.allOk_nil, elective⟩
  science rule additions := by
    refine (Summary.allOk_scienceLines (science courses rule additions)).trans ?_
    constructor
    · rintro ⟨ok, _⟩
      exact ok
    · intro ok
      rcases (science_iff_findings rule additions).mp ok with
        ⟨_, physics, chemistry, biology, additionsOk⟩
      exact ⟨ok, physics, chemistry, biology, fun _ => additionsOk⟩
  area rule bucket := by
    refine (Summary.allOk_areaLines "" (area courses rule bucket)).trans ?_
    constructor
    · rintro ⟨ok, _⟩
      exact ok
    · intro ok
      rcases (area_iff_findings rule bucket).mp ok with ⟨_, required, choice⟩
      have none : Summary.missingLines (area courses rule bucket).missing = [] :=
        missingLines_of_check required
      rw [none]
      refine ⟨ok, Summary.allOk_nil, fun asked => ?_⟩
      -- the choice and the finding about it are there together
      rcases Option.ne_none_iff_exists'.mp asked with ⟨labels, labelled⟩
      rcases Option.map_eq_some_iff.mp labelled with ⟨one, present, _⟩
      have found : (area courses rule bucket).choiceOk = some (one.check courses) := by
        change rule.choice.map _ = _
        rw [present]
        rfl
      rw [found]
      exact choice _ found
  floor bucket need := Summary.allOk_floorLine "" (floor courses bucket need)
  checklist list := by
    refine (Summary.allOk_checklistLines (checklist courses list)).trans ?_
    constructor
    · rintro ⟨ok, _⟩
      exact ok
    · intro ok
      rcases (checklist_iff_findings list).mp ok with ⟨all, one⟩
      exact ⟨ok, all, fun _ => one⟩

/-- The badges in the lines of a report are all those of what is met just if the report is
satisfied. -/
theorem allOk_lines_iff (cohort : Cohort Float) (track : Track) (trackType : TrackType)
    (cohortLabel trackLabel : String) :
    let report := evaluate courses cohort track trackType
    Summary.AllOk (Summary.lines report cohortLabel trackLabel) <-> report.satisfied = true := by
  intro report
  rw [Summary.allOk_lines_iff_every, report.satisfied_iff_every]
  exact allOk_agrees_met.every_iff

end Evaluated

end Audit
end DegreeAudit
