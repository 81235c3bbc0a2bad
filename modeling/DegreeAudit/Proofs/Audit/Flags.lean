import DegreeAudit.Audit.Document
import DegreeAudit.Proofs.Audit.Parts

namespace DegreeAudit

/-!
# The truth values of a report

A report shows a truth value for every requirement, and more of them for what a requirement is made
of.  They are collected from its document, wherever in it they stand, so none can be left out here.

All but three kinds say that something needed is there.  Theory can be met in two ways, so the two
values about its courses need not both be true; and the verdict itself stands in the document beside
what it was decided on.  The values of a part, apart from those, are all true just if the part is
met, and the values of the report just if the verdict is.
-/

namespace Json

mutual

/-- The truth values in a value under a key, each with the key nearest to it. -/
def flags (key : String) : Json -> List (String × Bool)
  | .bool value => [(key, value)]
  | .list items => itemFlags key items
  | .object entries => entryFlags entries
  | _ => []

/-- The truth values in the items of a list under a key. -/
def itemFlags (key : String) : List Json -> List (String × Bool)
  | [] => []
  | item :: items => flags key item ++ itemFlags key items

/-- The truth values in the entries of an object. -/
def entryFlags : List (String × Json) -> List (String × Bool)
  | [] => []
  | (key, value) :: entries => flags key value ++ entryFlags entries

end

section Flags

variable (key : String)

@[simp]
theorem flags_null : flags key .null = [] := rfl

@[simp]
theorem flags_bool (value : Bool) : flags key (.bool value) = [(key, value)] := rfl

@[simp]
theorem flags_int (value : Int) : flags key (.int value) = [] := rfl

@[simp]
theorem flags_real (value : Float) : flags key (.real value) = [] := rfl

@[simp]
theorem flags_string (value : String) : flags key (.string value) = [] := rfl

@[simp]
theorem flags_object (entries : List (String × Json)) :
    flags key (.object entries) = entryFlags entries := rfl

@[simp]
theorem entryFlags_nil : entryFlags [] = [] := rfl

@[simp]
theorem entryFlags_cons (value : Json) (entries : List (String × Json)) :
    entryFlags ((key, value) :: entries) = flags key value ++ entryFlags entries := rfl

end Flags

end Json

/-- The keys of truth values that need not be true: of the two ways to meet theory, and of the
verdict, which a document has besides the report. -/
def undecidingKeys : List String :=
  ["theory_all_ok", "theory_any_ok", "satisfied"]

/-- All truth values are true, but for those that need not be. -/
def AllTrue (flags : List (String × Bool)) : Prop :=
  forall key value, (key, value) ∈ flags -> key ∉ undecidingKeys -> value = true

section Flags

/-! ## Truth values one after another -/

variable {key : String} {value : Bool} {first second : List (String × Bool)}

@[simp]
theorem allTrue_nil : AllTrue [] := by
  intro key value member
  cases member

@[simp]
theorem allTrue_append : AllTrue (first ++ second) <-> AllTrue first ∧ AllTrue second := by
  simp only [AllTrue, List.mem_append, or_imp, forall_and]

@[simp]
theorem allTrue_cons :
    AllTrue ((key, value) :: first) <-> (key ∉ undecidingKeys -> value = true) ∧ AllTrue first := by
  constructor
  · intro all
    exact ⟨all key value List.mem_cons_self,
      fun other flag member => all other flag (List.mem_cons_of_mem _ member)⟩
  · rintro ⟨here, others⟩ other flag member
    rcases List.mem_cons.mp member with same | later
    · cases same
      exact here
    · exact others other flag later

end Flags

namespace Report

section Documents

/-! ## The truth values in the document of a part -/

variable (key : String)

@[simp]
theorem flags_tallyDocument (tally : Tally Float) : (tallyDocument tally).flags key = [] := by
  cases tally <;> rfl

@[simp]
theorem flags_codesDocument (codes : List String) : (codesDocument codes).flags key = [] := by
  change Json.itemFlags key (codes.map .string) = []
  induction codes with
  | nil => rfl
  | cons code codes inductionHypothesis => exact inductionHypothesis

@[simp]
theorem flags_choiceDocument (choice : Option (List String)) :
    (codesDocument? choice).flags key = [] := by
  cases choice with
  | none => rfl
  | some codes => exact flags_codesDocument key codes

@[simp]
theorem flags_bucketTotals (totals : List (Bucket × Tally Float)) :
    Json.entryFlags (totals.map fun (bucket, tally) => (bucket.id, tallyDocument tally)) = [] := by
  induction totals with
  | nil => rfl
  | cons total totals inductionHypothesis =>
      rw [List.map_cons, Json.entryFlags_cons, inductionHypothesis, flags_tallyDocument]
      rfl

theorem allTrue_totalsDocument (totals : TotalsResult Float) :
    AllTrue ((totalsDocument totals).flags key)
      <-> totals.totalOk = true ∧ totals.basicOk = true ∧ totals.advancedOk = true := by
  simp +decide [totalsDocument]

theorem allTrue_mathDocument (math : MathResult Float) :
    AllTrue ((mathDocument math).flags key)
      <-> math.requiredOk = true ∧ math.electiveOk = true ∧ math.ok = true := by
  simp +decide [mathDocument]

@[simp]
theorem allTrue_scienceAreaDocument (area : ScienceAreaResult Float) :
    AllTrue ((scienceAreaDocument area).flags key) <-> area.labOk = true ∧ area.ok = true := by
  simp +decide [scienceAreaDocument]

theorem allTrue_scienceDocument (science : ScienceResult Float) :
    AllTrue ((scienceDocument science).flags key)
      <-> science.totalOk = true
        ∧ (science.physics.labOk = true ∧ science.physics.ok = true)
        ∧ (science.chemistry.labOk = true ∧ science.chemistry.ok = true)
        ∧ (science.biology.labOk = true ∧ science.biology.ok = true)
        ∧ science.additionsOk = true ∧ science.ok = true := by
  simp +decide [scienceDocument]

theorem allTrue_areaDocument (area : AreaResult Float) :
    AllTrue ((areaDocument area).flags key)
      <-> area.creditsOk = true ∧ area.requiredOk = true
        ∧ (forall ok, ok ∈ area.choiceOk -> ok = true) ∧ area.ok = true := by
  cases asked : area.choiceOk <;>
    simp +decide [areaDocument, asked]

theorem allTrue_floorDocument (floor : FloorResult Float) :
    AllTrue ((floorDocument floor).flags key) <-> floor.ok = true := by
  simp +decide [floorDocument]

theorem allTrue_checklistDocument (checklist : ChecklistResult) :
    AllTrue ((checklistDocument checklist).flags key)
      <-> checklist.allOk = true ∧ checklist.oneOk = true ∧ checklist.ok = true := by
  simp +decide [checklistDocument]

end Documents

/-- The truth values of a report, as its document names them. -/
def flags (report : Report Float) : List (String × Bool) :=
  report.document.flags ""

end Report

/-- The truth values of a part are all true, but for those that need not be. -/
def PartTest.allTrue : PartTest Float where
  totals totals := AllTrue ((Report.totalsDocument totals).flags "")
  math math := AllTrue ((Report.mathDocument math).flags "")
  science science := AllTrue ((Report.scienceDocument science).flags "")
  area area := AllTrue ((Report.areaDocument area).flags "")
  floor floor := AllTrue ((Report.floorDocument floor).flags "")
  checklist list := AllTrue ((Report.checklistDocument list).flags "")

theorem Report.allTrue_flags_iff_every (report : Report Float) :
    AllTrue report.flags <-> report.Every .allTrue := by
  have option {Part : Type} (part : Option Part) (write : Part -> Json) (key : String) :
      AllTrue (((part.map write).getD .null).flags key)
        <-> forall present, present ∈ part -> AllTrue ((write present).flags key) := by
    cases part <;> simp
  have verdict : "satisfied" ∈ undecidingKeys := by decide
  simp only [flags, document, Json.flags_object, Json.flags_string, Json.flags_bool,
    Json.entryFlags_nil, Json.entryFlags_cons, flags_bucketTotals, List.nil_append, List.cons_append,
    allTrue_append, allTrue_cons, allTrue_nil, option, verdict, not_true, false_implies, and_true,
    every_iff]
  -- a part is an object, so the key that it stands under is the key of none of its truth values
  exact Iff.rfl

namespace Audit

section Evaluated

/-! ## The truth values of evaluated parts -/

variable {courses : List (Course Float)}

theorem allTrue_agrees_met : PartTestsAgree courses .allTrue (.met Float) where
  totals rule := Report.allTrue_totalsDocument "" (totals courses rule)
  math rule := by
    refine (Report.allTrue_mathDocument "" (math courses rule)).trans ?_
    constructor
    · rintro ⟨required, elective, _⟩
      exact ⟨required, elective⟩
    · rintro ⟨required, elective⟩
      exact ⟨required, elective, Bool.and_eq_true_iff.mpr ⟨required, elective⟩⟩
  science rule additions := by
    refine (Report.allTrue_scienceDocument "" (science courses rule additions)).trans ?_
    constructor
    · rintro ⟨_, _, _, _, _, ok⟩
      exact ok
    · intro ok
      rcases (science_iff_findings rule additions).mp ok with
        ⟨total, physics, chemistry, biology, additionsOk⟩
      exact ⟨total, ⟨lab_of_scienceArea physics, physics⟩,
        ⟨lab_of_scienceArea chemistry, chemistry⟩, ⟨lab_of_scienceArea biology, biology⟩,
        additionsOk, ok⟩
  area rule bucket := by
    refine (Report.allTrue_areaDocument "" (area courses rule bucket)).trans ?_
    constructor
    · rintro ⟨_, _, _, ok⟩
      exact ok
    · intro ok
      rcases (area_iff_findings rule bucket).mp ok with ⟨credits, required, choice⟩
      exact ⟨credits, required, choice, ok⟩
  floor bucket need := Report.allTrue_floorDocument "" (floor courses bucket need)
  checklist list := by
    refine (Report.allTrue_checklistDocument "" (checklist courses list)).trans ?_
    constructor
    · rintro ⟨_, _, ok⟩
      exact ok
    · intro ok
      rcases (checklist_iff_findings list).mp ok with ⟨all, one⟩
      exact ⟨all, one, ok⟩

/-- The truth values of a report are all true, but for those that need not be, just if the report is
satisfied. -/
theorem allTrue_flags_iff (cohort : Cohort Float) (track : Track) (trackType : TrackType) :
    let report := evaluate courses cohort track trackType
    AllTrue report.flags <-> report.satisfied = true := by
  intro report
  rw [report.allTrue_flags_iff_every, report.satisfied_iff_every]
  exact allTrue_agrees_met.every_iff

end Evaluated

end Audit
end DegreeAudit
