import DegreeAudit.Proofs.Planner.Documents
import DegreeAudit.Proofs.Requirement.Document
import DegreeAudit.Storage.StateFile

namespace DegreeAudit

/-!
# Loading whatever a file holds

The planner starts with the stored state or, where there is none to be had, with a new one.  It does
so whatever bytes are in the file, unless they are a document that cannot be read at all.
-/

namespace StateFile

variable {requirements : Option (Requirements Float)} {path : Path} {files : FileTree}
  {content : Content}

theorem hasNode_of_read (there : files.read path = .ok content) :
    files.hasNode path = .ok true := by
  unfold FileTree.read at there
  unfold FileTree.hasNode
  split at there
  · cases there
  · rename_i location found
    rw [found]
    split at there
    · rename_i file
      dsimp only
      rw [file]
      rfl
    · cases there
    · cases there

/-- Bytes that are no text are passed over. -/
theorem result_load_of_notText (there : files.read path = .ok content) {fault : Encoding.Fault}
    (garbled : textOfBytes content.toBytes = .error fault) (ids : IdSupply) :
    (load requirements path files ids).result
      = .ok (PlannerState.initial, some (.unreadable (.notText fault))) := by
  unfold load FileTree.readText
  rw [hasNode_of_read there, there]
  dsimp only
  rw [garbled]
  rfl

/-- Loading a text fails as reading a state from it does, and in no other way. -/
theorem result_load_of_text (there : files.read path = .ok content) {text : List Char}
    (decoded : textOfBytes content.toBytes = .ok text) (ids : IdSupply) (failure : Failure) :
    (load requirements path files ids).result = .error failure
      ↔ ∃ cause, failure = .planner cause
        ∧ (Snapshot.read requirements PlannerState.initial ids (.text text)).result
          = .error cause := by
  unfold load FileTree.readText
  rw [hasNode_of_read there, there]
  dsimp only
  rw [decoded]
  dsimp only
  split
  · rename_i cause found
    rw [found]
    simp [eq_comm]
  · rename_i reason found
    rw [found]
    simp [startAfresh]
  · rename_i state found
    rw [found]
    simp

/-- Loading a file fails just if its text is a document that cannot be read. -/
theorem result_load_eq_error_iff
    (tracked : forall given, requirements = some given -> given.tracks ≠ [])
    (there : files.read path = .ok content) (ids : IdSupply) (failure : Failure) :
    (load requirements path files ids).result = .error failure
      ↔ failure = .planner .creditsTooLarge
        ∧ ∃ text, textOfBytes content.toBytes = .ok text ∧ Snapshot.Overflows (.text text) := by
  cases decoded : textOfBytes content.toBytes with
  | error fault =>
      rw [result_load_of_notText there decoded]
      simp
  | ok text =>
      rw [result_load_of_text there decoded]
      have unanswered (cause : Planner.Failure) :
          (Snapshot.read requirements PlannerState.initial ids (.text text)).result = .error cause
            ↔ cause = .creditsTooLarge ∧ Snapshot.Overflows (.text text) := by
        rw [Snapshot.result_read_eq_error_iff tracked]
        exact Snapshot.unanswered_iff_overflows
          (fun _ => @Snapshot.not_holdsOverlong_document (.text text) nofun _) cause
      constructor
      · rintro ⟨cause, rfl, failed⟩
        rcases (unanswered cause).mp failed with ⟨rfl, large⟩
        exact ⟨rfl, text, rfl, large⟩
      · rintro ⟨rfl, other, same, large⟩
        rcases Except.ok.inj same with rfl
        exact ⟨_, rfl, (unanswered _).mpr ⟨rfl, large⟩⟩

end StateFile

section Answers

open Snapshot (Source Refused Unanswered Overflows)

/-- Whatever stands in a document, reading it with requirements of a document ends in one of three
ways.  It is refused just for the reasons there are, and it gives a state if there is none of them,
unless a course in it has more credits than any real number or a text is taken where there is none:
then there is no answer at all.  Texts and bytes only lack an answer where credits are that large,
and that goes for a state that is loaded from a file as well. -/
theorem reading_answers_iff {described : Json} {requirements : Requirements Float}
    (given : (Requirements.ofDocument described).outcome = .ok requirements) :
    (forall (base : PlannerState) (ids : IdSupply) (source : Source),
      let result := (Snapshot.read (some requirements) base ids source).result
      (forall reason, result = .ok (.error reason) ↔ Refused source reason)
        ∧ ((∃ state, result = .ok (.ok state))
          ↔ (¬ ∃ reason, Refused source reason) ∧ ¬ ∃ failure, Unanswered source failure)
        ∧ (forall failure, result = .error failure ↔ Unanswered source failure)
        ∧ ((forall document, source ≠ .value document) ->
          forall failure,
            Unanswered source failure ↔ failure = .creditsTooLarge ∧ Overflows source))
      ∧ forall (path : Path) (files : FileTree) (content : Content) (ids : IdSupply),
        files.read path = .ok content ->
          forall failure, (StateFile.load (some requirements) path files ids).result
              = .error failure
            ↔ failure = .planner .creditsTooLarge
              ∧ ∃ text, textOfBytes content.toBytes = .ok text ∧ Overflows (.text text) := by
  have tracked (other : Requirements Float) (same : some requirements = some other) :
      other.tracks ≠ [] := by
    rcases Option.some.inj same with rfl
    exact (Requirements.present_ofDocument given).2
  constructor
  · intro base ids source result
    refine ⟨Snapshot.result_read_eq_refused_iff, Snapshot.exists_state_iff tracked,
      Snapshot.result_read_eq_error_iff tracked, ?_⟩
    intro apart failure
    exact Snapshot.unanswered_iff_overflows
      (fun _ => Snapshot.not_holdsOverlong_document apart) failure
  · intro path files content ids there
    exact StateFile.result_load_eq_error_iff tracked there ids

/-! ### Documents of requirements and of states -/

/-- An area that asks for three credits. -/
def sampleArea : Json := .object [("minCredits", .real 3)]

/-- A document of requirements that says no more than it has to. -/
def sampleDocument : Json :=
  .object [
    ("cohorts", .list [.object [
      ("id", .string "2024"),
      ("totals", .object [("totalMin", .real 9), ("basicMin", .real 6), ("advancedMin", .real 3)]),
      ("basic", .object [
        ("math", .object [
          ("chooseCreditsFrom", .object [("codes", .null), ("minCredits", .real 0)])
        ]),
        ("science", .object [
          ("minCredits", .real 0),
          ("areas", .object [("physics", .object []), ("chem", .object []), ("bio", .object [])])
        ]),
        ("engCore", sampleArea), ("engSelect", sampleArea), ("hssWriting", sampleArea),
        ("english", sampleArea)
      ]),
      ("advanced", .object [])
    ]]),
    ("tracks", .list [.object [("id", .string "EE")]])
  ]

/-- A course that has another kind of value under each key than it should, and two entries that are
no courses. -/
def oddCourses : List Json :=
  [
    .object [("code", .int 7), ("name", .list []), ("credits", .string "many"),
      ("bucket", .bool true), ("id", .object [])],
    .null,
    .string "EE201"
  ]

/-- A file that holds some bytes, in a working directory of its own. -/
def loneFile (bytes : List UInt8) : FileTree :=
  { working := [], nodes := [(["plan.json"], .file (.bytes bytes))] }

theorem read_loneFile (bytes : List UInt8) :
    (loneFile bytes).read (Path.read "plan.json") = .ok (.bytes bytes) := by
  rfl

theorem reading_answers_iff_oddCourses :
    ∃ requirements, (Requirements.ofDocument sampleDocument).outcome = .ok requirements
      ∧ (∃ state, (Snapshot.read (some requirements) PlannerState.initial (IdSupply.random 0)
        (.value (.object [("courses", .list oddCourses)]))).result = .ok (.ok state))
      ∧ forall failure, (StateFile.load (some requirements) (Path.read "plan.json")
        (loneFile [0xFF]) (IdSupply.random 0)).result ≠ .error failure := by
  obtain ⟨requirements, given⟩ :
      ∃ requirements, (Requirements.ofDocument sampleDocument).outcome = .ok requirements :=
    ⟨_, rfl⟩
  rcases reading_answers_iff given with ⟨reading, loading⟩
  refine ⟨requirements, given, ?_, ?_⟩
  · refine (reading _ _ _).2.1.mpr ⟨?_, ?_⟩
    · rintro ⟨reason, refused⟩
      cases refused with
      | notJson unreadable => cases unreadable
      | notObject readable other => exact other _ (Except.ok.inj readable).symm
      | noCourseList readable absent =>
          rcases Json.object.inj (Except.ok.inj readable) with rfl
          cases absent
    · rintro ⟨failure, unanswered⟩
      have short (document : Json)
          (readable : (Source.value (.object [("courses", .list oddCourses)])).document
            = .ok document) : ¬ document.HoldsOverlong := by
        rcases Except.ok.inj readable with rfl
        exact Json.not_holdsOverlong_of_isModerate (by decide +kernel)
      rcases (Snapshot.unanswered_iff_overflows short failure).mp unanswered with
        ⟨_, entries, items, item, readable, listed, member, credits, found, large⟩
      rcases Json.object.inj (Except.ok.inj readable) with rfl
      rcases Option.some.inj listed with rfl
      simp only [oddCourses, List.mem_cons, List.not_mem_nil, or_false] at member
      rcases member with rfl | rfl | rfl
      · rcases Option.some.inj found with rfl
        exact large
      · cases found
      · cases found
  · intro failure failed
    rcases (loading _ _ _ _ (read_loneFile _) failure).mp failed with ⟨_, text, decoded, _⟩
    have garbled : textOfBytes [0xFF] = .error ⟨"utf-8", 0xFF, 0, 1, "invalid start byte"⟩ := by
      decide +kernel
    cases garbled.symm.trans decoded

/-- The text of a document with a course of ten to the power of 309 credits. -/
def overflowingText : List Char :=
  "\x7b\"courses\":[\x7b\"credits\":1".toList ++ List.replicate 309 '0' ++ "\x7d]\x7d".toList

/-- A document with a cohort of 4301 digits. -/
def overlongCohort : Json :=
  .object [("cohortId", .int (10 ^ Number.mostDigits)), ("courses", .list [])]

theorem holdsOverlong_cohort :
    Snapshot.HoldsOverlong "cohortId" [("cohortId", .int (10 ^ Number.mostDigits)),
      ("courses", .list [])] := by
  refine ⟨_, rfl, .int ?_⟩
  simp [Number.IsOverlong, Int.natAbs_pow]

/-- A text that gets no answer, a file that keeps the planner from starting, and a document that
gets no answer for another reason. -/
theorem reading_unanswered :
    ∃ requirements, (Requirements.ofDocument sampleDocument).outcome = .ok requirements
      ∧ (Snapshot.read (some requirements) PlannerState.initial (IdSupply.random 0)
        (.text overflowingText)).result = .error .creditsTooLarge
      ∧ (StateFile.load (some requirements) (Path.read "plan.json")
        (loneFile (Encoding.Utf8.encode overflowingText)) (IdSupply.random 0)).result
        = .error (.planner .creditsTooLarge)
      ∧ (Snapshot.read (some requirements) PlannerState.initial (IdSupply.random 0)
        (.value overlongCohort)).result = .error .tooManyDigits := by
  refine ⟨_, rfl, ?_, ?_, ?_⟩
  · decide +kernel
  · decide +kernel
  · refine (Snapshot.result_read_eq_error_iff ?_ _).mpr
      (.choice rfl rfl ⟨"cohortId", by decide, holdsOverlong_cohort⟩)
    rintro given same
    rcases Option.some.inj same with rfl
    exact nofun

end Answers

end DegreeAudit
