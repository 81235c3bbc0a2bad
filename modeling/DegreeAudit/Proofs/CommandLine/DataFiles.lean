import DegreeAudit.Proofs.CommandLine.Runs
import Mathlib

namespace DegreeAudit

/-!
# Data files that are not in order

A data file is legible if its bytes are a text, and the text either is no document at all or is one
whose numbers can be understood.  What a legible file holds is either taken as requirements or as a
catalog, or the fault is told in a line of its own and the run ends with the status two.  Bytes that
are no text and numbers with too many digits get past that: their faults are passed on as they are.
-/

/-- Bytes of which it can be said what is wrong with them, if something is. -/
inductive Legible (bytes : List UInt8) : Prop where
  | document {text : List Char} {document : Json} (decoded : textOfBytes bytes = .ok text)
      (found : Json.read text = .ok document) (moderate : document.isModerate = true)
  | malformed {text : List Char} {reason : Json.Reason} {place : Json.Place}
      (decoded : textOfBytes bytes = .ok text)
      (broken : Json.read text = .error (.malformed reason place))

/-- Bytes of which it cannot be said. -/
inductive Illegible (bytes : List UInt8) : Prop where
  | garbled {fault : Encoding.Fault} (undecodable : textOfBytes bytes = .error fault)
  | tooManyDigits {text : List Char} {count : Nat} (decoded : textOfBytes bytes = .ok text)
      (broken : Json.read text = .error (.tooManyDigits count))

namespace FileTree

variable {files : FileTree} {path : Path} {content : Content}

/-- The document in a legible file, if it is one. -/
theorem readDocument_of_legible (there : files.read path = .ok content)
    (legible : Legible content.toBytes) :
    (∃ document, files.readDocument path = .ok document ∧ document.isModerate = true)
      ∨ ∃ reason place, files.readDocument path = .error (.json (.malformed reason place)) := by
  unfold readDocument readText
  rw [there]
  cases legible with
  | @document text document decoded found moderate =>
      left
      dsimp only
      rw [decoded]
      dsimp only
      rw [found]
      exact ⟨document, rfl, moderate⟩
  | @malformed text reason place decoded broken =>
      right
      dsimp only
      rw [decoded]
      dsimp only
      rw [broken]
      exact ⟨reason, place, rfl⟩

/-- There is no document in an illegible file, and why is not told. -/
theorem readDocument_of_illegible (there : files.read path = .ok content)
    (illegible : Illegible content.toBytes) :
    ∃ cause, files.readDocument path = .error cause
      ∧ forall {Cause : Type} (told : Cause -> Bool),
        (DataFault.unreadable path cause).isReported told = false := by
  unfold readDocument readText
  rw [there]
  cases illegible with
  | garbled undecodable =>
      dsimp only
      rw [undecodable]
      exact ⟨_, rfl, fun _ => rfl⟩
  | tooManyDigits decoded broken =>
      dsimp only
      rw [decoded]
      dsimp only
      rw [broken]
      exact ⟨_, rfl, fun _ => rfl⟩

/-- What is wrong with an illegible file is passed on as it is. -/
theorem not_isReported_of_illegible (there : files.read path = .ok content)
    (illegible : Illegible content.toBytes) :
    (∃ fault, (files.readRequirements path).outcome = .error fault
        ∧ (LoadFault.requirements fault).isReported = false)
      ∧ ∃ fault, files.readCatalog path = .error fault
        ∧ (LoadFault.catalog fault).isReported = false := by
  rcases readDocument_of_illegible there illegible with ⟨cause, broken, untold⟩
  unfold readRequirements readCatalog
  rw [broken]
  exact ⟨⟨_, rfl, untold _⟩, ⟨_, rfl, untold _⟩⟩

/-- What is wrong with the requirements in a legible file is told. -/
theorem isReported_requirements (there : files.read path = .ok content)
    (legible : Legible content.toBytes) {fault : DataFault Requirements.Fault}
    (failed : (files.readRequirements path).outcome = .error fault) :
    (LoadFault.requirements fault).isReported = true := by
  unfold readRequirements at failed
  rcases readDocument_of_legible there legible with
    ⟨document, found, moderate⟩ | ⟨reason, place, broken⟩
  · rw [found] at failed
    dsimp only at failed
    split at failed
    · rcases CommandLine.mapError_eq_error.mp failed with ⟨cause, mismatched, rfl⟩
      exact bne_iff_ne.mpr (Requirements.ne_tooLarge_of_ofDocument moderate mismatched)
    · rcases Except.error.inj failed with rfl
      rfl
  · rw [broken] at failed
    rcases Except.error.inj failed with rfl
    rfl

/-- What is wrong with the catalog in a legible file is told. -/
theorem isReported_catalog (there : files.read path = .ok content)
    (legible : Legible content.toBytes) {fault : DataFault Json.Mismatch}
    (failed : files.readCatalog path = .error fault) :
    (LoadFault.catalog fault).isReported = true := by
  unfold readCatalog at failed
  rcases readDocument_of_legible there legible with
    ⟨document, found, moderate⟩ | ⟨reason, place, broken⟩
  · rw [found] at failed
    dsimp only at failed
    split at failed
    · rcases CommandLine.mapError_eq_error.mp failed with ⟨cause, mismatched, rfl⟩
      refine bne_iff_ne.mpr ?_
      rintro rfl
      exact (Catalog.yields_ofDocument moderate).ne_tooLarge mismatched
    · rcases Except.error.inj failed with rfl
      rfl
  · rw [broken] at failed
    rcases Except.error.inj failed with rfl
    rfl

end FileTree

namespace CommandLine

/-- A data file is legible, and what it holds is no requirements or no catalog.  The catalog is only
looked at if there are requirements. -/
inductive BadData (files : FileTree) (requirements catalog : DataSource) : LoadFault -> Prop where
  | requirements {path : Path} {content : Content} {fault : DataFault Requirements.Fault}
      (source : requirements = .file path) (there : files.read path = .ok content)
      (legible : Legible content.toBytes)
      (failed : (files.readRequirements path).outcome = .error fault) :
      BadData files requirements catalog (.requirements fault)
  | catalog {given : Requirements Float} {path : Path} {content : Content}
      {fault : DataFault Json.Mismatch}
      (before : (files.loadRequirements requirements).outcome = .ok given)
      (source : catalog = .file path) (there : files.read path = .ok content)
      (legible : Legible content.toBytes) (failed : files.readCatalog path = .error fault) :
      BadData files requirements catalog (.catalog fault)

section Opening

variable {options : Options} {surroundings : Surroundings} {requirements catalog : DataSource}
  {fault : LoadFault}

theorem BadData.isReported {files : FileTree} (bad : BadData files requirements catalog fault) :
    fault.isReported = true := by
  cases bad with
  | requirements _ there legible failed =>
    exact FileTree.isReported_requirements there legible failed
  | catalog _ _ there legible failed =>
    exact FileTree.isReported_catalog there legible failed

/-- Data are loaded from one source after the other. -/
theorem outcome_loadData
    (first : sourceOr options.requirements surroundings.environment.requirementsSource
      = .ok requirements)
    (second : sourceOr options.catalog surroundings.environment.catalogSource = .ok catalog) :
    (loadData options surroundings).outcome
      = ((surroundings.files.loadRequirements requirements).outcome.mapError .load).bind
        fun given =>
          ((surroundings.files.loadCatalog catalog).outcome.mapError .load).bind fun offered =>
            .ok (given, offered) := by
  unfold loadData
  dsimp only
  rw [first, second]
  simp only [Logged.outcome_bind, Logged.outcome_lift, Logged.outcome_pure]
  rfl

/-- Loading fails with the fault of the file. -/
theorem outcome_loadData_of_badData
    (first : sourceOr options.requirements surroundings.environment.requirementsSource
      = .ok requirements)
    (second : sourceOr options.catalog surroundings.environment.catalogSource = .ok catalog)
    (bad : BadData surroundings.files requirements catalog fault) :
    (loadData options surroundings).outcome = .error (.load fault) := by
  rw [outcome_loadData first second]
  cases bad with
  | requirements source there legible failed =>
      rw [source]
      unfold FileTree.loadRequirements
      rw [Logged.outcome_bind]
      dsimp only
      rw [failed]
      rfl
  | catalog before source there legible failed =>
      rw [before, source]
      unfold FileTree.loadCatalog
      rw [Logged.outcome_bind]
      dsimp only
      rw [failed]
      rfl

theorem lines_concat (texts : List String) (text : String) :
    Run.lines (texts ++ [text]) = Run.lines texts ++ (text ++ "\n") := by
  unfold Run.lines
  rw [List.map_append, String.join_append, List.map_singleton, String.join_cons, String.join_nil,
    String.append_empty]

/-- A failure that is reported is the last line of the error output, and changes nothing. -/
theorem run_fail {failure : Failure} {code : Nat} (reported : failure.status? = some code)
    (remarks : List Complaint) (files : FileTree) (ids : IdSupply) (verbose : Bool) :
    let run := Run.fail [] remarks failure files ids
    run.ending = .status code ∧ run.output = "" ∧ run.files = files
      ∧ ∃ earlier, run.errors verbose = earlier ++ "error: " ++ failure.message ++ "\n" := by
  intro run
  have shape : run = {
      shown := []
      complaints := remarks ++ [.failure failure]
      ending := .status code
      files
      ids } := by
    change Run.fail _ _ _ _ _ = _
    unfold Run.fail
    rw [reported]
  rw [shape]
  refine ⟨rfl, rfl, rfl, ?_⟩
  let loud := remarks.filter fun complaint => verbose || complaint.isLoud
  refine ⟨Run.lines (loud.map Complaint.text), ?_⟩
  have last : [Complaint.failure failure].filter (fun complaint => verbose || complaint.isLoud)
      = [.failure failure] :=
    List.filter_cons_of_pos (by simp [Complaint.isLoud])
  unfold Run.errors
  rw [List.filter_append, last, List.map_append, List.map_singleton, lines_concat, Complaint.text,
    String.append_assoc, String.append_assoc, String.append_assoc]

/-- The program answers data that are bad with a line that tells the fault, and with the status
two. -/
theorem run_of_badData {arguments : List String} {request : Request} {statePath : Path}
    (asked : Request.read arguments = .ok request)
    (home : pathOr request.options.state surroundings.environment.statePath = .ok statePath)
    (first : sourceOr request.options.requirements surroundings.environment.requirementsSource
      = .ok requirements)
    (second : sourceOr request.options.catalog surroundings.environment.catalogSource = .ok catalog)
    (bad : BadData surroundings.files requirements catalog fault) (ids : IdSupply)
    (verbose : Bool) :
    let run := (run arguments surroundings ids).1
    run.ending = .status 2 ∧ run.output = "" ∧ run.files = surroundings.files
      ∧ ∃ earlier, run.errors verbose = earlier ++ "error: " ++ fault.message ++ "\n" := by
  have loaded := outcome_loadData_of_badData first second bad
  have reported : (Failure.load fault).status? = some 2 := if_pos bad.isReported
  unfold run
  rw [asked]
  dsimp only
  rw [home]
  dsimp only
  unfold carryOut openContext
  dsimp only
  rw [loaded]
  exact run_fail reported _ _ _ verbose

end Opening

section Answers

/-- A data file that is legible gives requirements with a cohort and a track, or a catalog, or else
a fault that is told in a line of its own; one that is illegible gives a fault that is not.  A run
that works from a legible file which gives neither tells the fault in its last line, ends with the
status two and changes nothing. -/
theorem dataFile_answered (surroundings : Surroundings) :
    (forall (path : Path) (content : Content),
      surroundings.files.read path = .ok content -> Legible content.toBytes ->
        ((∃ requirements, (surroundings.files.readRequirements path).outcome = .ok requirements
            ∧ requirements.cohorts ≠ [] ∧ requirements.tracks ≠ [])
          ∨ ∃ fault, (surroundings.files.readRequirements path).outcome = .error fault
            ∧ (LoadFault.requirements fault).isReported = true)
        ∧ ((∃ catalog, surroundings.files.readCatalog path = .ok catalog)
          ∨ ∃ fault, surroundings.files.readCatalog path = .error fault
            ∧ (LoadFault.catalog fault).isReported = true))
    ∧ (forall (path : Path) (content : Content),
      surroundings.files.read path = .ok content -> Illegible content.toBytes ->
        (∃ fault, (surroundings.files.readRequirements path).outcome = .error fault
            ∧ (LoadFault.requirements fault).isReported = false)
        ∧ ∃ fault, surroundings.files.readCatalog path = .error fault
            ∧ (LoadFault.catalog fault).isReported = false)
    ∧ forall (arguments : List String) (ids : IdSupply) (request : Request) (statePath : Path)
        (requirements catalog : DataSource) (fault : LoadFault) (verbose : Bool),
      Request.read arguments = .ok request ->
      pathOr request.options.state surroundings.environment.statePath = .ok statePath ->
      sourceOr request.options.requirements surroundings.environment.requirementsSource
        = .ok requirements ->
      sourceOr request.options.catalog surroundings.environment.catalogSource = .ok catalog ->
      BadData surroundings.files requirements catalog fault ->
        let run := (run arguments surroundings ids).1
        run.ending = .status 2 ∧ run.output = "" ∧ run.files = surroundings.files
          ∧ ∃ earlier, run.errors verbose = earlier ++ "error: " ++ fault.message ++ "\n" := by
  refine ⟨?_, ?_, ?_⟩
  · intro path content there legible
    constructor
    · cases outcome : (surroundings.files.readRequirements path).outcome with
      | ok requirements => exact Or.inl ⟨requirements, rfl, present_readRequirements outcome⟩
      | error fault =>
          exact Or.inr ⟨fault, rfl, FileTree.isReported_requirements there legible outcome⟩
    · cases outcome : surroundings.files.readCatalog path with
      | ok catalog => exact Or.inl ⟨catalog, rfl⟩
      | error fault =>
          exact Or.inr ⟨fault, rfl, FileTree.isReported_catalog there legible outcome⟩
  · intro path content there illegible
    exact FileTree.not_isReported_of_illegible there illegible
  · intro arguments ids request statePath requirements catalog fault verbose asked home first
      second bad
    exact run_of_badData asked home first second bad ids verbose

/-- A run that finds some bytes where it looks for requirements. -/
def besides (bytes : List UInt8) : Surroundings :=
  {
    files := { working := [], nodes := [(["r.json"], .file (.bytes bytes))] }
    environment := { entries := [], homes := [], user := "" }
    standardInput := []
  }

/-- A command line that names a file with requirements. -/
def statusArguments : List String :=
  ["--requirements", "r.json", "--state", "s.json", "status"]

/-- A cohort that says nothing but its id. -/
def bareCohort : List Char :=
  "\x7b\"cohorts\":[\x7b\"id\":1\x7d],\"tracks\":[]\x7d".toList

theorem legible_bareCohort : Legible (Encoding.Utf8.encode bareCohort) := by
  have decoded : textOfBytes (Encoding.Utf8.encode bareCohort) = .ok bareCohort := by
    decide +kernel
  have found : Json.read bareCohort
      = .ok (.object [("cohorts", .list [.object [("id", .int 1)]]), ("tracks", .list [])]) := by
    cbv
  exact .document decoded found (by decide +kernel)

theorem dataFile_answered_bareCohort :
    Legible (Encoding.Utf8.encode bareCohort)
      ∧ (∃ fault, (besides (Encoding.Utf8.encode bareCohort)).files.readCatalog (Path.read "r.json")
        = .error fault ∧ (LoadFault.catalog fault).isReported = true)
      ∧ (∃ earlier, (run statusArguments (besides (Encoding.Utf8.encode bareCohort))
        (IdSupply.random 0)).1.errors false
          = earlier ++ "error: " ++ "invalid requirement specification: KeyError('basic')"
            ++ "\n")
      ∧ Illegible [0xFF]
      ∧ ∃ fault, (besides [0xFF]).files.readCatalog (Path.read "r.json") = .error fault
        ∧ (LoadFault.catalog fault).isReported = false := by
  rcases dataFile_answered (besides (Encoding.Utf8.encode bareCohort)) with
    ⟨reading, _, running⟩
  have there : (besides (Encoding.Utf8.encode bareCohort)).files.read (Path.read "r.json")
      = .ok (.bytes (Encoding.Utf8.encode bareCohort)) := rfl
  have garbled : textOfBytes [0xFF] = .error ⟨"utf-8", 0xFF, 0, 1, "invalid start byte"⟩ := by
    decide +kernel
  refine ⟨legible_bareCohort, ?_, ?_, .garbled garbled, ?_⟩
  · rcases (reading _ _ there legible_bareCohort).2 with ⟨catalog, found⟩ | told
    · have failed : ((besides (Encoding.Utf8.encode bareCohort)).files.readCatalog
          (Path.read "r.json")).isOk = false := by
        decide +kernel
      rw [found] at failed
      cases failed
    · exact told
  · have asked : Request.read statusArguments
        = .ok ⟨⟨some "s.json", some "r.json", none, false⟩, .status⟩ := by
      with_unfolding_all rfl
    have failed : ((besides (Encoding.Utf8.encode bareCohort)).files.readRequirements
        (Path.read "r.json")).outcome = .error (.content (.mismatch (.missingKey "basic"))) := by
      decide +kernel
    exact (running _ _ _ _ _ _ _ false asked rfl rfl rfl
      (.requirements rfl there legible_bareCohort failed)).2.2.2
  · exact ((dataFile_answered (besides [0xFF])).2.1 _ (.bytes [0xFF]) rfl
      (.garbled garbled)).2

/-- A catalog with a course of ten to the power of 309 credits. -/
def overflowingCatalog : List Char :=
  "[\x7b\"code\":\"EE201\",\"credits\":1".toList ++ List.replicate 309 '0' ++ "\x7d]".toList

/-- Bytes that are no text and numbers that are too large get past the line for faults: the run does
not end with the status two. -/
theorem dataFile_unanswered :
    (run statusArguments (besides [0xFF]) (IdSupply.random 0)).1.ending ≠ .status 2
      ∧ (besides (Encoding.Utf8.encode overflowingCatalog)).files.readCatalog (Path.read "r.json")
        = .error (.content .tooLarge)
      ∧ (LoadFault.catalog (.content .tooLarge)).isReported = false := by
  refine ⟨?_, ?_, ?_⟩
  · decide +kernel
  · decide +kernel
  · decide +kernel

end Answers

end CommandLine
end DegreeAudit
