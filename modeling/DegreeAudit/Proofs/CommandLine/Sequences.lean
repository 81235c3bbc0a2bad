import DegreeAudit.Proofs.CommandLine.Runs
import DegreeAudit.Proofs.Text.Split

namespace DegreeAudit
namespace CommandLine

/-!
# Runs that follow one another

Runs that keep their state at one path do together what the operations of their commands do to one
state in memory, since each of them loads what the one before has stored.  This takes a path by
names that fit.

Where there is no state to be had, loading is to start with a new one.  It fails to do so on a path
with a name that is too long: the question whether there is a file goes unguarded, and there is no
answer to it once a run that could not save has made a directory on the way.
-/

/-- The files after runs that follow one another. -/
def filesAfter : List Invocation -> FileTree -> FileTree
  | [], files => files
  | invocation :: invocations, files => filesAfter invocations (invocation.run files).files

/-- The state in memory after runs that follow one another. -/
def stateAfter (sources : Planner.Sources) : List Invocation -> FileTree -> PlannerState ->
    PlannerState
  | [], _, state => state
  | invocation :: invocations, files, state =>
      stateAfter sources invocations (invocation.run files).files
        (invocation.apply sources files state)

/-- All runs keep their state at one path and work from the same data, on the files that the runs
before them leave. -/
def Steady (requirements : Requirements Float) (catalog : Catalog) (path : Path) :
    List Invocation -> FileTree -> Prop
  | [], _ => True
  | invocation :: invocations, files =>
      invocation.Uses requirements catalog path files
        ∧ Steady requirements catalog path invocations (invocation.run files).files

variable {requirements : Requirements Float} {catalog : Catalog} {path : Path}

/-- Runs that follow one another make the path stand for the state in memory after them. -/
theorem holds_filesAfter (identified : Identified requirements) (storable : path.Storable)
    {invocations : List Invocation} {files : FileTree} {state : PlannerState}
    (wellFormed : files.WellFormed) (holds : StateFile.Holds requirements path files state)
    (steady : Steady requirements catalog path invocations files) :
    StateFile.Holds requirements path (filesAfter invocations files)
      (stateAfter ⟨some requirements, some catalog⟩ invocations files state) := by
  induction invocations generalizing files state with
  | nil => exact holds
  | cons invocation invocations inductionHypothesis =>
      rcases steady with ⟨uses, later⟩
      rcases settled_run identified storable wellFormed holds uses with ⟨formed, held⟩
      exact inductionHypothesis formed held later

/-- Whatever commands are run one after another on a path where there was no file at first, the
state loaded at the end is the one that their operations lead to in memory. -/
theorem load_filesAfter (identified : Identified requirements) (storable : path.Storable)
    {files : FileTree} (wellFormed : files.WellFormed) (absent : files.hasNode path = .ok false)
    {invocations : List Invocation}
    (steady : Steady requirements catalog path invocations files) (ids : IdSupply) :
    ∃ neglect notices,
      StateFile.load (some requirements) path (filesAfter invocations files) ids
        = {
            result := .ok
              (stateAfter ⟨some requirements, some catalog⟩ invocations files PlannerState.initial,
                neglect)
            ids
            notices
          } :=
  (holds_filesAfter identified storable wellFormed (.absent absent) steady).load ids

section Bare

/-! ### Runs without environment -/

/-- A run without input that works from the data that come with the program, and keeps its state
where an option says so, or else in a directory named by the environment if there is one. -/
def bare (home : Option String) (arguments : List String) (seed : Nat) : Invocation :=
  {
    arguments
    environment := {
      entries := (home.map fun text => ("GRADSIM_HOME", text)).toList
      homes := []
      user := ""
    }
    standardInput := []
    ids := IdSupply.random seed
  }

theorem loadData_bare (home : Option String) (arguments : List String) (seed : Nat)
    (files : FileTree) {options : Options} (packaged : options.requirements = none)
    (offered : options.catalog = none) :
    (loadData options ((bare home arguments seed).surroundings files)).outcome
      = .ok (Packaged.requirements, Packaged.catalog) := by
  rcases options with ⟨state, requirements, catalog, verbose⟩
  obtain rfl : requirements = none := packaged
  obtain rfl : catalog = none := offered
  cases home <;> rfl

theorem uses_bare {home : Option String} {arguments : List String} {request : Request}
    {path : Path} (read : Request.read arguments = .ok request)
    (packaged : request.options.requirements = none) (offered : request.options.catalog = none)
    (seed : Nat)
    (kept : pathOr request.options.state (bare home arguments seed).environment.statePath
      = .ok path) (files : FileTree) :
    (bare home arguments seed).Uses Packaged.requirements Packaged.catalog path files where
  named := Planner.named_random seed
  path other found understood located := by
    rcases Except.ok.inj (read.symm.trans understood) with rfl
    exact Except.ok.inj (located.symm.trans kept)
  data other loaded understood succeeded := by
    rcases Except.ok.inj (read.symm.trans understood) with rfl
    exact Except.ok.inj
      (succeeded.symm.trans (loadData_bare home arguments seed files packaged offered))

/-- A working directory without files. -/
def emptyTree : FileTree := { working := [], nodes := [] }

theorem wellFormed_emptyTree : emptyTree.WellFormed where
  working := rfl
  inside location name node stands := by
    rw [FileTree.node?_of_ne_nil _ (by simp)] at stands
    cases stands

theorem identified_packaged : Identified Packaged.requirements where
  cohorts := by decide
  tracks := by decide

/-- Two runs, of which the first adds a course and the second declares a minor. -/
def planRuns : List Invocation :=
  [
    bare none ["--state", "plan.json", "add", "EE201"] 0,
    bare none ["--state", "plan.json", "track-type", "minor"] 1
  ]

theorem load_filesAfter_planRuns :
    ∃ neglect notices,
      StateFile.load (some Packaged.requirements) (Path.read "plan.json")
          (filesAfter planRuns emptyTree) (IdSupply.random 2)
        = {
            result := .ok
              (stateAfter ⟨some Packaged.requirements, some Packaged.catalog⟩ planRuns emptyTree
                PlannerState.initial, neglect)
            ids := IdSupply.random 2
            notices
          } := by
  have storable : (Path.read "plan.json").Storable := {
    named := by decide +kernel
    parts := by decide +kernel
    room := by decide +kernel
  }
  have absent : emptyTree.hasNode (Path.read "plan.json") = .ok false := by
    with_unfolding_all rfl
  have steady : Steady Packaged.requirements Packaged.catalog (Path.read "plan.json") planRuns
      emptyTree := by
    have added : Request.read ["--state", "plan.json", "add", "EE201"]
        = .ok ⟨⟨some "plan.json", none, none, false⟩, .add ⟨"EE201", "", .null, none⟩⟩ := by
      with_unfolding_all rfl
    have declared : Request.read ["--state", "plan.json", "track-type", "minor"]
        = .ok ⟨⟨some "plan.json", none, none, false⟩, .trackType .minor⟩ := by
      with_unfolding_all rfl
    exact ⟨uses_bare added rfl rfl 0 rfl _, uses_bare declared rfl rfl 1 rfl _, trivial⟩
  exact load_filesAfter identified_packaged storable wellFormed_emptyTree absent steady _

/-! ### A name that is too long -/

/-- More characters than a name may have bytes. -/
def longText : List Char := List.replicate 256 'x'

/-- A name that no file can have. -/
def longName : String := String.ofList longText

/-- A directory of that name in another. -/
def longHome : String := String.ofList ('a' :: '/' :: longText)

/-- The file that keeps the state in it. -/
def longPath : Path := ⟨.working, ["a", longName, Environment.stateFileName]⟩

theorem longText_eq : longText = 'x' :: List.replicate 255 'x' :=
  List.replicate_succ

theorem isPart_longName : Path.isPart longName = true := by
  have some : longName ≠ "" := ofList_ne_empty (by rw [longText_eq]; exact List.cons_ne_nil _ _)
  have other : longName ≠ "." := by
    intro same
    have first := String.toList_inj.mpr same
    rw [longName, String.toList_ofList, longText_eq] at first
    exact absurd (List.head_eq_of_cons_eq first) (by decide)
  rw [Path.isPart, Bool.and_eq_true, bne_iff_ne, bne_iff_ne]
  exact ⟨some, other⟩

theorem read_longHome : Path.read longHome = ⟨.working, ["a", longName]⟩ := by
  have free : forall piece, piece ∈ [['a'], longText] -> '/' ∉ piece := by
    intro piece listed member
    rcases List.mem_cons.mp listed with rfl | rest
    · exact absurd member (by decide)
    · rw [List.mem_singleton.mp rest] at member
      exact absurd (List.eq_of_mem_replicate member) (by decide)
  have cut : Text.splitOn '/' longHome.toList = [['a'], longText] := by
    rw [longHome, String.toList_ofList]
    exact Text.splitOn_join (List.cons_ne_nil _ _) free
  have parts : [['a'], longText].map String.ofList = ["a", longName] := rfl
  have kept : ["a", longName].filter Path.isPart = ["a", longName] := by
    rw [List.filter_cons_of_pos (by decide), List.filter_cons_of_pos isPart_longName,
      List.filter_nil]
  unfold Path.read
  dsimp only
  rw [cut, parts, kept, longHome, String.toList_ofList]
  rfl

theorem statePath_longHome :
    (bare (some longHome) ["reset"] 0).environment.statePath = .ok longPath := by
  have trimmed : Text.trim longHome.toList = 'a' :: '/' :: longText := by
    rw [longHome, String.toList_ofList]
    apply Text.trim_of_noBlank
    intro c member
    rcases List.mem_cons.mp member with rfl | member
    · decide
    · rcases List.mem_cons.mp member with rfl | member
      · decide
      · rw [List.eq_of_mem_replicate member]
        decide
  have whole : String.ofList (Text.trim longHome.toList) = longHome := by
    rw [trimmed, longHome]
  have present : longHome ≠ "" := ofList_ne_empty (List.cons_ne_nil _ _)
  have named : (bare (some longHome) ["reset"] 0).environment.path? "GRADSIM_HOME"
      = .ok (some ⟨.working, ["a", longName]⟩) := by
    unfold Environment.path?
    change (if String.ofList (Text.trim longHome.toList) = "" then Except.ok none
      else Except.map some (Environment.expandHome _
        (Path.read (String.ofList (Text.trim longHome.toList))))) = _
    rw [whole, if_neg present, read_longHome]
    rfl
  unfold Environment.statePath Environment.stateDirectory
  rw [named]
  rfl

theorem text_longPath : longPath.text
    = String.ofList ('a' :: '/' :: longText ++ '/' :: Environment.stateFileName.toList) := by
  apply String.toList_inj.mp
  simp [Path.text, longPath, Path.startText, Text.joinStrings, Text.join, longName]

theorem text_parent_longPath : longPath.parent.text = longHome := by
  apply String.toList_inj.mp
  simp [Path.parent, longPath, Path.text, Path.startText, Text.joinStrings, Text.join, longName,
    longHome]

theorem problem?_longPath : longPath.problem? = none := by
  unfold Path.problem?
  rw [text_longPath, String.toList_ofList]
  decide +kernel

theorem problem?_parent_longPath : longPath.parent.problem? = none := by
  unfold Path.problem?
  rw [text_parent_longPath, longHome, String.toList_ofList]
  decide +kernel

end Bare

section TooLong

variable {path : Path} {name last : String}

/-- A path through a directory that is not there leads to no file. -/
theorem hasNode_through_missing (fine : path.problem? = none) (start : path.start = .working)
    (parts : path.parts = ["a", name, last]) : emptyTree.hasNode path = .ok false := by
  unfold FileTree.hasNode FileTree.locate FileTree.startOf
  rw [fine, start, parts]
  rfl

/-- A directory is made on the way, but none of a name that is too long. -/
theorem files_replace_tooLong (above : path.parent.problem? = none)
    (start : path.start = .working) (parts : path.parts = ["a", name, last])
    (long : longestName < name.utf8ByteSize) (content : List UInt8) :
    (emptyTree.replace path content).files = emptyTree.put ["a"] .directory := by
  have free : (emptyTree.put ["a"] .directory).node? (FileTree.step ["a"] name) = none := by
    have plain : name ≠ ".." := by
      rintro rfl
      exact absurd long (by decide)
    rw [FileTree.step, if_neg plain, FileTree.node?_put _ (List.cons_ne_nil _ _), if_neg]
    · rfl
    · intro same
      exact List.cons_ne_nil _ _ (List.cons.inj same).2
  have made : FileTree.makeDirectories [] ["a", name] emptyTree
      = (emptyTree.put ["a"] .directory, some .nameTooLong) := by
    have first : FileTree.makeDirectories [] ["a", name] emptyTree
        = FileTree.makeDirectories ["a"] [name] (emptyTree.put ["a"] .directory) := rfl
    rw [first, FileTree.makeDirectories, free]
    exact if_pos long
  have within : path.parent.parts = ["a", name] := by
    rw [Path.parent, parts]
    rfl
  have began : emptyTree.startOf path.parent = [] := by
    rw [Path.parent, FileTree.startOf, start]
    rfl
  unfold FileTree.replace
  dsimp only
  rw [above]
  dsimp only
  rw [within, began, made]

/-- Once that directory is there, it cannot be told any more whether there is a file. -/
theorem hasNode_tooLong (fine : path.problem? = none) (start : path.start = .working)
    (parts : path.parts = ["a", name, last]) (long : longestName < name.utf8ByteSize) :
    (emptyTree.put ["a"] .directory).hasNode path = .error ⟨.nameTooLong, path⟩ := by
  have lost : (emptyTree.put ["a"] .directory).walk [] ["a", name, last] = .error .nameTooLong := by
    have first : (emptyTree.put ["a"] .directory).walk [] ["a", name, last]
        = (emptyTree.put ["a"] .directory).walk ["a"] [name, last] := rfl
    have there : (emptyTree.put ["a"] .directory).node? ["a"] = some .directory := rfl
    rw [first, FileTree.walk, there]
    exact if_pos long
  have began : (emptyTree.put ["a"] .directory).startOf path = [] := by
    rw [FileTree.startOf, start]
    rfl
  unfold FileTree.hasNode FileTree.locate
  rw [fine]
  dsimp only
  rw [began, parts, lost]

/-- A run that resets the state saves the initial one. -/
theorem files_reset {requirements : Requirements Float} {catalog : Catalog} {path : Path}
    {files : FileTree} {state : PlannerState} {invocation : Invocation} {options : Options}
    (read : Request.read invocation.arguments = .ok ⟨options, .reset⟩)
    (located : pathOr options.state invocation.environment.statePath = .ok path)
    (loaded : (loadData options (invocation.surroundings files)).outcome
      = .ok (requirements, catalog))
    (holds : StateFile.Holds requirements path files state) :
    (invocation.run files).files = (StateFile.save PlannerState.initial path files).files := by
  rcases openContext_of_holds holds loaded invocation.ids with ⟨neglect, notices, opened⟩
  unfold Invocation.run CommandLine.run
  rw [read]
  dsimp only
  split
  case h_1 failure missing =>
    cases missing.symm.trans located
  case h_2 found same =>
    rcases Except.ok.inj (same.symm.trans located) with rfl
    unfold carryOut
    dsimp only
    rw [opened]
    exact files_finish _ _ _ _ _

/-- Nothing is loaded after a run that makes the directory. -/
theorem load_tooLong {home : Option String} (fine : path.problem? = none)
    (above : path.parent.problem? = none) (start : path.start = .working)
    (parts : path.parts = ["a", name, last]) (long : longestName < name.utf8ByteSize)
    {options : Options} (packaged : options.requirements = none) (offered : options.catalog = none)
    {arguments : List String} (read : Request.read arguments = .ok ⟨options, .reset⟩)
    (kept : pathOr options.state (bare home arguments 0).environment.statePath = .ok path)
    (requirements : Option (Requirements Float)) (ids : IdSupply) :
    (StateFile.load requirements path (filesAfter [bare home arguments 0] emptyTree) ids).result
      = .error (.file ⟨.nameTooLong, path⟩) := by
  have saved := files_reset read kept (loadData_bare home arguments 0 emptyTree packaged offered)
    (.absent (hasNode_through_missing fine start parts))
  have left : filesAfter [bare home arguments 0] emptyTree = emptyTree.put ["a"] .directory :=
    saved.trans (files_replace_tooLong above start parts long _)
  rw [left]
  unfold StateFile.load
  rw [hasNode_tooLong fine start parts long]

/-- Saving the state fails on the way to a name that is too long, and after that no state is loaded
any more, not even the initial one that is to stand for a state that is absent or unreadable. -/
theorem load_filesAfter_tooLong :
    ¬ forall (path : Path) (invocations : List Invocation), path.name ≠ "" ->
      emptyTree.hasNode path = .ok false ->
      Steady Packaged.requirements Packaged.catalog path invocations emptyTree ->
      ∃ neglect notices, StateFile.load (some Packaged.requirements) path
          (filesAfter invocations emptyTree) (IdSupply.random 1)
        = {
            result := .ok
              (stateAfter ⟨some Packaged.requirements, some Packaged.catalog⟩ invocations emptyTree
                PlannerState.initial, neglect)
            ids := IdSupply.random 1
            notices
          } := by
  intro claim
  have read : Request.read ["reset"] = .ok ⟨⟨none, none, none, false⟩, .reset⟩ := by
    with_unfolding_all rfl
  have long : longestName < longName.utf8ByteSize := by decide +kernel
  have lost := load_tooLong problem?_longPath problem?_parent_longPath rfl rfl long rfl rfl read
    statePath_longHome (some Packaged.requirements) (IdSupply.random 1)
  have absent := hasNode_through_missing problem?_longPath rfl rfl
  rcases claim longPath [bare (some longHome) ["reset"] 0]
    (by decide +kernel) absent ⟨uses_bare read rfl rfl 0 statePath_longHome emptyTree, trivial⟩ with
    ⟨neglect, notices, loaded⟩
  rw [loaded] at lost
  cases lost

end TooLong

end CommandLine
end DegreeAudit
