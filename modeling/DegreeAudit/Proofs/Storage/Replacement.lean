import DegreeAudit.Proofs.Storage.FileTree

namespace DegreeAudit

/-!
# Files that are written and replaced

A path is storable if it names a file and all its names fit.  Replacing the file at such a path
either succeeds, and then the new content stands there, or it leaves everything as it was but for
some directories, and then the path still leads to no file that it did not lead to before.
-/

/-- A path that names a file by names that fit.  The new file next to it needs a name that fits as
well where the path goes up again; where it does not go up, nothing comes to light on the way. -/
structure Path.Storable (path : Path) : Prop where
  named : path.name ≠ ""
  parts : forall part, part ∈ path.parts -> part.utf8ByteSize <= longestName
  room : FileTree.newNameProblem? path = none ∨ ".." ∉ path.parts

namespace Path

theorem parts_eq {path : Path} (named : path.name ≠ "") :
    path.parts = path.parent.parts ++ [path.name] := by
  rcases List.eq_nil_or_concat path.parts with none | ⟨above, name, listed⟩
  · exact absurd (by rw [Path.name, none]; rfl) named
  · unfold parent Path.name
    rw [listed, List.concat_eq_append]
    simp

theorem Storable.short {path : Path} (storable : path.Storable) :
    path.name.utf8ByteSize <= longestName := by
  apply storable.parts path.name
  rw [parts_eq storable.named]
  simp

end Path

namespace FileTree

section Absence

/-! ## Paths that lead to no file -/

/-- Where a path leads nowhere by itself, it does not matter what files there are. -/
theorem hasNode_of_problem {path : Path} {problem : FileProblem}
    (amiss : path.problem? = some problem) (files larger : FileTree) :
    larger.hasNode path = files.hasNode path := by
  unfold hasNode locate
  rw [amiss]
  cases problem <;> rfl

theorem locate_of_fine {files : FileTree} {path : Path} (fine : path.problem? = none) :
    files.locate path = files.walk (files.startOf path) path.parts := by
  unfold locate
  rw [fine]

theorem hasNode_of_blocked {files : FileTree} {path : Path} (fine : path.problem? = none)
    (blocked : files.walk (files.startOf path) path.parts = .error .notDirectory) :
    files.hasNode path = .ok false := by
  unfold hasNode
  rw [locate_of_fine fine, blocked]

theorem standsAt_of_walk {files : FileTree} {path : Path} {location : List String} {node : Node}
    (fine : path.problem? = none)
    (found : files.walk (files.startOf path) path.parts = .ok location)
    (here : files.node? location = some node) : files.StandsAt path node :=
  ⟨location, (locate_of_fine fine).trans found, here⟩

theorem hasNode_of_standsAt {files : FileTree} {path : Path} {node : Node}
    (stands : files.StandsAt path node) : files.hasNode path = .ok true := by
  rcases stands with ⟨location, found, here⟩
  unfold hasNode
  rw [found]
  dsimp only
  rw [here]
  rfl

end Absence

section Replacing

/-! ## Replacing a file -/

/-- The location of the new file, in the directory that is there for it. -/
def temporary (files : FileTree) (path : Path) (directory : List String) : List String :=
  directory ++ [files.newName path.name ".tmp"]

/-- The tree with the new file in it. -/
def withTemporary (files : FileTree) (path : Path) (directory : List String)
    (content : List UInt8) : FileTree :=
  files.put (files.temporary path directory) (.file (.bytes content))

/-- The last stage of replacing a file: the new file is moved, or taken away again. -/
def moveIn (path : Path) (content : List UInt8) (directory : List String) (files : FileTree) :
    Written :=
  let location := files.temporary path directory
  let moved := (files.withTemporary path directory content).move location path
  if moved.fault.isSome then ⟨moved.files.erase location, moved.fault⟩ else moved

/-- What replacing a file at a path leaves behind: the new content at the path, or everything as
it was except for new directories, with no file found at the path that was not found there. -/
inductive Replaced (files : FileTree) (path : Path) (content : List UInt8) : Written -> Prop where
  | stored {larger : FileTree} (formed : larger.WellFormed)
      (stands : larger.StandsAt path (.file (.bytes content))) :
      Replaced files path content ⟨larger, none⟩
  | failed {larger : FileTree} {fault : FileFault} (formed : larger.WellFormed)
      (adds : AddsDirectories files larger)
      (absent : files.hasNode path = .ok false ->
        larger.hasNode path = .ok false ∨ larger.StandsAt path .directory) :
      Replaced files path content ⟨larger, some fault⟩

theorem parts_walk {files : FileTree} {path : Path} (storable : path.Storable)
    {directory : List String}
    (found : files.walk (files.startOf path) path.parent.parts = .ok directory)
    (inside : files.node? directory = some .directory) :
    files.walk (files.startOf path) path.parts = .ok (step directory path.name) := by
  rw [Path.parts_eq storable.named]
  exact walk_append found inside storable.short

section Moving

variable {origin files : FileTree} {path : Path} {directory : List String}
  {content : List UInt8}

theorem temporary_ne_nil : files.temporary path directory ≠ [] := by
  simp [temporary]

theorem node?_temporary : files.node? (files.temporary path directory) = none :=
  node?_newName files directory path.name ".tmp"

theorem node?_withTemporary :
    (files.withTemporary path directory content).node? (files.temporary path directory)
      = some (.file (.bytes content)) := by
  rw [withTemporary, node?_put files temporary_ne_nil, if_pos rfl]

theorem keeps_withTemporary : Keeps files (files.withTemporary path directory content) :=
  keeps_put temporary_ne_nil node?_temporary _

/-- Taking the new file away again gives back what was there. -/
theorem node?_erase_withTemporary (location : List String) :
    ((files.withTemporary path directory content).erase (files.temporary path directory)).node?
        location
      = files.node? location :=
  node?_erase_put temporary_ne_nil node?_temporary _ location

theorem addsDirectories_erase_withTemporary :
    AddsDirectories files
      ((files.withTemporary path directory content).erase (files.temporary path directory)) :=
  addsDirectories_of_same rfl node?_erase_withTemporary

/-- A new file that cannot be moved is taken away again. -/
theorem replaced_of_stopped (grown : AddsDirectories origin files) (wellFormed : files.WellFormed)
    {problem : FileProblem}
    (stopped : moveProblem? (files.withTemporary path directory content) path = some problem)
    (absent : origin.hasNode path = .ok false ->
      ((files.withTemporary path directory content).erase (files.temporary path directory)).hasNode
          path = .ok false
        ∨ ((files.withTemporary path directory content).erase
          (files.temporary path directory)).StandsAt path .directory) :
    Replaced origin path content (moveIn path content directory files) := by
  have moved : (files.withTemporary path directory content).move
      (files.temporary path directory) path
      = ⟨files.withTemporary path directory content, some ⟨problem, path⟩⟩ := by
    unfold move
    rw [stopped]
  unfold moveIn
  dsimp only
  rw [moved]
  exact .failed (wellFormed.of_same rfl node?_erase_withTemporary)
    (grown.trans addsDirectories_erase_withTemporary) absent

/-- A new file that can be moved stands in the place of the old one. -/
theorem replaced_of_moved (wellFormed : files.WellFormed)
    (inside : files.node? directory = some .directory)
    (located : files.locate path = .ok (directory ++ [path.name]))
    (free : files.node? (directory ++ [path.name]) ≠ some .directory)
    (unstopped : moveProblem? (files.withTemporary path directory content) path = none) :
    Replaced origin path content (moveIn path content directory files) := by
  have adds := @addsDirectories_erase_withTemporary files path directory content
  have formed := wellFormed.of_same adds.working node?_erase_withTemporary
  have below : directory ++ [path.name] ≠ [] := by simp
  have there : (files.withTemporary path directory content).locate path
      = .ok (directory ++ [path.name]) :=
    locate_of_keeps keeps_withTemporary.directories located
  have moved : (files.withTemporary path directory content).move
      (files.temporary path directory) path
      = ⟨((files.withTemporary path directory content).erase (files.temporary path directory)).put
          (directory ++ [path.name]) (.file (.bytes content)), none⟩ := by
    unfold move
    rw [unstopped, there, node?_withTemporary]
  have kept (stands : ((files.withTemporary path directory content).erase
      (files.temporary path directory)).node? (directory ++ [path.name]) = some .directory) :
      Node.file (.bytes content) = .directory := by
    rw [node?_erase_withTemporary] at stands
    exact absurd stands free
  unfold moveIn
  dsimp only
  rw [moved]
  refine .stored (formed.put (by rw [node?_erase_withTemporary]; exact inside) kept)
    ⟨directory ++ [path.name], ?_, ?_⟩
  · exact locate_of_keeps (keepsDirectories_put below kept)
      (locate_of_keeps adds.keeps.directories located)
  · rw [node?_put _ below, if_pos rfl]

/-- With a path that leads nowhere by itself, nothing is moved. -/
theorem replaced_of_problem (grown : AddsDirectories origin files) (wellFormed : files.WellFormed)
    {problem : FileProblem} (amiss : path.problem? = some problem) :
    Replaced origin path content (moveIn path content directory files) := by
  obtain ⟨problem, stopped⟩ : ∃ problem,
      moveProblem? (files.withTemporary path directory content) path = some problem := by
    unfold moveProblem? locate
    rw [amiss]
    split
    · exact ⟨_, rfl⟩
    · exact ⟨_, rfl⟩
  refine replaced_of_stopped grown wellFormed stopped fun absent => Or.inl ?_
  rw [hasNode_of_problem amiss origin, absent]

/-- A path that ends by going up leads to a directory, over which nothing is moved. -/
theorem replaced_of_dots (grown : AddsDirectories origin files) (wellFormed : files.WellFormed)
    (fine : path.problem? = none) (dots : path.name = "..")
    (leads : files.walk (files.startOf path) path.parts = .ok (step directory path.name))
    (inside : files.node? directory = some .directory) :
    Replaced origin path content (moveIn path content directory files) := by
  have stopped : moveProblem? (files.withTemporary path directory content) path
      = some .inUse := by
    unfold moveProblem?
    rw [if_pos (by simp [dots])]
  refine replaced_of_stopped grown wellFormed stopped fun _ => Or.inr ?_
  refine StandsAt.of_keeps addsDirectories_erase_withTemporary.keeps
    (standsAt_of_walk fine leads ?_)
  rw [dots]
  exact step_isDirectory_of_dots wellFormed inside

/-- What stands in the way of the new file is a directory in the place of the old one. -/
theorem moveProblem?_withTemporary (named : path.name ≠ "") (plain : path.name ≠ "..")
    (located : files.locate path = .ok (directory ++ [path.name])) :
    moveProblem? (files.withTemporary path directory content) path
      = match files.node? (directory ++ [path.name]) with
        | some .directory => some .isDirectory
        | _ => none := by
  have there : (files.withTemporary path directory content).locate path
      = .ok (directory ++ [path.name]) :=
    locate_of_keeps keeps_withTemporary.directories located
  have unchanged :
      (files.withTemporary path directory content).node? (directory ++ [path.name])
        = files.node? (directory ++ [path.name]) := by
    rw [withTemporary, node?_put files temporary_ne_nil, if_neg]
    intro equal
    exact newName_ne files _ _ (List.cons.inj (List.append_cancel_left equal)).1.symm
  unfold moveProblem?
  rw [if_neg (by simp [named, plain]), there]
  rcases node : files.node? (directory ++ [path.name]) with _ | _ | _
  · simp only [unchanged, node]
  · simp only [unchanged, node]
  · simp only [unchanged, node]

theorem replaced_moveIn (grown : AddsDirectories origin files) (wellFormed : files.WellFormed)
    (storable : path.Storable) (content : List UInt8)
    (found : files.walk (files.startOf path) path.parent.parts = .ok directory)
    (inside : files.node? directory = some .directory) :
    Replaced origin path content (moveIn path content directory files) := by
  cases fine : path.problem? with
  | some problem => exact replaced_of_problem grown wellFormed fine
  | none =>
      have leads := parts_walk storable found inside
      by_cases dots : path.name = ".."
      · exact replaced_of_dots grown wellFormed fine dots leads inside
      · rw [show step directory path.name = directory ++ [path.name] from if_neg dots] at leads
        have located : files.locate path = .ok (directory ++ [path.name]) :=
          (locate_of_fine fine).trans leads
        have way := @moveProblem?_withTemporary _ _ _ content storable.named dots located
        by_cases occupied : files.node? (directory ++ [path.name]) = some .directory
        · have stopped : moveProblem? (files.withTemporary path directory content) path
              = some .isDirectory := by
            rw [way, occupied]
          exact replaced_of_stopped grown wellFormed stopped fun _ => Or.inr
            (StandsAt.of_keeps addsDirectories_erase_withTemporary.keeps
              (standsAt_of_walk fine leads occupied))
        · apply replaced_of_moved wellFormed inside located occupied
          rw [way]
          split
          · rename_i directory
            exact absurd directory occupied
          · rfl

end Moving

section NoRoom

/-! ### No room for the new file -/

variable {files larger : FileTree} {path : Path}

/-- Parts that do not go up lead straight down. -/
theorem walk_down {location target : List String} {parts : List String} (down : ".." ∉ parts)
    (found : files.walk location parts = .ok target) : target = location ++ parts := by
  induction parts generalizing location with
  | nil =>
      rcases Except.ok.inj found with rfl
      simp
  | cons part parts inductionHypothesis =>
      rcases walk_cons_ok found with ⟨_, _, further⟩
      have plain : part ≠ ".." := fun dots => down (by rw [dots]; exact List.mem_cons_self)
      rw [inductionHypothesis (fun later => down (List.mem_cons_of_mem part later)) further, step,
        if_neg plain, List.append_assoc]
      rfl

/-- What stands below a location is in directories all the way down to it. -/
theorem WellFormed.above (wellFormed : files.WellFormed) {location below : List String}
    {node : Node} (further : below ≠ []) (stands : files.node? (location ++ below) = some node) :
    files.node? location = some .directory := by
  induction below generalizing location with
  | nil => exact absurd rfl further
  | cons name below inductionHypothesis =>
      cases below with
      | nil => exact wellFormed.inside location name node stands
      | cons next others =>
          have inner : files.node? (location ++ [name]) = some .directory :=
            inductionHypothesis (List.cons_ne_nil next others) (by simpa using stands)
          exact wellFormed.inside location name .directory inner

/-- What stands straight below a location is found by going down to it. -/
theorem walk_of_stands (wellFormed : files.WellFormed) {location parts : List String}
    (short : forall part, part ∈ parts -> part.utf8ByteSize <= longestName) (down : ".." ∉ parts)
    {node : Node} (stands : files.node? (location ++ parts) = some node) :
    files.walk location parts = .ok (location ++ parts) := by
  induction parts generalizing location with
  | nil => simp [walk]
  | cons part parts inductionHypothesis =>
      have plain : part ≠ ".." := fun dots => down (by rw [dots]; exact List.mem_cons_self)
      have stepped : step location part ++ parts = location ++ part :: parts := by
        rw [step, if_neg plain, List.append_assoc]
        rfl
      rw [walk_cons (wellFormed.above (List.cons_ne_nil part parts) stands)
        (short part List.mem_cons_self), <- stepped]
      refine inductionHypothesis
        (fun later member => short later (List.mem_cons_of_mem part member))
        (fun later => down (List.mem_cons_of_mem part later)) ?_
      rw [stepped]
      exact stands

/-- Directories alone bring no file to light at the end of a path that does not go up. -/
theorem hasNode_of_addsDirectories (wellFormed : files.WellFormed)
    (adds : AddsDirectories files larger) (storable : path.Storable) (down : ".." ∉ path.parts)
    (fine : path.problem? = none) {target : List String}
    (leads : larger.walk (larger.startOf path) path.parts = .ok target)
    (absent : files.hasNode path = .ok false) :
    larger.hasNode path = .ok false ∨ larger.StandsAt path .directory := by
  cases here : larger.node? target with
  | none =>
      left
      unfold hasNode locate
      rw [fine]
      dsimp only
      rw [leads]
      dsimp only
      rw [here]
      rfl
  | some node =>
      cases node with
      | directory => exact Or.inr (standsAt_of_walk fine leads here)
      | file content =>
          -- a file was there before, and so it was found before
          have before : files.node? target = some (.file content) := by
            rcases adds.node target with same | ⟨_, directory⟩
            · rw [<- same, here]
            · rw [here] at directory
              cases directory
          have down' := walk_down down leads
          rw [startOf_of_keeps adds.keeps.directories] at down'
          rw [down'] at before
          have found := walk_of_stands wellFormed storable.parts down before
          rw [hasNode_of_standsAt (standsAt_of_walk fine found before)] at absent
          cases absent

end NoRoom

/-- Replacing a file at a storable path succeeds, or leaves no file behind. -/
theorem replaced {files : FileTree} (wellFormed : files.WellFormed) {path : Path}
    (storable : path.Storable) (content : List UInt8) :
    Replaced files path content (files.replace path content) := by
  have short (part : String) (member : part ∈ path.parent.parts) :
      part.utf8ByteSize <= longestName := by
    apply storable.parts part
    rw [Path.parts_eq storable.named]
    exact List.mem_append_left _ member
  have made := madeDirectories wellFormed (startOf_isDirectory wellFormed path.parent) short
  have start : files.startOf path.parent = files.startOf path := rfl
  unfold replace
  dsimp only
  cases fineAbove : path.parent.problem? with
  | some problem => exact .failed wellFormed (.refl files) fun absent => Or.inl absent
  | none =>
      dsimp only
      revert made
      generalize makeDirectories (files.startOf path.parent) path.parent.parts files = outcome
      rcases outcome with ⟨larger, fault⟩
      intro made
      have keeps := made.adds.keeps.directories
      cases fault with
      | some problem =>
          refine .failed made.formed made.adds fun absent => Or.inl ?_
          cases fine : path.problem? with
          | some other => rw [hasNode_of_problem fine files, absent]
          | none =>
              apply hasNode_of_blocked fine
              rw [startOf_of_keeps keeps, Path.parts_eq storable.named]
              exact made.blocked (Option.some_ne_none problem) _ (List.cons_ne_nil _ _)
      | none =>
          rcases made.through rfl with ⟨directory, found, inside⟩
          rw [start, <- startOf_of_keeps keeps] at found
          have located : larger.locate path.parent = .ok directory :=
            (locate_of_fine fineAbove).trans found
          dsimp only
          rw [located]
          cases named : newNameProblem? path with
          | some problem =>
              refine .failed made.formed made.adds fun absent => ?_
              cases fine : path.problem? with
              | some other => exact Or.inl (by rw [hasNode_of_problem fine files, absent])
              | none =>
                  have down : ".." ∉ path.parts :=
                    storable.room.resolve_left (by rw [named]; exact Option.some_ne_none problem)
                  exact hasNode_of_addsDirectories wellFormed made.adds storable down fine
                    (parts_walk storable found inside) absent
          | none => exact replaced_moveIn made.adds made.formed storable content found inside

end Replacing

section Stopping

/-! ## Writing that fails -/

variable {files : FileTree} {path : Path}

/-- A file that cannot be moved stays where it is, and so does everything else. -/
theorem files_move_of_fault {source : List String}
    (stopped : (files.move source path).fault ≠ none) : (files.move source path).files = files := by
  unfold move at stopped ⊢
  split at stopped
  · exact absurd rfl stopped
  · rfl
  · rfl
  · rfl

theorem files_write_of_fault {content : List UInt8}
    (stopped : (files.write path content).fault ≠ none) :
    (files.write path content).files = files := by
  unfold write at stopped ⊢
  split at stopped
  · rfl
  · split at stopped
    · rfl
    · exact absurd rfl stopped

theorem addsDirectories_moveIn {directory : List String} {content : List UInt8}
    (stopped : (moveIn path content directory files).fault ≠ none) :
    AddsDirectories files (moveIn path content directory files).files := by
  revert stopped
  unfold moveIn
  dsimp only
  split
  · rename_i fault
    intro _
    rw [files_move_of_fault (Option.isSome_iff_ne_none.mp fault)]
    exact addsDirectories_erase_withTemporary
  · rename_i fine
    intro stopped
    exact absurd (Option.isSome_iff_ne_none.mpr stopped) fine

/-- Replacing a file that fails, at whatever path and for whatever reason, leaves no file behind
that was not there, takes none away and changes none: all that is new are directories on the way. -/
theorem addsDirectories_replace {content : List UInt8}
    (stopped : (files.replace path content).fault ≠ none) :
    AddsDirectories files (files.replace path content).files := by
  have made := addsDirectories_makeDirectories (files.startOf path.parent) path.parent.parts files
  revert made stopped
  unfold replace
  dsimp only
  cases path.parent.problem? with
  | some problem => exact fun _ _ => .refl files
  | none =>
      dsimp only
      generalize makeDirectories (files.startOf path.parent) path.parent.parts files = outcome
      rcases outcome with ⟨larger, fault⟩
      cases fault with
      | some problem => exact fun _ made => made
      | none =>
          dsimp only
          cases newNameProblem? path with
          | some problem => exact fun _ made => made
          | none =>
              cases larger.locate path.parent with
              | error problem => exact fun _ made => made
              | ok directory =>
                  exact fun stopped made => made.trans (addsDirectories_moveIn stopped)

end Stopping

section Writing

/-! ## Writing a file -/

/-- What writing a file at a path leaves behind: the file in a directory that was there, over
anything but a directory, or everything as it was. -/
inductive Wrote (files : FileTree) (path : Path) (content : List UInt8) : Written -> Prop where
  | stored {above : List String} {name : String}
      (located : files.locate path = .ok (above ++ [name]))
      (inside : files.node? above = some .directory)
      (free : files.node? (above ++ [name]) ≠ some .directory) :
      Wrote files path content ⟨files.put (above ++ [name]) (.file (.bytes content)), none⟩
  | failed (fault : FileFault) : Wrote files path content ⟨files, some fault⟩

theorem wrote {files : FileTree} (wellFormed : files.WellFormed) (path : Path)
    (content : List UInt8) : Wrote files path content (files.write path content) := by
  unfold write
  split
  · exact .failed _
  · rename_i location located
    split
    · exact .failed _
    · rename_i free
      have target : files.node? location = some .directory
          ∨ ∃ above name, location = above ++ [name] ∧ files.node? above = some .directory := by
        unfold locate at located
        split at located
        · cases located
        · exact walk_target wellFormed (startOf_isDirectory wellFormed path) located
      rcases target with directory | ⟨above, name, rfl, inside⟩
      · exact absurd directory free
      · exact .stored located inside free

section Put

variable {files : FileTree} {above : List String} {name : String}

theorem file_of_directory (free : files.node? (above ++ [name]) ≠ some .directory)
    (content : Content) (stands : files.node? (above ++ [name]) = some .directory) :
    Node.file content = .directory :=
  absurd stands free

/-- Parts that lead nowhere still lead nowhere once a file is put somewhere, but perhaps for
another reason. -/
theorem walk_put_file (content : Content) {location : List String} {parts : List String}
    {problem : FileProblem} (lost : files.walk location parts = .error problem) :
    (files.put (above ++ [name]) (.file content)).walk location parts = .error problem
      ∨ (files.put (above ++ [name]) (.file content)).walk location parts
        = .error .notDirectory := by
  have below : above ++ [name] ≠ [] := by simp
  induction parts generalizing location with
  | nil => cases lost
  | cons part parts inductionHypothesis =>
      by_cases here : location = above ++ [name]
      · right
        rw [walk, node?_put files below, if_pos here]
      · rw [walk] at lost ⊢
        rw [node?_put files below, if_neg here]
        split at lost
        · split at lost
          · rename_i long
            rw [if_pos long]
            exact Or.inl lost
          · rename_i short
            rw [if_neg short]
            exact inductionHypothesis lost
        · exact Or.inl lost
        · exact Or.inl lost

/-- What a path leads to is still there once a file is put somewhere, unless it is that file. -/
theorem standsAt_put_file (free : files.node? (above ++ [name]) ≠ some .directory)
    (content : Content) {path : Path} {node : Node} (stands : files.StandsAt path node) :
    (files.put (above ++ [name]) (.file content)).StandsAt path node
      ∨ (files.put (above ++ [name]) (.file content)).StandsAt path (.file content) := by
  have below : above ++ [name] ≠ [] := by simp
  rcases stands with ⟨location, located, here⟩
  have still := locate_of_keeps
    (keepsDirectories_put below (file_of_directory free content)) located
  by_cases same : location = above ++ [name]
  · exact Or.inr ⟨location, still, by rw [node?_put files below, if_pos same]⟩
  · exact Or.inl ⟨location, still, by rw [node?_put files below, if_neg same, here]⟩

/-- Where nothing was found there is nothing once a file is put somewhere, unless it is there. -/
theorem hasNode_put_file (free : files.node? (above ++ [name]) ≠ some .directory)
    (content : Content) {path : Path} (absent : files.hasNode path = .ok false) :
    (files.put (above ++ [name]) (.file content)).hasNode path = .ok false
      ∨ (files.put (above ++ [name]) (.file content)).StandsAt path (.file content) := by
  have below : above ++ [name] ≠ [] := by simp
  have keeps := keepsDirectories_put below (file_of_directory free content)
  unfold hasNode at absent
  split at absent
  · rename_i location located
    have still := locate_of_keeps keeps located
    by_cases same : location = above ++ [name]
    · exact Or.inr ⟨location, still, by rw [node?_put files below, if_pos same]⟩
    · left
      unfold hasNode
      rw [still]
      dsimp only
      rw [node?_put files below, if_neg same]
      exact absent
  · cases absent
  · rename_i problem other found
    left
    have lost : (files.put (above ++ [name]) (.file content)).locate path = .error problem
        ∨ (files.put (above ++ [name]) (.file content)).locate path = .error .notDirectory := by
      unfold locate at found ⊢
      split at found
      · exact Or.inl found
      · exact walk_put_file content found
    unfold hasNode
    rcases lost with same | blocked
    · rw [same]
      split
      · rename_i impossible
        cases impossible
      · rename_i long
        exact absurd (Except.error.inj long) other
      · rfl
    · rw [blocked]

end Put

end Writing

end FileTree
end DegreeAudit
