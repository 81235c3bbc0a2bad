import DegreeAudit.Storage.FileTree

namespace DegreeAudit
namespace FileTree

/-!
# What writing does to a tree

Trees are compared by what stands at their locations, not by how they list it.  A tree is well
formed if everything in it stands in a directory.  Writing a file and replacing one keep this, keep
every directory, and keep every file but the one that is written.
-/

/-- Everything stands in a directory, and the working directory is there. -/
structure WellFormed (files : FileTree) : Prop where
  working : files.node? files.working = some .directory
  inside : forall (location : List String) (name : String) (node : Node),
    files.node? (location ++ [name]) = some node -> files.node? location = some .directory

/-- The directories of a tree are directories in another. -/
structure KeepsDirectories (files larger : FileTree) : Prop where
  working : larger.working = files.working
  directory : forall location : List String,
    files.node? location = some .directory -> larger.node? location = some .directory

/-- Whatever stands somewhere in a tree stands there in another. -/
structure Keeps (files larger : FileTree) : Prop where
  working : larger.working = files.working
  node : forall (location : List String) (node : Node),
    files.node? location = some node -> larger.node? location = some node

/-- A tree has nothing that another has not, except for directories. -/
structure AddsDirectories (files larger : FileTree) : Prop where
  working : larger.working = files.working
  node : forall location : List String, larger.node? location = files.node? location
    ∨ files.node? location = none ∧ larger.node? location = some .directory

/-- What a path leads to. -/
def StandsAt (files : FileTree) (path : Path) (node : Node) : Prop :=
  ∃ location, files.locate path = .ok location ∧ files.node? location = some node

section Nodes

/-! ## Single changes -/

theorem node?_of_ne_nil (files : FileTree) {location : List String} (below : location ≠ []) :
    files.node? location
      = (files.nodes.find? fun entry => entry.1 == location).map fun entry => entry.2 := by
  cases location with
  | nil => exact absurd rfl below
  | cons name names => rfl

theorem find?_filter_ne {entries : List (List String × Node)} {location other : List String}
    (different : other ≠ location) :
    (entries.filter fun entry => entry.1 != location).find? (fun entry => entry.1 == other)
      = entries.find? fun entry => entry.1 == other := by
  induction entries with
  | nil => rfl
  | cons entry entries inductionHypothesis =>
      by_cases kept : entry.1 = location
      · have passed : (entry.1 == other) = false := by
          rw [kept]
          exact beq_false_of_ne different.symm
        rw [List.filter_cons_of_neg (by simp [kept]), inductionHypothesis,
          List.find?_cons_of_neg (by simp [passed])]
      · rw [List.filter_cons_of_pos (by simpa using kept), List.find?_cons, List.find?_cons,
          inductionHypothesis]

theorem node?_put (files : FileTree) {location : List String} (below : location ≠ []) (node : Node)
    (other : List String) :
    (files.put location node).node? other
      = if other = location then some node else files.node? other := by
  split
  · rename_i same
    subst same
    rw [node?_of_ne_nil _ below, put, List.find?_cons_of_pos (by simp)]
    rfl
  · rename_i different
    cases other with
    | nil => rfl
    | cons name names =>
        rw [node?_of_ne_nil _ (List.cons_ne_nil name names), put,
          List.find?_cons_of_neg (by simpa using Ne.symm different), find?_filter_ne different]
        rfl

theorem node?_erase (files : FileTree) {location : List String} (below : location ≠ [])
    (other : List String) :
    (files.erase location).node? other
      = if other = location then none else files.node? other := by
  split
  · rename_i same
    subst same
    have gone : (files.erase other).nodes.find? (fun entry => entry.1 == other) = none := by
      rw [List.find?_eq_none]
      intro entry member
      have kept := (List.mem_filter.mp member).2
      simpa using kept
    rw [node?_of_ne_nil _ below, gone]
    rfl
  · rename_i different
    cases other with
    | nil => rfl
    | cons name names =>
        rw [node?_of_ne_nil _ (List.cons_ne_nil name names), erase, find?_filter_ne different]
        rfl

theorem WellFormed.parent {files : FileTree} (wellFormed : files.WellFormed)
    {location : List String} {node : Node} (stands : files.node? location = some node) :
    files.node? location.dropLast = some .directory := by
  rcases List.eq_nil_or_concat location with rfl | ⟨above, name, rfl⟩
  · rfl
  · rw [List.concat_eq_append] at stands ⊢
    rw [List.dropLast_concat]
    exact wellFormed.inside above name node stands

end Nodes

section Comparison

/-! ## Trees compared -/

theorem AddsDirectories.refl (files : FileTree) : AddsDirectories files files where
  working := rfl
  node _ := Or.inl rfl

theorem AddsDirectories.trans {files middle larger : FileTree}
    (first : AddsDirectories files middle) (second : AddsDirectories middle larger) :
    AddsDirectories files larger where
  working := second.working.trans first.working
  node location := by
    rcases second.node location with same | ⟨none, added⟩
    · rcases first.node location with old | ⟨none, added⟩
      · exact Or.inl (same.trans old)
      · exact Or.inr ⟨none, same.trans added⟩
    · rcases first.node location with old | ⟨_, directory⟩
      · exact Or.inr ⟨old.symm.trans none, added⟩
      · rw [directory] at none
        cases none

theorem AddsDirectories.keeps {files larger : FileTree} (adds : AddsDirectories files larger) :
    Keeps files larger where
  working := adds.working
  node location node stands := by
    rcases adds.node location with same | ⟨none, _⟩
    · exact same.trans stands
    · rw [none] at stands
      cases stands

/-- A tree with new directories has the same files. -/
theorem AddsDirectories.file_iff {files larger : FileTree} (adds : AddsDirectories files larger)
    (location : List String) (content : Content) :
    larger.node? location = some (.file content) ↔ files.node? location = some (.file content) := by
  rcases adds.node location with same | ⟨none, added⟩
  · rw [same]
  · rw [none, added]
    exact iff_of_false nofun nofun

theorem Keeps.directories {files larger : FileTree} (keeps : Keeps files larger) :
    KeepsDirectories files larger where
  working := keeps.working
  directory location := keeps.node location .directory

/-- A directory made where nothing was. -/
theorem addsDirectories_put {files : FileTree} {location : List String} (below : location ≠ [])
    (free : files.node? location = none) :
    AddsDirectories files (files.put location .directory) where
  working := rfl
  node other := by
    rw [node?_put files below]
    split
    · rename_i same
      exact Or.inr ⟨same ▸ free, rfl⟩
    · exact Or.inl rfl

theorem keeps_put {files : FileTree} {location : List String} (below : location ≠ [])
    (free : files.node? location = none) (node : Node) : Keeps files (files.put location node) where
  working := rfl
  node other inner stands := by
    rw [node?_put files below, if_neg]
    · exact stands
    · rintro rfl
      rw [free] at stands
      cases stands

theorem keepsDirectories_put {files : FileTree} {location : List String} (below : location ≠ [])
    {node : Node} (kept : files.node? location = some .directory -> node = .directory) :
    KeepsDirectories files (files.put location node) where
  working := rfl
  directory other stands := by
    rw [node?_put files below]
    split
    · rename_i same
      rw [kept (same ▸ stands)]
    · exact stands

/-- Anything but a directory may be replaced, and something new may be put into any directory. -/
theorem WellFormed.put {files : FileTree} (wellFormed : files.WellFormed) {above : List String}
    {name : String} (inside : files.node? above = some .directory) {node : Node}
    (kept : files.node? (above ++ [name]) = some .directory -> node = .directory) :
    (files.put (above ++ [name]) node).WellFormed := by
  have below : above ++ [name] ≠ [] := by simp
  have keeps := keepsDirectories_put below kept
  constructor
  · exact keeps.directory _ wellFormed.working
  · intro location other inner stands
    rw [node?_put files below] at stands
    split at stands
    · rename_i same
      rcases List.append_inj' same rfl with ⟨rfl, _⟩
      exact keeps.directory _ inside
    · exact keeps.directory _ (wellFormed.inside location other inner stands)

/-- Something put where nothing was, and taken away again. -/
theorem node?_erase_put {files : FileTree} {location : List String} (below : location ≠ [])
    (free : files.node? location = none) (node : Node) (other : List String) :
    ((files.put location node).erase location).node? other = files.node? other := by
  rw [node?_erase _ below, node?_put files below]
  split
  · rename_i same
    rw [same, free]
  · rfl

theorem addsDirectories_of_same {files other : FileTree} (working : other.working = files.working)
    (same : forall location, other.node? location = files.node? location) :
    AddsDirectories files other where
  working := working
  node location := Or.inl (same location)

theorem WellFormed.of_same {files other : FileTree} (wellFormed : files.WellFormed)
    (working : other.working = files.working)
    (same : forall location, other.node? location = files.node? location) : other.WellFormed where
  working := by rw [working, same, wellFormed.working]
  inside location name node stands := by
    rw [same] at stands ⊢
    exact wellFormed.inside location name node stands

end Comparison

section Walks

/-! ## Where paths lead -/

theorem walk_cons {files : FileTree} {location : List String}
    (directory : files.node? location = some .directory) {part : String}
    (short : part.utf8ByteSize <= longestName) (parts : List String) :
    files.walk location (part :: parts) = files.walk (step location part) parts := by
  rw [walk, directory]
  exact if_neg (Nat.not_lt.mpr short)

/-- The first step of a path that leads somewhere goes out from a directory. -/
theorem walk_cons_ok {files : FileTree} {location target : List String} {part : String}
    {parts : List String} (found : files.walk location (part :: parts) = .ok target) :
    files.node? location = some .directory ∧ part.utf8ByteSize <= longestName
      ∧ files.walk (step location part) parts = .ok target := by
  rw [walk] at found
  split at found
  · rename_i directory
    split at found
    · cases found
    · rename_i short
      exact ⟨directory, Nat.not_lt.mp short, found⟩
  · cases found
  · cases found

/-- A path leads to the same location as long as no directory is taken away. -/
theorem walk_of_keeps {files larger : FileTree} (keeps : KeepsDirectories files larger)
    {location target : List String} {parts : List String}
    (found : files.walk location parts = .ok target) : larger.walk location parts = .ok target := by
  induction parts generalizing location with
  | nil => exact found
  | cons part parts inductionHypothesis =>
      rcases walk_cons_ok found with ⟨directory, short, further⟩
      rw [walk_cons (keeps.directory location directory) short]
      exact inductionHypothesis further

theorem startOf_of_keeps {files larger : FileTree} (keeps : KeepsDirectories files larger)
    (path : Path) : larger.startOf path = files.startOf path := by
  unfold startOf
  cases path.start with
  | working => exact keeps.working
  | root => rfl
  | doubleRoot => rfl

theorem locate_of_keeps {files larger : FileTree} (keeps : KeepsDirectories files larger)
    {path : Path} {target : List String} (found : files.locate path = .ok target) :
    larger.locate path = .ok target := by
  unfold locate at found ⊢
  split at found
  · cases found
  · rw [startOf_of_keeps keeps]
    exact walk_of_keeps keeps found

theorem StandsAt.of_keeps {files larger : FileTree} (keeps : Keeps files larger) {path : Path}
    {node : Node} (stands : files.StandsAt path node) : larger.StandsAt path node := by
  rcases stands with ⟨location, found, here⟩
  exact ⟨location, locate_of_keeps keeps.directories found, keeps.node location node here⟩

/-- A path that goes on from a directory leads into it or, by two dots, out of it. -/
theorem walk_append {files : FileTree} {location target : List String} {parts : List String}
    (found : files.walk location parts = .ok target)
    (directory : files.node? target = some .directory) {name : String}
    (short : name.utf8ByteSize <= longestName) :
    files.walk location (parts ++ [name]) = .ok (step target name) := by
  induction parts generalizing location with
  | nil =>
      rcases Except.ok.inj found with rfl
      rw [List.nil_append, walk_cons directory short]
      rfl
  | cons part parts inductionHypothesis =>
      rcases walk_cons_ok found with ⟨here, shortHere, further⟩
      rw [List.cons_append, walk_cons here shortHere]
      exact inductionHypothesis further

theorem startOf_isDirectory {files : FileTree} (wellFormed : files.WellFormed) (path : Path) :
    files.node? (files.startOf path) = some .directory := by
  unfold startOf
  cases path.start with
  | working => exact wellFormed.working
  | root => rfl
  | doubleRoot => rfl

theorem step_isDirectory_of_dots {files : FileTree} (wellFormed : files.WellFormed)
    {location : List String} (directory : files.node? location = some .directory) :
    files.node? (step location "..") = some .directory := by
  rw [step, if_pos rfl]
  exact wellFormed.parent directory

/-- A path leads to a directory, or to a name in one. -/
theorem walk_target {files : FileTree} (wellFormed : files.WellFormed)
    {location target : List String} {parts : List String}
    (start : files.node? location = some .directory)
    (found : files.walk location parts = .ok target) :
    files.node? target = some .directory
      ∨ ∃ above name, target = above ++ [name] ∧ files.node? above = some .directory := by
  induction parts generalizing location with
  | nil =>
      rcases Except.ok.inj found with rfl
      exact Or.inl start
  | cons part parts inductionHypothesis =>
      rcases walk_cons_ok found with ⟨directory, _, further⟩
      by_cases stands : files.node? (step location part) = some .directory
      · exact inductionHypothesis stands further
      · cases parts with
        | cons next parts => exact absurd (walk_cons_ok further).1 stands
        | nil =>
            rcases Except.ok.inj further with rfl
            refine Or.inr ⟨location, part, ?_, directory⟩
            unfold step at stands ⊢
            split
            · rename_i dots
              rw [if_pos dots] at stands
              exact absurd (wellFormed.parent directory) stands
            · rfl

end Walks

section Directories

/-! ## Missing directories -/

/-- Making directories adds nothing else, however far it gets. -/
theorem addsDirectories_makeDirectories (location parts : List String) (files : FileTree) :
    AddsDirectories files (makeDirectories location parts files).1 := by
  induction parts generalizing location files with
  | nil => exact .refl files
  | cons part parts inductionHypothesis =>
      unfold makeDirectories
      dsimp only
      split
      · exact inductionHypothesis _ files
      · exact .refl files
      · rename_i free
        split
        · exact .refl files
        · have below : step location part ≠ [] := by
            intro root
            rw [root] at free
            cases free
          exact (addsDirectories_put below free).trans (inductionHypothesis _ _)

/-- What making the directories that parts go through leaves behind.  Only directories are new; if
all are there in the end the parts lead to one, and if a file is in the way they lead nowhere. -/
structure MadeDirectories (files : FileTree) (location : List String) (parts : List String)
    (made : FileTree × Option FileProblem) : Prop where
  formed : made.1.WellFormed
  adds : AddsDirectories files made.1
  through : made.2 = none ->
    ∃ target, made.1.walk location parts = .ok target ∧ made.1.node? target = some .directory
  blocked : made.2 ≠ none -> forall further, further ≠ [] ->
    made.1.walk location (parts ++ further) = .error .notDirectory

/-- Directories made from the next location on are directories made from this one on. -/
theorem MadeDirectories.cons {files : FileTree} {location : List String} {part : String}
    {parts : List String} {made : FileTree × Option FileProblem}
    (later : MadeDirectories files (step location part) parts made)
    (start : files.node? location = some .directory)
    (short : part.utf8ByteSize <= longestName) :
    MadeDirectories files location (part :: parts) made where
  formed := later.formed
  adds := later.adds
  through all := by
    rw [walk_cons (later.adds.keeps.node location .directory start) short]
    exact later.through all
  blocked stopped further more := by
    rw [List.cons_append, walk_cons (later.adds.keeps.node location .directory start) short]
    exact later.blocked stopped further more

theorem madeDirectories {files : FileTree} (wellFormed : files.WellFormed)
    {location : List String} (start : files.node? location = some .directory)
    {parts : List String} (short : forall part, part ∈ parts -> part.utf8ByteSize <= longestName) :
    MadeDirectories files location parts (makeDirectories location parts files) := by
  induction parts generalizing location files with
  | nil =>
      exact {
        formed := wellFormed
        adds := .refl files
        through := fun _ => ⟨location, rfl, start⟩
        blocked := fun impossible => absurd rfl impossible
      }
  | cons part parts inductionHypothesis =>
      have shortHere := short part List.mem_cons_self
      have shortLater (other : String) (member : other ∈ parts) :
          other.utf8ByteSize <= longestName :=
        short other (List.mem_cons_of_mem part member)
      unfold makeDirectories
      dsimp only
      split
      · rename_i directory
        exact (inductionHypothesis wellFormed directory shortLater).cons start shortHere
      · rename_i content file
        refine MadeDirectories.cons ?_ start shortHere
        refine ⟨wellFormed, .refl files, fun all => absurd all (Option.some_ne_none _), ?_⟩
        intro _ further more
        rcases List.exists_cons_of_ne_nil
          (List.append_ne_nil_of_right_ne_nil parts more) with ⟨next, others, listed⟩
        rw [listed, walk, file]
      · rename_i free
        have named : step location part = location ++ [part] := by
          unfold step
          split
          · rename_i dots
            rw [dots, step_isDirectory_of_dots wellFormed start] at free
            cases free
          · rfl
        have below : step location part ≠ [] := by
          rw [named]
          simp
        have adds := addsDirectories_put below free
        have formed : (files.put (step location part) .directory).WellFormed := by
          rw [named]
          exact wellFormed.put start fun _ => rfl
        have directory : (files.put (step location part) .directory).node? (step location part)
            = some .directory := by
          rw [node?_put files below, if_pos rfl]
        rw [if_neg (Nat.not_lt.mpr shortHere)]
        have later := inductionHypothesis formed directory shortLater
        exact ({ later with adds := adds.trans later.adds } : MadeDirectories files _ _ _).cons
          start shortHere

end Directories

section Names

/-! ## New names -/

theorem foldl_max_ge (numbers : List Nat) (start : Nat) :
    start <= numbers.foldl max start ∧ forall number, number ∈ numbers ->
      number <= numbers.foldl max start := by
  induction numbers generalizing start with
  | nil => exact ⟨Nat.le_refl _, fun _ impossible => by cases impossible⟩
  | cons first numbers inductionHypothesis =>
      rcases inductionHypothesis (max start first) with ⟨least, others⟩
      refine ⟨Nat.le_trans (Nat.le_max_left _ _) least, ?_⟩
      intro number member
      rcases List.mem_cons.mp member with rfl | member
      · exact Nat.le_trans (Nat.le_max_right _ _) least
      · exact others number member

/-- A new name is longer than its start and than every name in the tree. -/
theorem length_newName (start ending : String) (files : FileTree) :
    start.length < (files.newName start ending).length
      ∧ forall entry, entry ∈ files.nodes -> forall name, name ∈ entry.1 ->
        name.length < (files.newName start ending).length := by
  unfold newName
  dsimp only
  simp only [String.length_append, String.length_ofList, List.length_replicate]
  refine ⟨by omega, ?_⟩
  intro entry member name part
  have listed : name.length ∈ (files.nodes.flatMap fun entry => entry.1).map String.length :=
    List.mem_map_of_mem (List.mem_flatMap.mpr ⟨entry, member, part⟩)
  have bounded := (foldl_max_ge _ 0).2 _ listed
  omega

/-- Nothing has a new name. -/
theorem node?_newName (files : FileTree) (above : List String) (start ending : String) :
    files.node? (above ++ [files.newName start ending]) = none := by
  rw [node?_of_ne_nil _ (by simp), Option.map_eq_none_iff, List.find?_eq_none]
  intro entry member same
  have named : files.newName start ending ∈ entry.1 := by
    rw [eq_of_beq same]
    simp
  exact Nat.lt_irrefl _ ((length_newName start ending files).2 entry member _ named)

theorem newName_ne (files : FileTree) (start ending : String) :
    files.newName start ending ≠ start := by
  intro same
  have longer := (length_newName start ending files).1
  rw [same] at longer
  exact Nat.lt_irrefl _ longer

end Names

end FileTree
end DegreeAudit
