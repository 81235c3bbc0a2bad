import DegreeAudit.Proofs.Storage.StateFile

namespace DegreeAudit

/-!
# What is saved is loaded

Whatever files there are, once saving a sound state has succeeded that very state is loaded, and
nothing is remarked.  Nothing has to be known of the files for this: a file that was moved in stands
where it was to go, since no directory on the way to it is lost.

That saving does succeed takes more.  It does where the names fit, no file is in the place of a
directory and no directory in the place of the file; directories that are missing are made.
-/

namespace FileTree

section Moved

/-! ## Where a file is after it was moved -/

variable {files : FileTree} {path : Path} {source : List String} {content : Content}

theorem locate_of_unstopped (unstopped : moveProblem? files path = none) :
    ∃ target, files.locate path = .ok target ∧ files.node? target ≠ some .directory := by
  unfold moveProblem? at unstopped
  split at unstopped
  · cases unstopped
  · split at unstopped
    · cases unstopped
    · rename_i target located
      refine ⟨target, located, fun directory => ?_⟩
      rw [directory] at unstopped
      cases unstopped

theorem ne_nil_of_notDirectory {location : List String}
    (other : files.node? location ≠ some .directory) : location ≠ [] := by
  rintro rfl
  exact other rfl

theorem fault_move (there : files.node? source = some (.file content))
    (unstopped : moveProblem? files path = none) : (files.move source path).fault = none := by
  rcases locate_of_unstopped unstopped with ⟨target, located, _⟩
  unfold move
  rw [unstopped, located, there]

/-- Moving a file to where no directory is keeps all directories. -/
theorem keepsDirectories_moved (there : files.node? source = some (.file content))
    {target : List String} (free : files.node? target ≠ some .directory) :
    KeepsDirectories files ((files.erase source).put target (.file content)) where
  working := rfl
  directory location directory := by
    have below : source ≠ [] := ne_nil_of_notDirectory (by rw [there]; nofun)
    have notTarget : location ≠ target := by
      rintro rfl
      exact free directory
    have notSource : location ≠ source := by
      rintro rfl
      rw [there] at directory
      cases directory
    rw [node?_put _ (ne_nil_of_notDirectory free), if_neg notTarget, node?_erase _ below,
      if_neg notSource]
    exact directory

/-- A file that was moved stands where it was to go. -/
theorem standsAt_of_move (there : files.node? source = some (.file content))
    (done : (files.move source path).fault = none) :
    (files.move source path).files.StandsAt path (.file content) := by
  cases way : moveProblem? files path with
  | some problem =>
      unfold move at done
      rw [way] at done
      cases done
  | none =>
      rcases locate_of_unstopped way with ⟨target, located, free⟩
      have moved : (files.move source path).files
          = (files.erase source).put target (.file content) := by
        unfold move
        rw [way, located, there]
      rw [moved]
      refine ⟨target, locate_of_keeps (keepsDirectories_moved there free) located, ?_⟩
      rw [node?_put _ (ne_nil_of_notDirectory free), if_pos rfl]

end Moved

section Replaced

/-! ## Where a file is after it was replaced -/

variable {files : FileTree} {path : Path} {content : List UInt8} {directory : List String}

theorem standsAt_of_moveIn (done : (moveIn path content directory files).fault = none) :
    (moveIn path content directory files).files.StandsAt path (.file (.bytes content)) := by
  unfold moveIn at done ⊢
  dsimp only at done ⊢
  split at done
  · rename_i stopped
    rw [done] at stopped
    cases stopped
  · rename_i moved
    rw [if_neg moved]
    exact standsAt_of_move node?_withTemporary done

/-- A new file is moved in unless a directory is in the place of the old one. -/
theorem fault_moveIn (named : path.name ≠ "") (plain : path.name ≠ "..")
    (located : files.locate path = .ok (directory ++ [path.name]))
    (free : files.node? (directory ++ [path.name]) ≠ some .directory) :
    (moveIn path content directory files).fault = none := by
  have unstopped : moveProblem? (files.withTemporary path directory content) path = none := by
    rw [moveProblem?_withTemporary named plain located]
    split
    · rename_i occupied
      exact absurd occupied free
    · rfl
  have moved := fault_move node?_withTemporary unstopped
  unfold moveIn
  dsimp only
  rw [moved]
  exact moved

/-- A file that was replaced has its new content. -/
theorem standsAt_of_replace (done : (files.replace path content).fault = none) :
    (files.replace path content).files.StandsAt path (.file (.bytes content)) := by
  unfold replace at done ⊢
  dsimp only at done ⊢
  split
  · rename_i larger problem made
    rw [made] at done
    cases done
  · rename_i larger made
    rw [made] at done
    dsimp only at done
    split at done
    · cases done
    · cases done
    · exact standsAt_of_moveIn done

end Replaced

section Success

/-! ## When a file can be replaced -/

variable {files : FileTree} {path : Path}

/-- Nothing is in the way of a file at a path that leads straight down: the names fit, no file is
where a directory has to be, and no directory where the file is to be. -/
structure Open (files : FileTree) (path : Path) : Prop where
  storable : path.Storable
  down : ".." ∉ path.parts
  fine : path.problem? = none
  fineAbove : path.parent.problem? = none
  room : newNameProblem? path = none
  clear : forall before after, path.parent.parts = before ++ after -> forall content,
    files.node? (files.startOf path ++ before) ≠ some (.file content)
  free : files.node? (files.startOf path ++ path.parts) ≠ some .directory

/-- Directories that are missing are made where no file is in the way, and nothing is made beyond
them. -/
theorem makeDirectories_of_clear {location parts : List String} (down : ".." ∉ parts)
    (short : forall part, part ∈ parts -> part.utf8ByteSize <= longestName)
    (clear : forall before after, parts = before ++ after -> forall content,
      files.node? (location ++ before) ≠ some (.file content)) :
    (makeDirectories location parts files).2 = none
      ∧ forall name, (makeDirectories location parts files).1.node? (location ++ parts ++ [name])
        = files.node? (location ++ parts ++ [name]) := by
  induction parts generalizing files location with
  | nil => exact ⟨rfl, fun _ => rfl⟩
  | cons part parts inductionHypothesis =>
      rw [List.mem_cons, not_or] at down
      have shortLater (other : String) (member : other ∈ parts) :
          other.utf8ByteSize <= longestName :=
        short other (List.mem_cons_of_mem part member)
      have next : step location part = location ++ [part] := if_neg (Ne.symm down.1)
      have further (names : List String) :
          location ++ [part] ++ names = location ++ part :: names :=
        List.append_assoc location [part] names
      have clearLater (before after : List String) (listed : parts = before ++ after)
          (content : Content) :
          files.node? (location ++ [part] ++ before) ≠ some (.file content) := by
        rw [further]
        exact clear (part :: before) after (by rw [listed, List.cons_append]) content
      unfold makeDirectories
      dsimp only
      rw [next, <- further parts]
      split
      · exact inductionHypothesis down.2 shortLater clearLater
      · rename_i content file
        exact absurd file (clear [part] parts rfl content)
      · have below : location ++ [part] ≠ [] := by simp
        rw [if_neg (Nat.not_lt.mpr (short part List.mem_cons_self))]
        have clearStill (before after : List String) (listed : parts = before ++ after)
            (content : Content) :
            (files.put (location ++ [part]) .directory).node? (location ++ [part] ++ before)
              ≠ some (.file content) := by
          rw [node?_put _ below]
          split
          · nofun
          · exact clearLater before after listed content
        -- the new directory is above whatever the rest of the way adds or asks for
        rcases inductionHypothesis down.2 shortLater clearStill with ⟨made, kept⟩
        refine ⟨made, fun name => ?_⟩
        rw [kept name, node?_put _ below, if_neg]
        intro same
        simpa using congrArg List.length same

theorem Open.short (isOpen : files.Open path) (part : String) (member : part ∈ path.parent.parts) :
    part.utf8ByteSize <= longestName := by
  apply isOpen.storable.parts part
  rw [Path.parts_eq isOpen.storable.named]
  exact List.mem_append_left _ member

theorem Open.down_parent (isOpen : files.Open path) : ".." ∉ path.parent.parts := by
  intro dots
  apply isOpen.down
  rw [Path.parts_eq isOpen.storable.named]
  exact List.mem_append_left _ dots

/-- Replacing a file succeeds where nothing is in the way. -/
theorem fault_replace_of_open (wellFormed : files.WellFormed) (isOpen : files.Open path)
    (content : List UInt8) : (files.replace path content).fault = none := by
  have parts := Path.parts_eq isOpen.storable.named
  have start : files.startOf path.parent = files.startOf path := rfl
  have plain : path.name ≠ ".." := by
    intro dots
    apply isOpen.down
    rw [parts, dots]
    simp
  have made := madeDirectories wellFormed (startOf_isDirectory wellFormed path.parent)
    isOpen.short
  have clear := makeDirectories_of_clear isOpen.down_parent isOpen.short isOpen.clear
  unfold replace
  dsimp only
  rw [isOpen.fineAbove]
  dsimp only
  rw [start] at made ⊢
  revert made clear
  generalize makeDirectories (files.startOf path) path.parent.parts files = outcome
  rcases outcome with ⟨larger, fault⟩
  rintro made ⟨rfl, kept⟩
  rcases made.through rfl with ⟨directory, found, inside⟩
  have keeps := made.adds.keeps.directories
  have below : directory = files.startOf path ++ path.parent.parts :=
    walk_down isOpen.down_parent found
  rw [<- startOf_of_keeps keeps] at found
  have locatedAbove : larger.locate path.parent = .ok directory :=
    (locate_of_fine isOpen.fineAbove).trans found
  have located : larger.locate path = .ok (directory ++ [path.name]) := by
    have leads := parts_walk isOpen.storable found inside
    rw [step, if_neg plain] at leads
    exact (locate_of_fine isOpen.fine).trans leads
  have free : larger.node? (directory ++ [path.name]) ≠ some .directory := by
    rw [below, kept path.name, List.append_assoc, <- parts]
    exact isOpen.free
  dsimp only
  rw [isOpen.room, locatedAbove]
  exact fault_moveIn isOpen.storable.named plain located free

end Success

end FileTree

namespace StateFile

/-! ## The round trip -/

/-- A sound state that was saved is loaded as it was, with any requirements that have a track: no
remark is made and no id is taken.  Saving it succeeds where nothing is in the way. -/
theorem load_save {requirements : Requirements Float} (tracked : requirements.tracks ≠ [])
    {state : PlannerState} (sound : state.Sound) (path : Path) (files : FileTree) (ids : IdSupply) :
    let saved := save state path files
    (saved.fault = none ->
      load (some requirements) path saved.files ids
        = { result := .ok (state, none), ids, notices := [] })
    ∧ (files.WellFormed -> files.Open path -> saved.fault = none) := by
  dsimp only
  rw [save_eq]
  constructor
  · intro done
    exact load_of_stored tracked sound (Or.inl rfl) (FileTree.standsAt_of_replace done) ids
  · intro wellFormed isOpen
    exact FileTree.fault_replace_of_open wellFormed isOpen _

/-- A working directory with nothing in it. -/
def homeTree : FileTree := { working := ["home"], nodes := [(["home"], .directory)] }

theorem node?_homeTree {location : List String} {node : Node}
    (stands : homeTree.node? location = some node) :
    (location = [] ∨ location = ["home"]) ∧ node = .directory := by
  cases location with
  | nil => exact ⟨Or.inl rfl, (Option.some.inj stands).symm⟩
  | cons name names =>
      rw [FileTree.node?_of_ne_nil _ (List.cons_ne_nil name names), Option.map_eq_some_iff]
        at stands
      rcases stands with ⟨entry, found, rfl⟩
      have listed := List.mem_singleton.mp (List.mem_of_find?_eq_some found)
      have same := List.find?_some found
      subst listed
      exact ⟨Or.inr (eq_of_beq same).symm, rfl⟩

theorem wellFormed_homeTree : homeTree.WellFormed where
  working := rfl
  inside location name node stands := by
    rcases (node?_homeTree stands).1 with nothing | home
    · exact absurd nothing (by simp)
    · have here : location ++ [name] = [] ++ ["home"] := home
      rw [(List.append_inj' here rfl).1]
      rfl

/-- A path through a directory that is not there yet. -/
def homePath : Path := Path.read "plans/state.json"

theorem open_homePath : homeTree.Open homePath where
  storable := {
    named := by decide
    parts := by decide
    room := by decide
  }
  down := by decide
  fine := by decide
  fineAbove := by decide
  room := by decide
  clear before after _ content file := by cases (node?_homeTree file).2
  free := by with_unfolding_all nofun

/-- A state with texts that end lines or have to be marked, credits beyond all numbers and a zero
with a sign. -/
def oddState : PlannerState :=
  {
    cohortId := "\"2023\\2024\"\r\n"
    trackId := "\u2028\u0000"
    trackType := .minor
    courses :=
      [
        { code := "\r", name := "회로 이론", credits := Number.infinity, bucket := .track, id := "\n" },
        { code := "😀", name := " ", credits := -0.0, bucket := .other, id := "\u0085\t" }
      ]
  }

theorem sound_oddState : oddState.Sound where
  cohortId := by decide
  trackId := by decide
  courses course held := by
    simp only [oddState, List.mem_cons, List.not_mem_nil, or_false] at held
    rcases held with rfl | rfl
    · exact { code := by decide, name := by decide, credits := by decide, id := by decide }
    · exact { code := by decide, name := by decide, credits := by decide, id := by decide }

theorem load_save_oddState :
    let requirements : Requirements Float := ⟨[], [⟨"EE", "", [], ⟨[]⟩, .empty⟩]⟩
    let saved := save oddState homePath homeTree
    requirements.tracks ≠ [] ∧ oddState.Sound ∧ saved.fault = none
      ∧ load (some requirements) homePath saved.files (IdSupply.random 0)
        = { result := .ok (oddState, none), ids := IdSupply.random 0, notices := [] } := by
  intro requirements saved
  have tracked : requirements.tracks ≠ [] := List.cons_ne_nil _ _
  rcases load_save tracked sound_oddState homePath homeTree (IdSupply.random 0) with
    ⟨loaded, succeeds⟩
  have done := succeeds wellFormed_homeTree open_homePath
  exact ⟨tracked, sound_oddState, done, loaded done⟩

end StateFile
end DegreeAudit
