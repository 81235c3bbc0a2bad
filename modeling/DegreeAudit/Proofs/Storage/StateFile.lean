import DegreeAudit.Proofs.Encoding.Utf8
import DegreeAudit.Proofs.Json.LineEnds
import DegreeAudit.Proofs.Json.RealText
import DegreeAudit.Proofs.Planner.RoundTrip
import DegreeAudit.Proofs.Storage.Replacement
import DegreeAudit.Storage.StateFile

namespace DegreeAudit

/-!
# The stored state

The text of a sound state is read back as its document, also from a file and with an end of line
after it.  So whatever files there are, a path either has nothing to say about the state, and then
the initial one is loaded from it, or it has the text of a sound state, and then that one is loaded.
Saving and writing keep to this: what they store is what is loaded next, and where they fail the
state is the one that was loaded before.
-/

namespace Snapshot

theorem readsBack_courseDocument (course : Course Float) (depth nesting : Nat) :
    Json.ReadsBack depth (nesting + 1) (courseDocument course) := by
  have distinct : ["id", "code", "name", "credits", "bucket"].Nodup := by decide
  refine Json.readsBack_object ?_ distinct
  intro entry member
  simp only [List.mem_cons, List.not_mem_nil, or_false] at member
  rcases member with rfl | rfl | rfl | rfl | rfl
  · exact Json.readsBack_string _ _ _
  · exact Json.readsBack_string _ _ _
  · exact Json.readsBack_string _ _ _
  · exact Json.readsBack_real _ _ _
  · exact Json.readsBack_string _ _ _

theorem readsBack_document (state : PlannerState) (depth nesting : Nat) :
    Json.ReadsBack depth (nesting + 3) (document state) := by
  have distinct : ["cohortId", "trackId", "trackType", "courses"].Nodup := by decide
  refine Json.readsBack_object ?_ distinct
  intro entry member
  simp only [List.mem_cons, List.not_mem_nil, or_false] at member
  rcases member with rfl | rfl | rfl | rfl
  · exact Json.readsBack_string _ _ _
  · exact Json.readsBack_string _ _ _
  · exact Json.readsBack_string _ _ _
  · apply Json.readsBack_list
    intro item listed
    rcases List.mem_map.mp listed with ⟨course, held, rfl⟩
    exact readsBack_courseDocument course _ _

/-- What may stand after the text of a state: nothing, or the end of its last line. -/
def IsEnd (after : List Char) : Prop :=
  after = [] ∨ after = ['\n']

/-- The content of a file with the text of a state. -/
def content (state : PlannerState) (after : List Char) : List UInt8 :=
  Encoding.Utf8.encode ((text state).toList ++ after)

/-- The text of a state, read from its file, has the document of the state in it. -/
theorem readContent (state : PlannerState) {after : List Char} (ended : IsEnd after) :
    textOfBytes (content state after) = .ok ((text state).toList ++ after)
      ∧ Json.read ((text state).toList ++ after) = .ok (document state) := by
  have written : (text state).toList = (document state).write := String.toList_ofList
  have clean : '\r' ∉ after := by
    rcases ended with rfl | rfl <;> decide
  have empty : Json.skipGap after = [] := by
    rcases ended with rfl | rfl <;> decide
  have delimited : Json.Delimited after := by
    rcases ended with rfl | rfl
    · exact Json.delimited_nil
    · exact Json.delimited_newLine 0 []
  constructor
  · unfold textOfBytes content
    rw [Encoding.Utf8.decode_encode, written]
    exact congrArg Except.ok (Json.unifyNewlines_write _ clean)
  · rw [written]
    exact Json.read_write (readsBack_document state 0 _) empty delimited

end Snapshot

namespace StateFile

/-- What there is at a path stands for a state: for the initial one if there is nothing or a
directory, and for a sound state if there is a file with its text. -/
inductive Holds (requirements : Requirements Float) (path : Path) (files : FileTree) :
    PlannerState -> Prop where
  | absent (absent : files.hasNode path = .ok false) :
      Holds requirements path files PlannerState.initial
  | directory (stands : files.StandsAt path .directory) :
      Holds requirements path files PlannerState.initial
  | stored {state : PlannerState} (sound : state.Sound) (tracked : requirements.tracks ≠ [])
      {after : List Char} (ended : Snapshot.IsEnd after)
      (stands : files.StandsAt path (.file (.bytes (Snapshot.content state after)))) :
      Holds requirements path files state

variable {requirements : Requirements Float} {path : Path} {files : FileTree}
  {state : PlannerState}

theorem Holds.sound (holds : Holds requirements path files state) : state.Sound := by
  cases holds with
  | absent => exact PlannerState.sound_initial
  | directory => exact PlannerState.sound_initial
  | stored sound => exact sound

theorem readText_of_standsAt {content : List UInt8} {text : List Char}
    (stands : files.StandsAt path (.file (.bytes content)))
    (decoded : textOfBytes content = .ok text) : files.readText path = .ok text := by
  rcases stands with ⟨location, found, here⟩
  unfold FileTree.readText FileTree.read
  rw [found]
  dsimp only
  rw [here]
  dsimp only [Content.toBytes]
  rw [decoded]

theorem readText_of_directory (stands : files.StandsAt path .directory) :
    files.readText path = .error (.file ⟨.isDirectory, path⟩) := by
  rcases stands with ⟨location, found, here⟩
  unfold FileTree.readText FileTree.read
  rw [found]
  dsimp only
  rw [here]

/-- The text of a sound state gives that state, whatever the requirements. -/
theorem read_text (tracked : requirements.tracks ≠ []) (sound : state.Sound)
    {after : List Char} (ended : Snapshot.IsEnd after) (ids : IdSupply) :
    Snapshot.read (some requirements) PlannerState.initial ids
        (.text ((Snapshot.text state).toList ++ after))
      = { result := .ok (.ok state), ids, notices := [] } := by
  have document := (Snapshot.readContent state ended).2
  unfold Snapshot.read Snapshot.Source.document
  dsimp only
  rw [document]
  refine Snapshot.ofDocument_document (fun given same => ?_) _ ids sound
  rcases Option.some.inj same with rfl
  exact tracked

/-- A state whose text stands at a path is loaded from it, and nothing is remarked. -/
theorem load_of_stored (tracked : requirements.tracks ≠ []) (sound : state.Sound)
    {after : List Char} (ended : Snapshot.IsEnd after)
    (stands : files.StandsAt path (.file (.bytes (Snapshot.content state after))))
    (ids : IdSupply) :
    load (some requirements) path files ids
      = { result := .ok (state, none), ids, notices := [] } := by
  have text := readText_of_standsAt stands (Snapshot.readContent _ ended).1
  unfold StateFile.load
  rw [FileTree.hasNode_of_standsAt stands]
  dsimp only
  rw [text]
  dsimp only
  rw [read_text tracked sound ended ids]

/-- The state that a path stands for is the one loaded from it.  A remark may be made on the way,
but no id is taken. -/
theorem Holds.load (holds : Holds requirements path files state) (ids : IdSupply) :
    ∃ neglect notices, load (some requirements) path files ids
      = { result := .ok (state, neglect), ids, notices } := by
  cases holds with
  | absent absent =>
      unfold StateFile.load
      rw [absent]
      exact ⟨_, _, rfl⟩
  | directory stands =>
      unfold StateFile.load
      rw [FileTree.hasNode_of_standsAt stands]
      dsimp only
      rw [readText_of_directory stands]
      exact ⟨_, _, rfl⟩
  | stored sound tracked ended stands =>
      exact ⟨none, [], load_of_stored tracked sound ended stands ids⟩

/-- Saving replaces the file by the text of the state. -/
theorem save_eq (state : PlannerState) (path : Path) (files : FileTree) :
    save state path files = files.replace path (Snapshot.content state []) := by
  unfold StateFile.save Snapshot.content
  rw [List.append_nil]

/-- Saving a state makes the path stand for it, or leaves it standing for the state before. -/
theorem Holds.save (holds : Holds requirements path files state) (wellFormed : files.WellFormed)
    (storable : path.Storable) (tracked : requirements.tracks ≠ []) {next : PlannerState}
    (sound : next.Sound) :
    (save next path files).files.WellFormed
      ∧ Holds requirements path (save next path files).files
          (if (save next path files).fault = none then next else state) := by
  have replaced := FileTree.replaced wellFormed storable (Snapshot.content next [])
  rw [save_eq]
  revert replaced
  generalize files.replace path (Snapshot.content next []) = written
  intro replaced
  cases replaced with
  | stored formed stands => exact ⟨formed, .stored sound tracked (Or.inl rfl) stands⟩
  | @failed larger fault formed adds absent =>
      refine ⟨formed, ?_⟩
      cases holds with
      | absent nothing =>
          rcases absent nothing with still | directory
          · exact .absent still
          · exact .directory directory
      | directory stands => exact .directory (stands.of_keeps adds.keeps)
      | stored sound _ ended stands =>
          exact .stored sound tracked ended (stands.of_keeps adds.keeps)

/-- Writing the state that a path stands for anywhere leaves the path standing for it, even where
that is the path itself. -/
theorem Holds.write (holds : Holds requirements path files state) (wellFormed : files.WellFormed)
    (tracked : requirements.tracks ≠ []) (other : Path) :
    (files.write other (Snapshot.content state ['\n'])).files.WellFormed
      ∧ Holds requirements path (files.write other (Snapshot.content state ['\n'])).files
        state := by
  have wrote := FileTree.wrote wellFormed other (Snapshot.content state ['\n'])
  revert wrote
  generalize files.write other (Snapshot.content state ['\n']) = written
  intro wrote
  cases wrote with
  | failed fault => exact ⟨wellFormed, holds⟩
  | @stored above name located inside free =>
      refine ⟨wellFormed.put inside (FileTree.file_of_directory free _), ?_⟩
      have overwritten (stands : (files.put (above ++ [name])
          (.file (.bytes (Snapshot.content state ['\n'])))).StandsAt path
            (.file (.bytes (Snapshot.content state ['\n'])))) :
          Holds requirements path (files.put (above ++ [name])
            (.file (.bytes (Snapshot.content state ['\n'])))) state :=
        .stored holds.sound tracked (Or.inr rfl) stands
      cases holds with
      | absent nothing =>
          rcases FileTree.hasNode_put_file free _ nothing with still | stands
          · exact .absent still
          · exact overwritten stands
      | directory stands =>
          rcases FileTree.standsAt_put_file free _ stands with still | stands
          · exact .directory still
          · exact overwritten stands
      | stored sound _ ended stands =>
          rcases FileTree.standsAt_put_file free _ stands with still | stands
          · exact .stored sound tracked ended still
          · exact overwritten stands

end StateFile
end DegreeAudit
