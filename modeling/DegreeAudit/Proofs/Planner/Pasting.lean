import DegreeAudit.Planner.Identifier
import DegreeAudit.Planner.Operation
import DegreeAudit.Proofs.Audit.Codes
import DegreeAudit.Proofs.Transcript.Reading

namespace DegreeAudit
namespace Planner

/-!
# Texts pasted one after another

A paste sees of the held courses nothing but their normalized codes, and it puts its own courses
before them.  So a text that is pasted in two parts, cut between two lines, leaves what it leaves as
a whole.  In the other order the parts leave as many courses and the same normalized codes; which
spelling, name and credits a code has that both of them give is decided by the order.
-/

open Transcript (courses counts lines readLines addedKeys recognizedKeys)

/-- The normalized codes of courses, in their order. -/
def keysOf (held : List (Course Float)) : List String :=
  held.map fun course => course.key

/-- What becomes of the lines of a text beside held courses. -/
def pasted (track : Option Track) (held : List (Course Float)) (text : String) :
    List Transcript.Reading :=
  readLines track (keysOf held) (lines text.toList)

/-- Two texts, each on lines of its own. -/
def joined (first second : String) : String :=
  first ++ "\n" ++ second

section Supply

/-! ## Courses with new ids -/

theorem assign_append (ids : IdSupply) (first second : List (CourseData Float)) :
    ids.assign (first ++ second) = ids.assign first ++ (ids.skip first.length).assign second := by
  induction first generalizing ids with
  | nil => rfl
  | cons course first inductionHypothesis =>
      have skipped : ids.rest.skip first.length = ids.skip (course :: first).length := by
        simp only [IdSupply.rest, IdSupply.skip, List.length_cons, Nat.add_assoc, Nat.add_comm 1]
      rw [List.cons_append, IdSupply.assign, inductionHypothesis, skipped]
      rfl

theorem skip_skip (ids : IdSupply) (first second : Nat) :
    (ids.skip first).skip second = ids.skip (first + second) := by
  simp only [IdSupply.skip, Nat.add_assoc]

/-- Ids are all that is given to courses. -/
theorem data_assign (ids : IdSupply) (added : List (CourseData Float)) :
    (ids.assign added).map Course.toCourseData = added := by
  induction added generalizing ids with
  | nil => rfl
  | cons course added inductionHypothesis =>
      exact congrArg (List.cons course) (inductionHypothesis ids.rest)

theorem keysOf_eq (held : List (Course Float)) :
    keysOf held = (held.map Course.toCourseData).map CourseData.key := by
  rw [keysOf, List.map_map]
  rfl

theorem mem_heldKeys_iff {held : List (Course Float)} {key : String} :
    key ∈ Audit.heldKeys held ↔ key ∈ keysOf held := by
  rw [keysOf, List.mem_map]
  rfl

end Supply

section Reading

/-! ## Reading beside held courses -/

theorem read_eq_pasted (track : Option Track) (held : List (Course Float)) (text : String) :
    Transcript.read track (held.map fun course => course.code) text.toList
      = pasted track held text := by
  rw [Transcript.read, List.map_map]
  rfl

theorem lines_joined (first second : String) :
    lines (joined first second).toList = lines first.toList ++ lines second.toList := by
  rw [joined, String.toList_append, String.toList_append, List.append_assoc]
  exact Transcript.lines_append first.toList second.toList

theorem pasted_line {line : List Char} (isLine : Transcript.IsLine line) (track : Option Track)
    (held : List (Course Float)) :
    pasted track held (String.ofList line) = readLines track (keysOf held) [line] := by
  rw [pasted, String.toList_ofList, isLine.lines_eq]

/-- A text in two parts is read as its first part, and then as its second one beside the codes that
the first one added. -/
theorem read_joined (track : Option Track) (known : List String) (first second : String) :
    Transcript.read track known (joined first second).toList
      = Transcript.read track known first.toList
        ++ Transcript.read track
          (known ++ (courses (Transcript.read track known first.toList)).map CourseData.code)
          second.toList := by
  rw [Transcript.read, Transcript.read, Transcript.read, lines_joined,
    Transcript.readLines_append, List.append_right_inj]
  apply Transcript.readLines_congr
  intro key _
  rw [List.map_append, List.mem_append, List.mem_append, List.map_map]
  exact or_comm

/-- The courses after a paste. -/
def heldAfter (track : Option Track) (held : List (Course Float)) (text : String)
    (ids : IdSupply) : List (Course Float) :=
  (ids.assign (courses (pasted track held text))).reverse ++ held

theorem data_heldAfter (track : Option Track) (held : List (Course Float)) (text : String)
    (ids : IdSupply) :
    (heldAfter track held text ids).map Course.toCourseData
      = (courses (pasted track held text)).reverse ++ held.map Course.toCourseData := by
  rw [heldAfter, List.map_append, List.map_reverse, data_assign]

theorem keysOf_heldAfter (track : Option Track) (held : List (Course Float)) (text : String)
    (ids : IdSupply) :
    keysOf (heldAfter track held text ids)
      = (addedKeys (pasted track held text)).reverse ++ keysOf held := by
  rw [keysOf_eq, data_heldAfter, List.map_append, List.map_reverse, <- keysOf_eq]
  rfl

theorem pasted_joined (track : Option Track) (held : List (Course Float)) (first second : String)
    (ids : IdSupply) :
    pasted track held (joined first second)
      = pasted track held first ++ pasted track (heldAfter track held first ids) second := by
  rw [pasted, pasted, pasted, lines_joined, Transcript.readLines_append, List.append_right_inj]
  apply Transcript.readLines_congr
  intro key _
  rw [keysOf_heldAfter, List.mem_append, List.mem_append, List.mem_reverse]
  rfl

/-- The courses of a text in two parts come in as those of its parts do, with the same ids. -/
theorem heldAfter_joined (track : Option Track) (held : List (Course Float))
    (first second : String) (ids : IdSupply) :
    heldAfter track held (joined first second) ids
      = heldAfter track (heldAfter track held first ids) second
        (ids.skip (courses (pasted track held first)).length) := by
  rw [heldAfter, pasted_joined track held first second ids, Transcript.courses_append,
    assign_append, List.reverse_append, List.append_assoc]
  rfl

end Reading

section Imports

/-! ## Importing -/

variable {requirements : Option (Requirements Float)} {state : PlannerState} {ids : IdSupply}
  {track : Option Track}

theorem importPaste_of_active (active : activeTrack requirements state = .ok track)
    (text : String) (ids : IdSupply) :
    importPaste requirements text state ids
      = {
          result := .ok {
            courses := ids.assign (courses (pasted track state.courses text))
            counts := counts (pasted track state.courses text)
          }
          state := { state with courses := heldAfter track state.courses text ids }
          ids := ids.skip (courses (pasted track state.courses text)).length
          notices :=
            pasteNotices (pasted track state.courses text)
              ++ [.pasteImported (counts (pasted track state.courses text)).lines
                (counts (pasted track state.courses text)).added
                (counts (pasted track state.courses text)).skipped]
        } := by
  rw [importPaste, active]
  dsimp only
  rw [read_eq_pasted]
  rfl

theorem importPaste_of_failed {failure : Failure}
    (failed : activeTrack requirements state = .error failure) (text : String) (ids : IdSupply) :
    importPaste requirements text state ids
      = { result := .error failure, state, ids, notices := [] } := by
  rw [importPaste, failed]

/-- Where nothing is held, a line in which a row is recognized adds its course. -/
theorem importPaste_of_recognized {line : List Char} (active : activeTrack requirements state = .ok track)
    (empty : state.courses = []) (isLine : Transcript.IsLine line) {row : Transcript.Row}
    (recognized : Transcript.recognize? (Transcript.cells line) = some row) (ids : IdSupply) :
    let paste := importPaste requirements (String.ofList line) state ids
    ∃ course, paste.result = .ok ⟨[course], ⟨1, 1, 0⟩⟩
      ∧ paste.state = { state with courses := [course] }
      ∧ course.code = row.code ∧ course.credits = row.credits := by
  have read : pasted track state.courses (String.ofList line) = [.added (row.course track)] := by
    rw [pasted_line isLine, empty]
    exact Transcript.readLines_added recognized (by simp [keysOf])
  rw [importPaste_of_active active, heldAfter, read, empty]
  exact ⟨(row.course track).withId ids.next, rfl, rfl, rfl, rfl⟩

/-- A line in which none is recognized is skipped. -/
theorem importPaste_of_unrecognized {line : List Char} (active : activeTrack requirements state = .ok track)
    (isLine : Transcript.IsLine line) (none : Transcript.recognize? (Transcript.cells line) = none) (ids : IdSupply) :
    let paste := importPaste requirements (String.ofList line) state ids
    paste.result = .ok ⟨[], ⟨1, 0, 1⟩⟩ ∧ paste.state = state := by
  have read : pasted track state.courses (String.ofList line) = [.unrecognized line] := by
    rw [pasted_line isLine]
    exact Transcript.readLines_unrecognized none
  rw [importPaste_of_active active, heldAfter, read]
  exact ⟨rfl, rfl⟩

/-- The outcome of the second of two texts that are imported one after the other. -/
def twice (requirements : Option (Requirements Float)) (first second : String)
    (state : PlannerState) (ids : IdSupply) : Outcome PasteResult :=
  let half := importPaste requirements first state ids
  importPaste requirements second half.state half.ids

theorem twice_of_failed {failure : Failure}
    (failed : activeTrack requirements state = .error failure) (first second : String)
    (ids : IdSupply) :
    twice requirements first second state ids
      = { result := .error failure, state, ids, notices := [] } := by
  simp only [twice, importPaste_of_failed failed]

theorem twice_of_active (active : activeTrack requirements state = .ok track)
    (first second : String) (ids : IdSupply) :
    (twice requirements first second state ids).state
        = { state with courses := heldAfter track state.courses (joined first second) ids }
      ∧ (twice requirements first second state ids).ids
        = ids.skip (courses (pasted track state.courses (joined first second))).length := by
  -- the track does not depend on the courses
  have stillActive :
      activeTrack requirements { state with courses := heldAfter track state.courses first ids }
        = .ok track :=
    active
  have half := importPaste_of_active active first ids
  have later := importPaste_of_active stillActive second
    (ids.skip (courses (pasted track state.courses first)).length)
  rw [twice, half]
  dsimp only
  rw [later, heldAfter_joined, pasted_joined track state.courses first second ids,
    Transcript.courses_append, List.length_append, skip_skip]
  exact ⟨rfl, rfl⟩

/-- A text in two parts is read as its parts are, the second one beside the codes that the first
one added: the courses of the first part come before those of the second, and the counts add up.
Imported as a whole it leaves what its parts leave that are imported one after the other. -/
theorem paste_joined (first second : String) :
    (forall (track : Option Track) (known : List String),
      let before := Transcript.read track known first.toList
      let after := Transcript.read track (known ++ (courses before).map CourseData.code)
        second.toList
      let both := Transcript.read track known (joined first second).toList
      courses both = courses before ++ courses after
        ∧ counts both
          = {
              lines := (counts before).lines + (counts after).lines
              added := (counts before).added + (counts after).added
              skipped := (counts before).skipped + (counts after).skipped
            })
      ∧ forall (requirements : Option (Requirements Float)) (state : PlannerState)
        (ids : IdSupply),
        let both := importPaste requirements (joined first second) state ids
        both.state = (twice requirements first second state ids).state
          ∧ both.ids = (twice requirements first second state ids).ids := by
  constructor
  · intro track known
    dsimp only
    rw [read_joined]
    exact ⟨Transcript.courses_append _ _, Transcript.counts_append _ _⟩
  · intro requirements state ids
    dsimp only
    cases active : activeTrack requirements state with
    | error failure =>
        rw [twice_of_failed active, importPaste_of_failed active]
        exact ⟨rfl, rfl⟩
    | ok track =>
        rcases twice_of_active active first second ids with ⟨sameState, sameIds⟩
        rw [sameState, sameIds, importPaste_of_active active]
        exact ⟨rfl, rfl⟩

end Imports

section Orders

/-! ## The other order -/

/-- In either order two texts leave the same normalized codes, each as often. -/
theorem keysOf_twice_perm (requirements : Option (Requirements Float)) (first second : String)
    (state : PlannerState) (ids otherIds : IdSupply) :
    (keysOf (twice requirements first second state ids).state.courses).Perm
      (keysOf (twice requirements second first state otherIds).state.courses) := by
  cases active : activeTrack requirements state with
  | error failure =>
      rw [twice_of_failed active, twice_of_failed active]
  | ok track =>
      rw [(twice_of_active active first second ids).1,
        (twice_of_active active second first otherIds).1, keysOf_heldAfter, keysOf_heldAfter,
        List.perm_append_right_iff, List.reverse_perm', List.perm_reverse]
      apply Transcript.addedKeys_perm
      intro key
      rw [lines_joined, lines_joined, Transcript.recognizedKeys_append,
        Transcript.recognizedKeys_append, List.mem_append, List.mem_append]
      exact or_comm

/-- In either order two texts with no code in common leave the same courses. -/
theorem data_twice_perm (requirements : Option (Requirements Float)) {first second : String}
    (state : PlannerState) (ids otherIds : IdSupply)
    (apart : forall key, key ∈ recognizedKeys (lines first.toList) ->
      key ∉ recognizedKeys (lines second.toList)) :
    ((twice requirements first second state ids).state.courses.map Course.toCourseData).Perm
      ((twice requirements second first state otherIds).state.courses.map
        Course.toCourseData) := by
  cases active : activeTrack requirements state with
  | error failure =>
      rw [twice_of_failed active, twice_of_failed active]
  | ok track =>
      have apartBack : forall key, key ∈ recognizedKeys (lines second.toList) ->
          key ∉ recognizedKeys (lines first.toList) :=
        fun key there here => apart key here there
      rw [(twice_of_active active first second ids).1,
        (twice_of_active active second first otherIds).1, data_heldAfter, data_heldAfter,
        List.perm_append_right_iff, List.reverse_perm', List.perm_reverse]
      rw [pasted, pasted, lines_joined, lines_joined,
        Transcript.readLines_append_of_apart track _ apart,
        Transcript.readLines_append_of_apart track _ apartBack, Transcript.courses_append,
        Transcript.courses_append]
      exact List.perm_append_comm

/-- Two texts that are imported in either order leave states with the same normalized codes and as
many courses, so whatever is decided by held codes alone is decided alike.  If no code is recognized
in both texts, the states hold the same courses. -/
theorem twice_swapped (requirements : Option (Requirements Float)) (first second : String)
    (state : PlannerState) (ids otherIds : IdSupply) :
    let forth := (twice requirements first second state ids).state
    let back := (twice requirements second first state otherIds).state
    Audit.heldKeys forth.courses = Audit.heldKeys back.courses
      ∧ forth.courses.length = back.courses.length
      ∧ Audit.DecidedAlike forth.courses back.courses
      ∧ ((forall key, key ∈ recognizedKeys (lines first.toList) ->
          key ∉ recognizedKeys (lines second.toList)) ->
        (forth.courses.map Course.toCourseData).Perm (back.courses.map Course.toCourseData)) := by
  intro forth back
  have keys := keysOf_twice_perm requirements first second state ids otherIds
  have held : Audit.heldKeys forth.courses = Audit.heldKeys back.courses := by
    ext key
    rw [mem_heldKeys_iff, mem_heldKeys_iff]
    exact keys.mem_iff
  have many : forth.courses.length = back.courses.length := by
    have length := keys.length_eq
    rwa [keysOf, keysOf, List.length_map, List.length_map] at length
  exact ⟨held, many, Audit.decidedAlike_of_heldKeys held,
    data_twice_perm requirements state ids otherIds⟩

/-- A transcript with a code that is given twice. -/
def spring : String := "AB101\tAlgebra\t3.0\tA+\nab101\tAlgebra again\t2.0\tB0"

/-- A transcript with none of the codes of that one. -/
def autumn : String := "Term 2\nCD202\tCalculus 2\t3.0\tB0"

theorem twice_swapped_spring_autumn :
    (forall key, key ∈ recognizedKeys (lines spring.toList) ->
        key ∉ recognizedKeys (lines autumn.toList))
      ∧ ((twice none spring autumn PlannerState.initial (IdSupply.random 0)).state.courses.map
          Course.toCourseData).Perm
        ((twice none autumn spring PlannerState.initial (IdSupply.random 9)).state.courses.map
          Course.toCourseData) := by
  have apart : forall key, key ∈ recognizedKeys (lines spring.toList) ->
      key ∉ recognizedKeys (lines autumn.toList) := by
    decide +kernel
  exact ⟨apart, (twice_swapped none spring autumn PlannerState.initial (IdSupply.random 0)
    (IdSupply.random 9)).2.2.2 apart⟩

end Orders

end Planner
end DegreeAudit
