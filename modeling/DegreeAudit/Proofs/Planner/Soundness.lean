import DegreeAudit.Planner.Operation
import DegreeAudit.Proofs.Number.Layout
import DegreeAudit.Proofs.Number.Order
import DegreeAudit.Proofs.Outcome
import DegreeAudit.Proofs.Transcript.Account

namespace DegreeAudit

/-!
# Sound states

Reading a document takes an empty text for one that is absent, and turns credits below zero into
none.  A state is sound when none of its parts would be taken for absent.  Every way in which a
course comes into a state, by hand, from a transcript or from a document, makes it sound, and no
operation takes that from it.
-/

/-- Nothing of a course would be taken for absent, as far as it does not need an id. -/
structure CourseData.Sound (course : CourseData Float) : Prop where
  code : course.code ≠ ""
  name : course.name ≠ ""
  credits : 0 <= course.credits

/-- Nothing of a course would be taken for absent. -/
structure Course.Sound (course : Course Float) : Prop extends
    CourseData.Sound course.toCourseData where
  id : course.id ≠ ""

/-- Nothing of a state would be taken for absent. -/
structure PlannerState.Sound (state : PlannerState) : Prop where
  cohortId : state.cohortId ≠ ""
  trackId : state.trackId ≠ ""
  courses : forall course, course ∈ state.courses -> course.Sound

/-- A supply whose ids are all texts that say something. -/
def IdSupply.Named (ids : IdSupply) : Prop :=
  forall count, ids.name count ≠ ""

theorem ofList_ne_empty {text : List Char} (something : text ≠ []) : String.ofList text ≠ "" := by
  intro empty
  apply something
  simpa using congrArg String.toList empty

section Texts

/-! ## Texts that say something -/

/-- What is written of a value that says something says something. -/
theorem Json.shown?_ne_some_nil (value : Json) : value.shown? ≠ some [] := by
  cases value with
  | null => exact nofun
  | bool truth => cases truth <;> exact nofun
  | int number =>
      rw [shown?]
      split
      · exact nofun
      · exact fun same => Text.ofInt_ne_nil number (Option.some.inj same)
  | real number =>
      rw [shown?]
      exact fun same => Number.exactText_ne_nil number (Option.some.inj same)
  | string text =>
      rw [shown?]
      exact nofun
  | list items =>
      rw [shown?]
      cases shownItems? items <;> exact nofun
  | object entries =>
      rw [shown?]
      cases shownEntries? entries <;> exact nofun

/-- A value that says something is a text that says something, if it has a text. -/
theorem Json.asText?_ne_some_empty {value : Json} (something : value.isNothing = false) :
    value.asText? ≠ some "" := by
  have shown : value.display? ≠ some "" := by
    intro same
    rcases Option.map_eq_some_iff.mp same with ⟨text, written, empty⟩
    have nothing : text = [] := String.ofList_eq_empty_iff.mp empty
    exact value.shown?_ne_some_nil (written.trans (congrArg some nothing))
  cases value with
  | string text =>
      intro same
      rcases Option.some.inj same with rfl
      exact absurd something Bool.noConfusion
  | _ => exact shown

theorem Snapshot.givenText?_of_textAt? {key : String} {entries : List (String × Json)}
    {text : Option String} (read : textAt? key entries = .ok text) :
    givenText? key entries = text := by
  unfold textAt? at read
  unfold givenText?
  split at read
  · rename_i absent
    rcases Except.ok.inj read with rfl
    rw [absent]
    rfl
  · rename_i value present
    rw [present, Option.bind_some]
    split at read
    · rename_i written
      rcases Except.ok.inj read with rfl
      exact written
    · cases read

theorem Snapshot.textAt?_ne_empty {key text : String} {entries : List (String × Json)}
    (read : textAt? key entries = .ok (some text)) : text ≠ "" := by
  rintro rfl
  rcases Option.bind_eq_some_iff.mp (givenText?_of_textAt? read) with ⟨value, present, written⟩
  rcases Option.filter_eq_some_iff.mp present with ⟨_, something⟩
  exact Json.asText?_ne_some_empty (by simpa using something) written

theorem Snapshot.getD_ne_empty_of_textAt? {key otherwise : String}
    {entries : List (String × Json)} {text : Option String}
    (read : textAt? key entries = .ok text) (given : otherwise ≠ "") :
    text.getD otherwise ≠ "" := by
  cases text with
  | none => exact given
  | some text => exact textAt?_ne_empty read

/-- Credits are never negative, whatever value they are read from. -/
theorem Planner.creditsOf_nonneg {value : Json} {credits : Float}
    (read : creditsOf value = .ok credits) : 0 <= credits := by
  unfold creditsOf at read
  split at read
  · rcases Except.ok.inj read with rfl
    exact Number.zero_nonneg
  · split at read
    · cases read
    · rcases Except.ok.inj read with rfl
      exact Number.zero_nonneg
    · rcases Except.ok.inj read with rfl
      split
      · assumption
      · exact Number.zero_nonneg

end Texts

section Entries

/-! ## Courses that come into a state -/

namespace Planner

/-- What stands in a course of what is entered: its code and its name, unless they say nothing, and
the credits that some value stands for. -/
theorem parts_of_entry {requirements : Option (Requirements Float)} {catalog : Option Catalog}
    {entry : Entry} {state : PlannerState} {course : CourseData Float}
    (entered : entry.course requirements catalog state = .ok course) :
    (course.code = if (normalizeCompound entry.code).isEmpty then defaultCode
        else normalizeCompound entry.code)
      ∧ (∃ name : String, course.name = if name.isEmpty then defaultName else name)
      ∧ ∃ value, creditsOf value = .ok course.credits := by
  have completed {code name : String} {credits : Json} {bucket : Bucket}
      (finished : (creditsOf credits >>= fun credits => .ok { code, name, credits, bucket })
        = .ok course) :
      course.code = code ∧ course.name = name ∧ ∃ value, creditsOf value = .ok course.credits := by
    rcases bind_eq_ok.mp finished with ⟨amount, counted, finished⟩
    rcases Except.ok.inj finished with rfl
    exact ⟨rfl, rfl, credits, counted⟩
  unfold Entry.course at entered
  dsimp only at entered
  split at entered
  · rcases completed entered with ⟨code, name, credits⟩
    exact ⟨code, ⟨_, name⟩, credits⟩
  · rcases bind_eq_ok.mp entered with ⟨track, _, finished⟩
    rcases completed finished with ⟨code, name, credits⟩
    exact ⟨code, ⟨_, name⟩, credits⟩

/-- A course entered by hand is sound, whatever is given for its credits. -/
theorem sound_of_entry {requirements : Option (Requirements Float)} {catalog : Option Catalog}
    {entry : Entry} {state : PlannerState} {course : CourseData Float}
    (entered : entry.course requirements catalog state = .ok course) : course.Sound := by
  have filled (text : String) {otherwise : String} (given : otherwise ≠ "") :
      (if text.isEmpty then otherwise else text) ≠ "" := by
    split
    · exact given
    · rename_i something
      rintro rfl
      exact something rfl
  rcases parts_of_entry entered with ⟨code, ⟨text, name⟩, value, counted⟩
  constructor
  case code =>
    rw [code]
    exact filled _ (by decide)
  case name =>
    rw [name]
    exact filled _ (by decide)
  case credits => exact creditsOf_nonneg counted

end Planner

namespace Transcript

/-- A line gives a sound course: its code is a word, and its credits are not below a half. -/
theorem ReadFrom.sound {track : Option Track} {line : List Char} {column : Nat}
    {course : CourseData Float} (read : ReadFrom track line column course) : course.Sound where
  code := by
    intro empty
    exact read.code.ne_nil (by rw [empty]; rfl)
  name := read.named
  credits := Number.nonneg_of_le (by decide) read.least

theorem sound_of_mem_courses {track : Option Track} {known : List String} {text : List Char}
    {course : CourseData Float} (member : course ∈ courses (read track known text)) :
    course.Sound := by
  rcases exists_line_of_mem_courses member with ⟨line, row, recognized, rfl⟩
  rcases readFrom_of_recognize? recognized track with ⟨column, read⟩
  exact read.sound

end Transcript

namespace IdSupply

theorem named_rest {ids : IdSupply} (named : ids.Named) : ids.rest.Named :=
  named

theorem next_ne_empty {ids : IdSupply} (named : ids.Named) : ids.next ≠ "" :=
  named ids.taken

/-- Sound courses that are given ids are sound with their ids. -/
theorem sound_of_mem_assign {ids : IdSupply} (named : ids.Named) {added : List (CourseData Float)}
    (sound : forall course, course ∈ added -> course.Sound) {course : Course Float}
    (member : course ∈ ids.assign added) : course.Sound := by
  induction added generalizing ids with
  | nil => cases member
  | cons first added inductionHypothesis =>
      rcases List.mem_cons.mp member with rfl | member
      · exact { sound first List.mem_cons_self with id := next_ne_empty named }
      · exact inductionHypothesis (named_rest named)
          (fun course later => sound course (List.mem_cons_of_mem first later)) member

end IdSupply

namespace Snapshot

/-- A course of a document is sound, and its id is the one given there. -/
theorem sound_of_readCourse {track : Option Track} {entries : List (String × Json)}
    {course : CourseData Float} {given : Option String}
    (read : readCourse track entries = .ok (course, given)) :
    course.Sound ∧ textAt? "id" entries = .ok given := by
  unfold readCourse at read
  rcases bind_eq_ok.mp read with ⟨code, readCode, read⟩
  rcases bind_eq_ok.mp read with ⟨name, readName, read⟩
  rcases bind_eq_ok.mp read with ⟨credits, counted, read⟩
  rcases bind_eq_ok.mp read with ⟨id, readId, read⟩
  cases read
  exact ⟨⟨getD_ne_empty_of_textAt? readCode (by decide),
    getD_ne_empty_of_textAt? readName (by decide), Planner.creditsOf_nonneg counted⟩, readId⟩

/-- All courses that are read from a list are sound. -/
theorem sound_of_readCourses {track : Option Track} {ids : IdSupply} (named : ids.Named)
    {items : List Json} {courses : List (Course Float)}
    (read : (readCourses track ids items).courses = .ok courses) :
    forall course, course ∈ courses -> course.Sound := by
  fun_induction readCourses track ids items generalizing courses with
  | case1 ids =>
      rcases Except.ok.inj read with rfl
      intro course member
      cases member
  | case2 ids entries items failure failed => cases read
  | case3 ids entries items data given readHere first others =>
      rename_i inductionHypothesis
      rcases map_eq_ok.mp read with ⟨later, readLater, rfl⟩
      rcases sound_of_readCourse readHere with ⟨soundHere, identified⟩
      intro course member
      rcases List.mem_cons.mp member with rfl | member
      · refine { soundHere with id := ?_ }
        change given.getD ids.next ≠ ""
        cases found : given with
        | none => exact IdSupply.next_ne_empty named
        | some id => exact textAt?_ne_empty (found ▸ identified)
      · refine inductionHypothesis ?_ readLater course member
        split
        · exact named
        · exact IdSupply.named_rest named
  | case4 ids item items notObject others inductionHypothesis =>
      exact inductionHypothesis named read

/-- What a state that is read from a document lacks comes from another state, so it is sound if
that one is. -/
theorem sound_of_ofEntries {requirements : Option (Requirements Float)} {base : PlannerState}
    {ids : IdSupply} {entries : List (String × Json)} {items : List Json} {state : PlannerState}
    (sound : base.Sound) (named : ids.Named)
    (read : (ofEntries requirements base ids entries items).result = .ok (.ok state)) :
    state.Sound := by
  unfold ofEntries at read
  split at read
  · cases read
  · rename_i chosen track found
    rcases bind_eq_ok.mp found with ⟨choices, chose, found⟩
    rcases bind_eq_ok.mp found with ⟨active, _, found⟩
    rcases Prod.mk.inj (Except.ok.inj found) with ⟨rfl, rfl⟩
    rcases bind_eq_ok.mp chose with ⟨cohortId, readCohortId, chose⟩
    rcases bind_eq_ok.mp chose with ⟨trackId, readTrackId, chose⟩
    rcases Except.ok.inj chose with rfl
    rcases map_eq_ok.mp read with ⟨courses, readCourses, finished⟩
    rcases Except.ok.inj finished with rfl
    exact {
      cohortId := getD_ne_empty_of_textAt? readCohortId sound.cohortId
      trackId := getD_ne_empty_of_textAt? readTrackId sound.trackId
      courses := sound_of_readCourses named readCourses
    }

theorem sound_of_ofDocument {requirements : Option (Requirements Float)} {base : PlannerState}
    {ids : IdSupply} {document : Json} {state : PlannerState} (sound : base.Sound)
    (named : ids.Named)
    (read : (ofDocument requirements base ids document).result = .ok (.ok state)) :
    state.Sound := by
  unfold ofDocument at read
  split at read
  · split at read
    · exact sound_of_ofEntries sound named read
    · cases read
  · cases read

theorem sound_of_read {requirements : Option (Requirements Float)} {base : PlannerState}
    {ids : IdSupply} {source : Source} {state : PlannerState} (sound : base.Sound)
    (named : ids.Named)
    (succeeded : (read requirements base ids source).result = .ok (.ok state)) :
    state.Sound := by
  unfold read at succeeded
  split at succeeded
  · cases succeeded
  · exact sound_of_ofDocument sound named succeeded

end Snapshot

end Entries

section Operations

/-! ## Operations -/

namespace PlannerState

theorem sound_initial : initial.Sound where
  cohortId := by decide
  trackId := by decide
  courses := by
    intro course member
    cases member

/-- A bucket may be changed at will. -/
theorem sound_of_mem_moveCourse {id : String} {bucket : Bucket} {courses : List (Course Float)}
    (sound : forall course, course ∈ courses -> course.Sound) {course : Course Float}
    (member : course ∈ moveCourse id bucket courses) : course.Sound := by
  induction courses with
  | nil => cases member
  | cons first courses inductionHypothesis =>
      have soundLater (course : Course Float) (later : course ∈ courses) : course.Sound :=
        sound course (List.mem_cons_of_mem first later)
      unfold moveCourse at member
      split at member
      · rcases List.mem_cons.mp member with rfl | member
        · exact { sound first List.mem_cons_self with }
        · exact soundLater course member
      · rcases List.mem_cons.mp member with rfl | member
        · exact sound course List.mem_cons_self
        · exact inductionHypothesis soundLater member

end PlannerState

namespace Planner

theorem sound_moveToTrack {track : Track} {course : Course Float} (sound : course.Sound) :
    (moveToTrack track course).Sound := by
  unfold moveToTrack
  split
  · exact { sound with }
  · exact sound

variable {requirements : Option (Requirements Float)} {state : PlannerState} {ids : IdSupply}

theorem sound_addCourse (sound : state.Sound) (named : ids.Named) (catalog : Option Catalog)
    (entry : Entry) : (addCourse requirements catalog entry state ids).state.Sound := by
  unfold addCourse
  split
  · exact sound
  · rename_i data entered
    refine { sound with courses := ?_ }
    intro course member
    rcases List.mem_cons.mp member with rfl | member
    · exact { sound_of_entry entered with id := IdSupply.next_ne_empty named }
    · exact sound.courses course member

theorem sound_removeCourse (sound : state.Sound) (id : String) :
    (removeCourse id state ids).state.Sound := by
  unfold removeCourse
  split
  · exact sound
  · refine { sound with courses := ?_ }
    intro course member
    exact sound.courses course (List.mem_filter.mp member).1

theorem sound_reclassify (sound : state.Sound) (id : String) (bucket : Bucket) :
    (reclassify id bucket state ids).state.Sound := by
  unfold reclassify
  split
  · exact sound
  · exact { sound with courses := fun _ => PlannerState.sound_of_mem_moveCourse sound.courses }

theorem sound_chooseTrack (sound : state.Sound) {id : String} (given : id ≠ "") :
    (chooseTrack requirements id state ids).state.Sound := by
  unfold chooseTrack
  split
  · unfold changeTrack
    dsimp only
    split
    · exact { sound with trackId := given }
    · rename_i track _
      refine { sound with trackId := given, courses := ?_ }
      intro course member
      rcases List.mem_map.mp member with ⟨before, held, rfl⟩
      exact sound_moveToTrack (sound.courses before held)
  · exact { sound with trackId := given }

theorem sound_importPaste (sound : state.Sound) (named : ids.Named) (text : String) :
    (importPaste requirements text state ids).state.Sound := by
  unfold importPaste
  split
  · exact sound
  · refine { sound with courses := ?_ }
    intro course member
    rcases List.mem_append.mp member with added | held
    · exact IdSupply.sound_of_mem_assign named (fun _ => Transcript.sound_of_mem_courses)
        (List.mem_reverse.mp added)
    · exact sound.courses course held

theorem sound_importSnapshot (sound : state.Sound) (named : ids.Named)
    (source : Snapshot.Source) :
    (importSnapshot requirements source state ids).state.Sound := by
  unfold importSnapshot
  dsimp only
  split
  · exact sound
  · exact sound
  · rename_i imported succeeded
    exact Snapshot.sound_of_read sound named succeeded

namespace Operation

/-- The ids that an operation chooses are texts that say something. -/
def Named : Operation -> Prop
  | cohort id => id ≠ ""
  | track id => id ≠ ""
  | _ => True

/-- No operation takes the soundness of a state from it, whether it succeeds or fails. -/
theorem sound_run (sources : Sources) {operation : Operation} (admissible : operation.Named)
    (sound : state.Sound) (named : ids.Named) :
    (operation.run sources state ids).state.Sound := by
  cases operation with
  | add entry => exact sound_addCourse sound named sources.catalog entry
  | remove id => exact sound_removeCourse sound id
  | reclassify id bucket => exact sound_reclassify sound id bucket
  | cohort id => exact { sound with cohortId := admissible }
  | track id => exact sound_chooseTrack sound admissible
  | trackType declared => exact { sound with }
  | paste text => exact sound_importPaste sound named text
  | importSnapshot source => exact sound_importSnapshot sound named source
  | reset => exact PlannerState.sound_initial

end Operation
end Planner

end Operations

end DegreeAudit
