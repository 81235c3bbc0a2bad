import DegreeAudit.Proofs.Audit.Indifference
import DegreeAudit.Proofs.Planner.Compounds
import DegreeAudit.Proofs.Storage.Loading

namespace DegreeAudit

/-!
# The spelling of a code

A code is compared in four places: with the codes of the catalog, with the families that tell its
bucket, with the codes of the lines of a transcript and with the codes of the requirements.  Each of
them normalizes it first.  A code that is entered is not normalized, and if it is compound its parts
are, each on its own; but two codes that are normalized alike are still entered as codes that are.

So states that differ in the spelling of codes, and in the ids of courses, take the same lines of
every transcript and have the same report, to the last bit of its sums.  They are never told apart
later either, by whatever operations that name no id.
-/

/-- What a course holds besides its id and the spelling of its code. -/
def CourseData.content (course : CourseData Float) : String × String × Float × Bucket :=
  (course.key, course.name, course.credits, course.bucket)

/-- What the courses of a list hold, in their order. -/
def contents (courses : List (Course Float)) : List (String × String × Float × Bucket) :=
  courses.map fun course => course.content

/-- States that nothing tells apart but the ids of courses and the spelling of their codes. -/
structure PlannerState.Alike (left right : PlannerState) : Prop where
  cohortId : left.cohortId = right.cohortId
  trackId : left.trackId = right.trackId
  trackType : left.trackType = right.trackType
  courses : contents left.courses = contents right.courses

/-- What is read from one document into states that are alike. -/
inductive Snapshot.ReadAlike :
    (first second : Except Planner.Failure (Except Reason PlannerState)) -> Prop where
  | failed (failure : Planner.Failure) : ReadAlike (.error failure) (.error failure)
  | refused (reason : Reason) : ReadAlike (.ok (.error reason)) (.ok (.error reason))
  | state {left right : PlannerState} (alike : left.Alike right) :
      ReadAlike (.ok (.ok left)) (.ok (.ok right))

section Codes

/-! ## Codes that are normalized alike -/

variable {code other : String} (same : normalizeCode code = normalizeCode other)

include same

theorem codeParts_congr : codeParts code = codeParts other := by
  rw [<- codeParts_normalizeCode code, same, codeParts_normalizeCode]

theorem Catalog.find?_congr (catalog : Catalog) : catalog.find? code = catalog.find? other := by
  rw [Catalog.find?, Catalog.find?, same]

theorem classify_congr (name : String) (track : Option Track) :
    classify code name track = classify other name track := by
  have answers (strategy : Classification.Strategy) :
      strategy.bucket? code name track = strategy.bucket? other name track := by
    cases strategy <;> simp only [Classification.Strategy.bucket?, same]
  simp only [classify, Classification.suggest, answers]

end Codes

section Contents

/-! ## What courses hold -/

theorem contents_eq (courses : List (Course Float)) :
    contents courses = (courses.map Course.toCourseData).map CourseData.content := by
  rw [List.map_map]
  rfl

/-- What is left of a course's content once it is put into the bucket of a track that it belongs
to. -/
def movedContent (track : Track) :
    String × String × Float × Bucket -> String × String × Float × Bucket
  | (key, name, credits, bucket) =>
      (key, name, credits,
        if bucket == .other && classify key name (some track) == .track then .track else bucket)

theorem content_moveToTrack (track : Track) (course : Course Float) :
    (Planner.moveToTrack track course).content = movedContent track course.content := by
  have suggested : classify course.code course.name (some track)
      = classify course.key course.name (some track) :=
    classify_congr (normalizeCode_normalizeCode course.code).symm course.name (some track)
  unfold Planner.moveToTrack Planner.joinsTrack movedContent
  rw [suggested]
  dsimp only [CourseData.content]
  split
  · rfl
  · rfl

/-- What the courses of a document hold does not depend on the ids that they are given. -/
theorem contents_readCourses (track : Option Track) (ids otherIds : IdSupply) (items : List Json) :
    (Snapshot.readCourses track ids items).courses.map contents
      = (Snapshot.readCourses track otherIds items).courses.map contents := by
  have added (courses : Except Planner.Failure (List (Course Float))) (course : Course Float) :
      (courses.map fun courses => course :: courses).map contents
        = (courses.map contents).map fun contents => course.content :: contents := by
    cases courses <;> rfl
  induction items generalizing ids otherIds with
  | nil => rfl
  | cons item items inductionHypothesis =>
      cases item with
      | object entries =>
          unfold Snapshot.readCourses
          cases Snapshot.readCourse track entries with
          | error failure => rfl
          | ok found =>
              rcases found with ⟨data, given⟩
              dsimp only
              rw [added, added, inductionHypothesis _ (if given.isSome then otherIds
                else otherIds.rest)]
              rfl
      | _ => exact inductionHypothesis ids otherIds

end Contents

namespace PlannerState.Alike

/-! ## States that are alike -/

theorem refl (state : PlannerState) : state.Alike state := ⟨rfl, rfl, rfl, rfl⟩

variable {left right : PlannerState} (alike : left.Alike right)

include alike

theorem keysOf : Planner.keysOf left.courses = Planner.keysOf right.courses := by
  have keys := congrArg (List.map Prod.fst) alike.courses
  rwa [contents, contents, List.map_map, List.map_map] at keys

theorem counted : (left.courses.map fun course => course.counted)
    = right.courses.map fun course => course.counted := by
  have counted := congrArg (List.map fun content => (content.1, content.2.2)) alike.courses
  rwa [contents, contents, List.map_map, List.map_map] at counted

theorem pasted (track : Option Track) (text : String) :
    Planner.pasted track left.courses text = Planner.pasted track right.courses text := by
  rw [Planner.pasted, Planner.pasted, alike.keysOf]

theorem activeTrack (requirements : Option (Requirements Float)) :
    Planner.activeTrack requirements left = Planner.activeTrack requirements right := by
  unfold Planner.activeTrack
  rw [alike.trackId]

theorem evaluate (requirements : Requirements Float) :
    Planner.evaluate requirements left = Planner.evaluate requirements right := by
  rw [Planner.evaluate, Planner.evaluate, alike.cohortId, alike.trackId, alike.trackType,
    (Audit.seenAlike_of_counted alike.counted).evaluate]

theorem readActive (requirements : Option (Requirements Float)) (entries : List (String × Json)) :
    Snapshot.readActive requirements entries left
      = Snapshot.readActive requirements entries right := by
  unfold Snapshot.readActive Snapshot.readChoices
  rw [alike.cohortId, alike.trackId, alike.trackType]

theorem heldAfter (track : Option Track) (text : String) (ids otherIds : IdSupply) :
    contents (Planner.heldAfter track left.courses text ids)
      = contents (Planner.heldAfter track right.courses text otherIds) := by
  rw [contents_eq, contents_eq, Planner.data_heldAfter, Planner.data_heldAfter, List.map_append,
    List.map_append, <- contents_eq, <- contents_eq, alike.courses, alike.pasted]

/-- A transcript gives both states the same courses, up to their ids, with the same counts and
remarks. -/
theorem importPaste (requirements : Option (Requirements Float)) (text : String)
    (ids otherIds : IdSupply) :
    let first := Planner.importPaste requirements text left ids
    let second := Planner.importPaste requirements text right otherIds
    (first.result.map fun result => (result.courses.map Course.toCourseData, result.counts))
        = (second.result.map fun result => (result.courses.map Course.toCourseData, result.counts))
      ∧ first.notices = second.notices
      ∧ first.state.Alike second.state := by
  dsimp only
  cases active : Planner.activeTrack requirements left with
  | error failure =>
      have failed := (alike.activeTrack requirements).symm.trans active
      rw [Planner.importPaste_of_failed active, Planner.importPaste_of_failed failed]
      exact ⟨rfl, rfl, alike⟩
  | ok track =>
      have stillActive := (alike.activeTrack requirements).symm.trans active
      rw [Planner.importPaste_of_active active, Planner.importPaste_of_active stillActive,
        alike.pasted]
      refine ⟨?_, rfl, alike.cohortId, alike.trackId, alike.trackType,
        alike.heldAfter track text ids otherIds⟩
      simp only [Except.map, Planner.data_assign]

theorem chooseTrack (requirements : Option (Requirements Float)) (id : String)
    (ids otherIds : IdSupply) :
    (Planner.chooseTrack requirements id left ids).state.Alike
      (Planner.chooseTrack requirements id right otherIds).state := by
  have moved (track : Track) (held : List (Course Float)) :
      contents (held.map (Planner.moveToTrack track))
        = (contents held).map (movedContent track) := by
    simp only [contents, List.map_map, Function.comp_def, content_moveToTrack]
  unfold Planner.chooseTrack Planner.changeTrack
  dsimp only
  split
  · split
    · exact ⟨alike.cohortId, rfl, alike.trackType, alike.courses⟩
    · refine ⟨alike.cohortId, rfl, alike.trackType, ?_⟩
      rw [moved, moved, alike.courses]
  · exact ⟨alike.cohortId, rfl, alike.trackType, alike.courses⟩

theorem ofDocument (requirements : Option (Requirements Float)) (document : Json)
    (ids otherIds : IdSupply) :
    Snapshot.ReadAlike (Snapshot.ofDocument requirements left ids document).result
      (Snapshot.ofDocument requirements right otherIds document).result := by
  unfold Snapshot.ofDocument
  split
  · rename_i entries
    split
    · rename_i items _
      unfold Snapshot.ofEntries
      rw [alike.readActive]
      split
      · exact .failed _
      · rename_i state track _
        dsimp only
        rcases map_eq_map (contents_readCourses track ids otherIds items) with
          ⟨failure, here, there⟩ | ⟨first, second, here, there, same⟩
        · rw [here, there]
          exact .failed failure
        · rw [here, there]
          exact .state ⟨rfl, rfl, rfl, same⟩
    · exact .refused _
  · exact .refused _

theorem importSnapshot (requirements : Option (Requirements Float)) (source : Snapshot.Source)
    (ids otherIds : IdSupply) :
    (Planner.importSnapshot requirements source left ids).state.Alike
      (Planner.importSnapshot requirements source right otherIds).state := by
  have read : Snapshot.ReadAlike (Snapshot.read requirements left ids source).result
      (Snapshot.read requirements right otherIds source).result := by
    unfold Snapshot.read
    cases source.document with
    | error fault => exact .refused _
    | ok document => exact alike.ofDocument requirements document ids otherIds
  unfold Planner.importSnapshot
  dsimp only
  generalize (Snapshot.read requirements left ids source).result = first at read ⊢
  generalize (Snapshot.read requirements right otherIds source).result = second at read ⊢
  cases read with
  | failed failure => exact alike
  | refused reason => exact alike
  | state imported => exact imported

end PlannerState.Alike

namespace Planner

section Entries

/-! ## Courses that are entered -/

/-- The code of a course that is entered under a code. -/
def enteredCode (code : String) : String :=
  if (normalizeCompound code).isEmpty then defaultCode else normalizeCompound code

variable {code other : String} (same : normalizeCode code = normalizeCode other)

include same

/-- Codes that are normalized alike are entered as codes that are. -/
theorem normalizeCode_enteredCode :
    normalizeCode (enteredCode code) = normalizeCode (enteredCode other) := by
  have parts := codeParts_congr same
  have empty : normalizeCompound code = "" ↔ normalizeCompound other = "" := by
    rw [normalizeCompound_eq_empty_iff, normalizeCompound_eq_empty_iff, parts]
  unfold enteredCode
  simp only [String.isEmpty_iff, empty]
  split
  · rfl
  · rw [normalizeCode_normalizeCompound, normalizeCode_normalizeCompound, parts]

variable {left right : PlannerState} (alike : left.Alike right)
  (requirements : Option (Requirements Float)) (catalog : Option Catalog) (name : String)
  (credits : Json) (bucket : Option String)

include alike

theorem content_of_entry :
    (Entry.course requirements catalog ⟨code, name, credits, bucket⟩ left).map CourseData.content
      = (Entry.course requirements catalog ⟨other, name, credits, bucket⟩ right).map
        CourseData.content := by
  have entered := normalizeCode_enteredCode same
  unfold enteredCode at entered
  unfold Entry.course
  dsimp only
  generalize (if (normalizeCompound code).isEmpty then defaultCode else normalizeCompound code)
    = first at entered ⊢
  generalize (if (normalizeCompound other).isEmpty then defaultCode else normalizeCompound other)
    = second at entered ⊢
  have completed (name : String) (credits : Json) (bucket : Bucket) :
      (creditsOf credits >>= fun credits => pure ⟨first, name, credits, bucket⟩).map
          CourseData.content
        = (creditsOf credits >>= fun credits => pure ⟨second, name, credits, bucket⟩).map
          CourseData.content := by
    cases creditsOf credits with
    | error failure => rfl
    | ok amount =>
        have key : CourseData.content ⟨first, name, amount, bucket⟩
            = CourseData.content ⟨second, name, amount, bucket⟩ := by
          simp only [CourseData.content, CourseData.key, entered]
        exact congrArg Except.ok key
  -- whatever else looks at the code normalizes it first
  simp only [Catalog.find?_congr entered, classify_congr entered, alike.activeTrack requirements]
  cases bucket.bind Bucket.read? with
  | some named => exact completed _ _ named
  | none =>
      cases activeTrack requirements right with
      | error failure => rfl
      | ok track => exact completed _ _ _

/-- The states after either code is entered are alike, and so are the courses. -/
theorem alike_addCourse (ids otherIds : IdSupply) :
    let first := addCourse requirements catalog ⟨code, name, credits, bucket⟩ left ids
    let second := addCourse requirements catalog ⟨other, name, credits, bucket⟩ right otherIds
    (first.result.map fun course => course.content)
        = (second.result.map fun course => course.content)
      ∧ first.state.Alike second.state := by
  unfold addCourse
  rcases map_eq_map (content_of_entry same alike requirements catalog name credits bucket) with
    ⟨failure, here, there⟩ | ⟨first, second, here, there, content⟩
  · rw [here, there]
    exact ⟨rfl, alike⟩
  · rw [here, there]
    exact ⟨congrArg Except.ok content, alike.cohortId, alike.trackId, alike.trackType,
      congrArg₂ List.cons content alike.courses⟩

end Entries

section Sequences

/-! ## Sequences of operations -/

/-- Operations that name no id and differ at most in the spelling of a code that is entered. -/
inductive Operation.Respelled : (first second : Operation) -> Prop where
  | add {code other : String} (same : normalizeCode code = normalizeCode other) (name : String)
      (credits : Json) (bucket : Option String) :
      Respelled (.add ⟨code, name, credits, bucket⟩) (.add ⟨other, name, credits, bucket⟩)
  | cohort (id : String) : Respelled (.cohort id) (.cohort id)
  | track (id : String) : Respelled (.track id) (.track id)
  | trackType (declared : TrackType) : Respelled (.trackType declared) (.trackType declared)
  | paste (text : String) : Respelled (.paste text) (.paste text)
  | importSnapshot (source : Snapshot.Source) :
      Respelled (.importSnapshot source) (.importSnapshot source)
  | reset : Respelled .reset .reset

variable {sources : Sources} {left right : PlannerState}

theorem alike_run {first second : Operation} (respelled : first.Respelled second)
    (alike : left.Alike right) (ids otherIds : IdSupply) :
    (first.run sources left ids).state.Alike (second.run sources right otherIds).state := by
  cases respelled with
  | add same name credits bucket =>
      exact (alike_addCourse same alike sources.requirements sources.catalog name credits bucket ids
        otherIds).2
  | cohort id => exact { alike with cohortId := rfl }
  | track id => exact alike.chooseTrack sources.requirements id ids otherIds
  | trackType declared => exact { alike with trackType := rfl }
  | paste text => exact (alike.importPaste sources.requirements text ids otherIds).2.2
  | importSnapshot source => exact alike.importSnapshot sources.requirements source ids otherIds
  | reset => exact .refl PlannerState.initial

/-- Sequences of operations in other spellings lead to states that are alike. -/
theorem alike_stateAfter {first second : List Operation}
    (respelled : List.Forall₂ Operation.Respelled first second) (alike : left.Alike right)
    (ids otherIds : IdSupply) :
    (Operation.stateAfter sources first left ids).Alike
      (Operation.stateAfter sources second right otherIds) := by
  induction respelled generalizing left right ids otherIds with
  | nil => exact alike
  | cons here _ inductionHypothesis =>
      exact inductionHypothesis (alike_run here alike ids otherIds) _ _

end Sequences

section Respelling

/-! ## Two spellings of a code -/

/-- A course that is entered under either of two codes that are normalized alike has the same key,
name, credits and bucket.  Afterwards the same lines of every transcript are taken and skipped, and
the report is the same. -/
theorem addCourse_respelled {document : Json} {requirements : Requirements Float}
    (given : (Requirements.ofDocument document).outcome = .ok requirements)
    {code other : String} (same : normalizeCode code = normalizeCode other)
    (catalog : Option Catalog) (name : String) (credits : Json) (bucket : Option String)
    (state : PlannerState) (ids otherIds : IdSupply) :
    let first := addCourse (some requirements) catalog ⟨code, name, credits, bucket⟩ state ids
    let second := addCourse (some requirements) catalog ⟨other, name, credits, bucket⟩ state
      otherIds
    (first.result.map fun course => course.content)
        = (second.result.map fun course => course.content)
      ∧ (¬ credits.TooLarge -> ∃ course, first.result = .ok course)
      ∧ (forall (track : Option Track) (text : String),
        Transcript.read track (first.state.courses.map fun course => course.code) text.toList
          = Transcript.read track (second.state.courses.map fun course => course.code) text.toList)
      ∧ (forall (text : String) (supply otherSupply : IdSupply),
        let forth := importPaste (some requirements) text first.state supply
        let back := importPaste (some requirements) text second.state otherSupply
        (∃ imported, forth.result = .ok imported)
          ∧ (forth.result.map fun imported =>
              (imported.courses.map Course.toCourseData, imported.counts))
            = (back.result.map fun imported =>
              (imported.courses.map Course.toCourseData, imported.counts))
          ∧ forth.notices = back.notices)
      ∧ ∃ report, evaluate requirements first.state = .ok report
        ∧ evaluate requirements second.state = .ok report := by
  intro first second
  rcases Requirements.present_ofDocument given with ⟨cohorts, tracks⟩
  have tracked := tracked_some tracks
  obtain ⟨content, alike⟩ : _ ∧ first.state.Alike second.state :=
    alike_addCourse same (.refl state) (some requirements) catalog name credits bucket ids otherIds
  refine ⟨content, ?_, ?_, ?_, ?_⟩
  · intro moderate
    obtain ⟨course, entered⟩ : ∃ course, Entry.course (some requirements) catalog
        ⟨code, name, credits, bucket⟩ state = .ok course :=
      exists_course tracked moderate catalog state
    refine ⟨course.withId ids.next, ?_⟩
    change (addCourse _ _ _ _ _).result = _
    unfold addCourse
    rw [entered]
  · intro track text
    rw [read_eq_pasted, read_eq_pasted]
    exact alike.pasted track text
  · intro text supply otherSupply
    rcases exists_activeTrack tracked first.state with ⟨track, active⟩
    rcases alike.importPaste (some requirements) text supply otherSupply with ⟨data, notices, _⟩
    exact ⟨⟨_, congrArg Outcome.result (importPaste_of_active active text supply)⟩, data, notices⟩
  · rcases exists_report cohorts tracks first.state with ⟨report, evaluated⟩
    exact ⟨report, evaluated, (alike.evaluate requirements).symm.trans evaluated⟩

/-- A compound code as `alley` is, in other letters and with other blanks around it. -/
def street : String := "\tSTRASSe +\tfI205 "

/-- A course that is entered under either of them counts as the same. -/
theorem addCourse_respelled_street :
    normalizeCode alley = normalizeCode street
      ∧ ∃ requirements, (Requirements.ofDocument sampleDocument).outcome = .ok requirements
        ∧ (let first := addCourse (some requirements) none ⟨alley, "", .null, none⟩
            PlannerState.initial (IdSupply.random 0)
          let second := addCourse (some requirements) none ⟨street, "", .null, none⟩
            PlannerState.initial (IdSupply.random 1)
          (∃ course, first.result = .ok course)
            ∧ (first.result.map fun course => course.content)
              = (second.result.map fun course => course.content)
            ∧ ∃ report, evaluate requirements first.state = .ok report
              ∧ evaluate requirements second.state = .ok report) := by
  have same : normalizeCode alley = normalizeCode street := by decide +kernel
  obtain ⟨requirements, given⟩ :
      ∃ requirements, (Requirements.ofDocument sampleDocument).outcome = .ok requirements :=
    ⟨_, rfl⟩
  rcases addCourse_respelled given same none "" .null none PlannerState.initial
    (IdSupply.random 0) (IdSupply.random 1) with ⟨content, added, _, _, report⟩
  exact ⟨same, requirements, given, added not_false, content, report⟩

end Respelling

end Planner

end DegreeAudit
