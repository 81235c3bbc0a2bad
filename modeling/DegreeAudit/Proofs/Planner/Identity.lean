import DegreeAudit.Proofs.Planner.Documents

namespace DegreeAudit

/-!
# Courses told apart

A course is removed by its id, and the courses that have it are all removed.  That is one course as
long as the ids are distinct.  An operation keeps them so if the ids it hands to new courses are new
and, where it takes a document for the state, if the document gives no id twice.  Nothing looks for
ids that a document repeats: the courses come into the state with the same id, and go together.
-/

/-- The ids of courses, in their order. -/
def idsOf (courses : List (Course Float)) : List String :=
  courses.map fun course => course.id

theorem idsOf_cons (course : Course Float) (courses : List (Course Float)) :
    idsOf (course :: courses) = course.id :: idsOf courses := rfl

theorem id_mem_idsOf {course : Course Float} {courses : List (Course Float)}
    (member : course ∈ courses) : course.id ∈ idsOf courses :=
  List.mem_map.mpr ⟨course, member, rfl⟩

/-- The next ids of a supply. -/
def IdSupply.nextIds (ids : IdSupply) : Nat -> List String
  | 0 => []
  | count + 1 => ids.next :: ids.rest.nextIds count

namespace Snapshot

/-- The id that an item gives to a course, as a text. -/
def givenId? : Json -> Option String
  | .object entries => givenText? "id" entries
  | _ => none

/-- The ids that a source gives to courses. -/
def givenIds (source : Source) : List String :=
  match source.document with
  | .ok document => ((courseList? document).getD []).filterMap givenId?
  | .error _ => []

end Snapshot

namespace Planner
namespace Operation

/-- The ids that the document of an operation gives to courses. -/
def givenIds : Operation -> List String
  | importSnapshot source => Snapshot.givenIds source
  | _ => []

/-- The ids that an operation takes from the supply. -/
def newIds (sources : Sources) (operation : Operation) (state : PlannerState) (ids : IdSupply) :
    List String :=
  ids.nextIds ((operation.run sources state ids).ids.taken - ids.taken)

end Operation
end Planner

section Incoming

/-! ## Ids that come into a state -/

theorem IdSupply.ids_assign (ids : IdSupply) (courses : List (CourseData Float)) :
    idsOf (ids.assign courses) = ids.nextIds courses.length := by
  induction courses generalizing ids with
  | nil => rfl
  | cons course courses inductionHypothesis =>
      exact congrArg (List.cons ids.next) (inductionHypothesis ids.rest)

namespace Snapshot

/-- The ids of the courses of a list are those that it gives, and new ones for the courses that
have none. -/
theorem ids_readCourses {track : Option Track} {ids : IdSupply} {items : List Json}
    {courses : List (Course Float)}
    (read : (readCourses track ids items).courses = .ok courses) :
    ∃ count, (readCourses track ids items).ids.taken = ids.taken + count
      ∧ (idsOf courses).Perm (ids.nextIds count ++ items.filterMap givenId?) := by
  fun_induction readCourses track ids items generalizing courses with
  | case1 ids =>
      rcases Except.ok.inj read with rfl
      exact ⟨0, rfl, List.Perm.nil⟩
  | case2 ids entries items failure failed => cases read
  | case3 ids entries items data given readHere first others =>
      rename_i inductionHypothesis
      rcases map_eq_ok.mp read with ⟨later, readLater, rfl⟩
      rcases inductionHypothesis readLater with ⟨count, taken, same⟩
      have identified : givenId? (.object entries) = given :=
        givenText?_of_textAt? (sound_of_readCourse readHere).2
      cases given with
      | some id =>
          rw [List.filterMap_cons_some identified]
          exact ⟨count, taken, (same.cons id).trans List.perm_middle.symm⟩
      | none =>
          rw [List.filterMap_cons_none identified]
          exact ⟨count + 1, taken.trans (Nat.add_right_comm _ _ _), same.cons ids.next⟩
  | case4 ids item items notObject others =>
      rename_i inductionHypothesis
      have silent : givenId? item = none := by
        unfold givenId?
        split
        · exact absurd rfl (notObject _)
        · rfl
      rw [List.filterMap_cons_none silent]
      exact inductionHypothesis read

theorem ids_ofDocument {requirements : Option (Requirements Float)} {base state : PlannerState}
    {ids : IdSupply} {document : Json}
    (succeeded : (ofDocument requirements base ids document).result = .ok (.ok state)) :
    ∃ count, (ofDocument requirements base ids document).ids.taken = ids.taken + count
      ∧ (idsOf state.courses).Perm
        (ids.nextIds count ++ ((courseList? document).getD []).filterMap givenId?) := by
  cases document with
  | object entries =>
      unfold ofDocument at succeeded ⊢
      unfold courseList?
      dsimp only at succeeded ⊢
      cases found : Json.lookup "courses" entries with
      | none =>
          rw [found] at succeeded
          cases succeeded
      | some value =>
          rw [found] at succeeded
          cases value with
          | list items =>
              unfold ofEntries at succeeded ⊢
              dsimp only at succeeded ⊢
              split at succeeded
              · cases succeeded
              · rcases map_eq_ok.mp succeeded with ⟨courses, read, finished⟩
                rcases Except.ok.inj finished with rfl
                exact ids_readCourses read
          | _ => cases succeeded
  | _ => cases succeeded

/-- What an accepted source leaves is the ids that it gives and new ones. -/
theorem ids_read {requirements : Option (Requirements Float)} {base state : PlannerState}
    {ids : IdSupply} {source : Source}
    (succeeded : (read requirements base ids source).result = .ok (.ok state)) :
    ∃ count, (read requirements base ids source).ids.taken = ids.taken + count
      ∧ (idsOf state.courses).Perm (ids.nextIds count ++ givenIds source) := by
  unfold givenIds
  unfold read at succeeded ⊢
  cases readable : source.document with
  | error fault =>
      rw [readable] at succeeded
      cases succeeded
  | ok document =>
      rw [readable] at succeeded
      exact ids_ofDocument succeeded

end Snapshot

end Incoming

section Steps

/-! ## What an operation does to the ids -/

namespace Planner

/-- What the ids before an operation become by it: some of them are left, or new ones come to them,
or they are replaced by those of a document and new ones. -/
inductive IdsChange (old new given : List String) : List String -> Prop where
  | fewer {left : List String} (kept : left.Sublist old) : IdsChange old new given left
  | more {left : List String} (added : left.Perm (new ++ old)) : IdsChange old new given left
  | replaced {left : List String} (taken : left.Perm (new ++ given)) : IdsChange old new given left

theorem IdsChange.same {old new given left : List String} (same : left = old) :
    IdsChange old new given left :=
  .fewer (same ▸ List.Sublist.refl _)

/-- What does not depend on buckets is the same after a course is moved to another. -/
theorem map_moveCourse {α : Type} {f : Course Float -> α}
    (ignores : forall course bucket, f { course with bucket } = f course) (id : String)
    (bucket : Bucket) (courses : List (Course Float)) :
    (PlannerState.moveCourse id bucket courses).map f = courses.map f := by
  induction courses with
  | nil => rfl
  | cons course courses inductionHypothesis =>
      unfold PlannerState.moveCourse
      split
      · rw [List.map_cons, List.map_cons, ignores]
      · exact congrArg (List.cons (f course)) inductionHypothesis

theorem map_moveToTrack {α : Type} {f : Course Float -> α}
    (ignores : forall course bucket, f { course with bucket } = f course) (track : Track)
    (courses : List (Course Float)) :
    (courses.map (moveToTrack track)).map f = courses.map f := by
  rw [List.map_map]
  apply List.map_congr_left
  intro course _
  change f (moveToTrack track course) = f course
  unfold moveToTrack
  split
  · exact ignores course .track
  · rfl

theorem ids_moveCourse (id : String) (bucket : Bucket) (courses : List (Course Float)) :
    idsOf (PlannerState.moveCourse id bucket courses) = idsOf courses :=
  map_moveCourse (fun _ _ => rfl) id bucket courses

theorem ids_moveToTrack (track : Track) (courses : List (Course Float)) :
    idsOf (courses.map (moveToTrack track)) = idsOf courses :=
  map_moveToTrack (fun _ _ => rfl) track courses

variable {state : PlannerState} {ids : IdSupply}

/-- The courses that are left without those of an id. -/
theorem ids_filter_sublist (id : String) (courses : List (Course Float)) :
    (idsOf (courses.filter fun other => other.id != id)).Sublist (idsOf courses) :=
  (List.filter_sublist).map _

theorem idsChange_addCourse (sources : Sources) (entry : Entry) :
    IdsChange (idsOf state.courses) ((Operation.add entry).newIds sources state ids) []
      (idsOf ((Operation.add entry).run sources state ids).state.courses) := by
  unfold Operation.newIds
  change IdsChange _ (ids.nextIds
    ((addCourse sources.requirements sources.catalog entry state ids).ids.taken - ids.taken)) _
    (idsOf (addCourse sources.requirements sources.catalog entry state ids).state.courses)
  unfold addCourse
  split
  · exact .same rfl
  · dsimp only [IdSupply.rest]
    rw [Nat.add_sub_cancel_left]
    exact .more (List.Perm.refl _)

theorem ids_importPaste (requirements : Option (Requirements Float)) (text : String) :
    ∃ count, (importPaste requirements text state ids).ids.taken = ids.taken + count
      ∧ idsOf (importPaste requirements text state ids).state.courses
        = (ids.nextIds count).reverse ++ idsOf state.courses := by
  unfold importPaste
  split
  · exact ⟨0, rfl, rfl⟩
  · refine ⟨_, rfl, ?_⟩
    dsimp only
    rw [<- IdSupply.ids_assign]
    unfold idsOf
    rw [List.map_append, List.map_reverse]

/-- Only a document that is accepted changes the state. -/
theorem ids_importSnapshot (requirements : Option (Requirements Float)) (source : Snapshot.Source) :
    ((importSnapshot requirements source state ids).result ≠ .ok none
        ∧ (importSnapshot requirements source state ids).state = state)
      ∨ ∃ count, (importSnapshot requirements source state ids).ids.taken = ids.taken + count
        ∧ (idsOf (importSnapshot requirements source state ids).state.courses).Perm
          (ids.nextIds count ++ Snapshot.givenIds source) := by
  unfold importSnapshot
  dsimp only
  split
  · exact Or.inl ⟨nofun, rfl⟩
  · exact Or.inl ⟨nofun, rfl⟩
  · rename_i imported succeeded
    exact Or.inr (Snapshot.ids_read succeeded)

/-- The ids after a document is taken for the state. -/
theorem ids_run_importSnapshot (sources : Sources) (source : Snapshot.Source) :
    (((Operation.importSnapshot source).run sources state ids).result ≠ .ok .nothing
        ∧ ((Operation.importSnapshot source).run sources state ids).state = state)
      ∨ (idsOf ((Operation.importSnapshot source).run sources state ids).state.courses).Perm
        ((Operation.importSnapshot source).newIds sources state ids
          ++ Snapshot.givenIds source) := by
  unfold Operation.newIds
  change ((importSnapshot sources.requirements source state ids).result.map _ ≠ _
      ∧ (importSnapshot sources.requirements source state ids).state = state)
    ∨ (idsOf (importSnapshot sources.requirements source state ids).state.courses).Perm
      (ids.nextIds ((importSnapshot sources.requirements source state ids).ids.taken - ids.taken)
        ++ Snapshot.givenIds source)
  rcases @ids_importSnapshot state ids sources.requirements source with
    ⟨refused, same⟩ | ⟨count, taken, same⟩
  · refine Or.inl ⟨?_, same⟩
    intro accepted
    rcases map_eq_ok.mp accepted with ⟨reason, result, nothing⟩
    cases reason with
    | none => exact refused result
    | some reason => cases nothing
  · rw [taken, Nat.add_sub_cancel_left]
    exact Or.inr same

namespace Operation

/-- Each operation changes the ids in one of the ways. -/
theorem idsChange_run (sources : Sources) (operation : Operation) :
    IdsChange (idsOf state.courses) (operation.newIds sources state ids) operation.givenIds
      (idsOf (operation.run sources state ids).state.courses) := by
  cases operation with
  | add entry => exact idsChange_addCourse sources entry
  | remove id =>
      refine .fewer ?_
      change (idsOf (removeCourse id state ids).state.courses).Sublist _
      unfold removeCourse
      split
      · exact List.Sublist.refl _
      · exact ids_filter_sublist id state.courses
  | reclassify id bucket =>
      refine .same ?_
      change idsOf (Planner.reclassify id bucket state ids).state.courses = _
      unfold Planner.reclassify
      split
      · rfl
      · exact ids_moveCourse id bucket state.courses
  | cohort id => exact .same rfl
  | track id =>
      refine .same ?_
      change idsOf (chooseTrack sources.requirements id state ids).state.courses = _
      unfold chooseTrack
      split
      · unfold changeTrack
        dsimp only
        split
        · rfl
        · exact ids_moveToTrack _ state.courses
      · rfl
  | trackType declared => exact .same rfl
  | paste text =>
      rcases @ids_importPaste state ids sources.requirements text with ⟨count, taken, same⟩
      unfold newIds
      change IdsChange _ (ids.nextIds
        ((importPaste sources.requirements text state ids).ids.taken - ids.taken)) _
        (idsOf (importPaste sources.requirements text state ids).state.courses)
      rw [taken, same, Nat.add_sub_cancel_left]
      exact .more ((List.reverse_perm _).append_right _)
  | importSnapshot source =>
      rcases @ids_run_importSnapshot state ids sources source with ⟨_, same⟩ | same
      · exact .same (congrArg (fun after => idsOf after.courses) same)
      · exact .replaced same
  | reset => exact .fewer (List.nil_sublist _)

/-- The ids that an operation takes from the supply are new, as far as the state and its document
go. -/
structure TakesNew (sources : Sources) (operation : Operation) (state : PlannerState)
    (ids : IdSupply) : Prop where
  distinct : (operation.newIds sources state ids).Nodup
  unused : forall id, id ∈ operation.newIds sources state ids ->
    id ∉ idsOf state.courses ∧ id ∉ operation.givenIds

/-- New ids do not meet those of a document, so it depends on these whether all are distinct. -/
theorem TakesNew.nodup_given_iff {sources : Sources} {operation : Operation}
    (new : operation.TakesNew sources state ids) :
    (operation.newIds sources state ids ++ operation.givenIds).Nodup
      ↔ operation.givenIds.Nodup := by
  rw [List.nodup_append']
  constructor
  · rintro ⟨_, given, _⟩
    exact given
  · intro given
    exact ⟨new.distinct, given, fun id taken held => (new.unused id taken).2 held⟩

/-- Ids stay distinct if new ones are new and a document gives none twice. -/
theorem nodup_run {sources : Sources} {operation : Operation}
    (new : operation.TakesNew sources state ids) (given : operation.givenIds.Nodup)
    (before : (idsOf state.courses).Nodup) :
    (idsOf (operation.run sources state ids).state.courses).Nodup := by
  cases @idsChange_run state ids sources operation with
  | fewer kept => exact before.sublist kept
  | more added =>
      refine added.nodup_iff.mpr (List.nodup_append'.mpr ⟨new.distinct, before, ?_⟩)
      exact fun id taken held => (new.unused id taken).1 held
  | replaced taken => exact taken.nodup_iff.mpr (new.nodup_given_iff.mpr given)

end Operation

end Planner

end Steps

section Removal

/-! ## Removing a course -/

namespace Planner

variable {state : PlannerState} {id : String}

/-- With distinct ids a course is the only one of its id. -/
theorem id_not_mem_idsOf {before after : List (Course Float)} {course : Course Float}
    (distinct : (idsOf (before ++ course :: after)).Nodup) :
    course.id ∉ idsOf (before ++ after) := by
  unfold idsOf at distinct
  rw [List.map_append, List.map_cons, List.nodup_middle, List.nodup_cons, <- List.map_append]
    at distinct
  exact distinct.1

theorem filter_id_ne {before after : List (Course Float)} {course : Course Float}
    (alone : course.id ∉ idsOf (before ++ after)) :
    (before ++ course :: after).filter (fun other => other.id != course.id)
      = before ++ after := by
  have others (other : Course Float) (member : other ∈ before ++ after) :
      (other.id != course.id) = true := by
    rw [bne_iff_ne]
    intro same
    exact alone (same ▸ id_mem_idsOf member)
  rw [List.filter_append, List.filter_cons_of_neg (by simp), <- List.filter_append]
  exact List.filter_eq_self.mpr others

/-- An id that is held is found at the first course that has it. -/
theorem exists_first_of_held (held : id ∈ idsOf state.courses) :
    ∃ before course after, state.courses = before ++ course :: after ∧ course.id = id
      ∧ id ∉ idsOf before ∧ state.course? id = some course := by
  have present : (state.course? id).isSome = true := by
    rcases List.mem_map.mp held with ⟨course, member, same⟩
    exact List.find?_isSome.mpr ⟨course, member, beq_iff_eq.mpr same⟩
  rcases Option.isSome_iff_exists.mp present with ⟨course, found⟩
  rcases List.find?_eq_some_iff_append.mp found with ⟨matched, before, after, split, earlier⟩
  refine ⟨before, course, after, split, beq_iff_eq.mp matched, ?_, found⟩
  intro listed
  rcases List.mem_map.mp listed with ⟨other, member, same⟩
  have unmatched := earlier other member
  rw [same, beq_self_eq_true] at unmatched
  cases unmatched

/-- Removing an id that is held takes one course out and leaves the others in their order. -/
theorem removeCourse_of_held (distinct : (idsOf state.courses).Nodup)
    (held : id ∈ idsOf state.courses) (ids : IdSupply) :
    ∃ before course after, state.courses = before ++ course :: after ∧ course.id = id
      ∧ removeCourse id state ids
        = {
            result := .ok course
            state := { state with courses := before ++ after }
            ids
            notices := []
          } := by
  rcases exists_first_of_held held with ⟨before, course, after, split, rfl, _, found⟩
  rw [split] at distinct
  refine ⟨before, course, after, split, rfl, ?_⟩
  rw [removeCourse, found, split, filter_id_ne (id_not_mem_idsOf distinct)]

end Planner

end Removal

section Runs

/-! ## Whole runs -/

namespace Planner

/-- The states that operations lead to from the initial one, where the ids that are handed out are
new and no document gives an id twice.  Each operation may have its own requirements, catalog and
ids; one that fails leads to the state that it leaves behind. -/
inductive ReachableApart : PlannerState -> Prop where
  | initial : ReachableApart PlannerState.initial
  | step {state : PlannerState} (reached : ReachableApart state) (sources : Sources)
      {operation : Operation} {ids : IdSupply} (new : operation.TakesNew sources state ids)
      (given : operation.givenIds.Nodup) :
      ReachableApart (operation.run sources state ids).state

theorem nodup_of_reachableApart {state : PlannerState} (reached : ReachableApart state) :
    (idsOf state.courses).Nodup := by
  induction reached with
  | initial => exact List.nodup_nil
  | step _ _ new given inductionHypothesis =>
      exact Operation.nodup_run new given inductionHypothesis

/-- In every state that operations lead to, as long as no document gives an id twice, the ids are
distinct, and removing one that is held takes out the one course that is returned and leaves the
others in their order.  A document is the only way for ids to meet: one that is accepted leaves them
distinct just if it gives none twice. -/
theorem removeCourse_of_reachableApart {state : PlannerState} (reached : ReachableApart state) :
    (idsOf state.courses).Nodup
      ∧ (forall id, id ∈ idsOf state.courses -> forall ids : IdSupply,
        ∃ before course after, state.courses = before ++ course :: after ∧ course.id = id
          ∧ removeCourse id state ids
            = {
                result := .ok course
                state := { state with courses := before ++ after }
                ids
                notices := []
              })
      ∧ forall (sources : Sources) (source : Snapshot.Source) (ids : IdSupply),
        (Operation.importSnapshot source).TakesNew sources state ids ->
        ((Operation.importSnapshot source).run sources state ids).result = .ok .nothing ->
          ((idsOf ((Operation.importSnapshot source).run sources state ids).state.courses).Nodup
            ↔ (Snapshot.givenIds source).Nodup) := by
  have distinct := nodup_of_reachableApart reached
  refine ⟨distinct, fun id held ids => removeCourse_of_held distinct held ids, ?_⟩
  intro sources source ids new accepted
  rcases @ids_run_importSnapshot state ids sources source with ⟨refused, _⟩ | same
  · exact absurd accepted refused
  rw [same.nodup_iff]
  exact new.nodup_given_iff

/-- A document with three courses, of which one has a whole number for its id and one has none. -/
def threeCourses : Snapshot.Source :=
  .value (.object [("courses", .list [
    .object [("id", .string "a"), ("code", .string "BS101")],
    .object [("id", .int 7), ("code", .string "BS101")],
    .object [("code", .string "BS101")]
  ])])

/-- The state of that document. -/
def threeHeld : PlannerState :=
  ((Operation.importSnapshot threeCourses).run ⟨none, none⟩ PlannerState.initial
    (IdSupply.random 0)).state

theorem reachableApart_threeHeld : ReachableApart threeHeld :=
  .step .initial ⟨none, none⟩ ⟨by decide, by decide⟩ (by decide)

theorem removeCourse_of_reachableApart_threeHeld :
    ReachableApart threeHeld
      ∧ (∃ before course after, threeHeld.courses = before ++ course :: after ∧ course.id = "7"
      ∧ removeCourse "7" threeHeld (IdSupply.random 1)
        = {
            result := .ok course
            state := { threeHeld with courses := before ++ after }
            ids := IdSupply.random 1
            notices := []
          })
      ∧ (idsOf ((Operation.importSnapshot threeCourses).run ⟨none, none⟩ threeHeld
        (IdSupply.random 1)).state.courses).Nodup := by
  rcases removeCourse_of_reachableApart reachableApart_threeHeld with ⟨_, removal, imports⟩
  have given : (Snapshot.givenIds threeCourses).Nodup := by decide +kernel
  refine ⟨reachableApart_threeHeld, removal "7" (by decide +kernel) _, ?_⟩
  exact (imports ⟨none, none⟩ threeCourses (IdSupply.random 1)
    ⟨by decide +kernel, by decide +kernel⟩ (by decide +kernel)).mpr given

/-- A document with two courses of the same id. -/
def repeatedId : Snapshot.Source :=
  .value (.object [("courses", .list [
    .object [("id", .string "a"), ("code", .string "BS101")],
    .object [("id", .string "a"), ("code", .string "BS103")]
  ])])

/-- The document is accepted and no id is taken from the supply, but of the two courses that are
held then none is left when one is removed. -/
theorem removeCourse_repeatedId :
    let outcome := (Operation.importSnapshot repeatedId).run ⟨none, none⟩ PlannerState.initial
      (IdSupply.random 0)
    outcome.result = .ok .nothing
      ∧ (Operation.importSnapshot repeatedId).newIds ⟨none, none⟩ PlannerState.initial
        (IdSupply.random 0) = []
      ∧ idsOf outcome.state.courses = ["a", "a"]
      ∧ (removeCourse "a" outcome.state (IdSupply.random 0)).state.courses = [] := by
  decide +kernel

end Planner

end Runs

end DegreeAudit
