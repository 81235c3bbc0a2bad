import DegreeAudit.Proofs.Planner.Failures
import DegreeAudit.Proofs.Planner.Identity

namespace DegreeAudit
namespace Planner

/-!
# Taking back what was added

Courses that come into a state with new ids can be taken out of it again, one by one and in any
order, and then the state is what it was.  Removal goes by the id alone, so it matters that no other
course has the id of a course that was added.  The courses that were there before may well share
their ids among themselves: none of them is touched.
-/

/-- Courses removed one after another, each by its id. -/
def removals (courses : List (Course Float)) : List Operation :=
  courses.map fun course => .remove course.id

/-- A course is among others and is the only one of its id. -/
structure OnlyOfId (courses : List (Course Float)) (course : Course Float) : Prop where
  held : course ∈ courses
  alone : forall other, other ∈ courses -> other.id = course.id -> other = course

section One

/-! ## One course -/

variable {state : PlannerState} {course : Course Float}

theorem course?_of_only (only : OnlyOfId state.courses course) :
    state.course? course.id = some course := by
  rcases exists_first_of_held (id_mem_idsOf only.held) with
    ⟨before, first, after, split, same, _, found⟩
  have member : first ∈ state.courses := by
    rw [split]
    exact List.mem_append_right before List.mem_cons_self
  rw [found, only.alone first member same]

theorem removeCourse_of_only (only : OnlyOfId state.courses course) (ids : IdSupply) :
    removeCourse course.id state ids
      = {
          result := .ok course
          state :=
            { state with courses := state.courses.filter fun other => other.id != course.id }
          ids
          notices := []
        } := by
  rw [removeCourse, course?_of_only only]

theorem onlyOfId_of_front {front courses : List (Course Float)} (distinct : (idsOf front).Nodup)
    (unused : forall id, id ∈ idsOf front -> id ∉ idsOf courses) (member : course ∈ front) :
    OnlyOfId (front ++ courses) course where
  held := List.mem_append_left courses member
  alone := by
    intro other held same
    rcases List.mem_append.mp held with added | old
    · exact List.inj_on_of_nodup_map distinct added member same
    · exact absurd (same ▸ id_mem_idsOf old) (unused course.id (id_mem_idsOf member))

/-- A course is still the only one of its id when another one is removed. -/
theorem OnlyOfId.filter {courses : List (Course Float)} (only : OnlyOfId courses course)
    {id : String} (apart : course.id ≠ id) :
    OnlyOfId (courses.filter fun other => other.id != id) course where
  held := List.mem_filter.mpr ⟨only.held, bne_iff_ne.mpr apart⟩
  alone := fun other member => only.alone other (List.mem_of_mem_filter member)

theorem removeCourse_of_first (unused : course.id ∉ idsOf state.courses) (ids : IdSupply) :
    removeCourse course.id { state with courses := course :: state.courses } ids
      = { result := .ok course, state, ids, notices := [] } := by
  have found : ({ state with courses := course :: state.courses }).course? course.id
      = some course :=
    List.find?_cons_of_pos (beq_self_eq_true course.id)
  have kept : ((course :: state.courses).filter fun other => other.id != course.id)
      = state.courses :=
    @filter_id_ne [] state.courses course unused
  rw [removeCourse, found, kept]

end One

section Several

/-! ## Several courses -/

variable (sources : Sources)

/-- Courses that are the only ones of their ids are removed in any order, each removal returning its
course, and leave the courses of other ids as they are. -/
theorem runAll_removals {order : List (Course Float)} (distinct : (idsOf order).Nodup)
    (state : PlannerState) (ids : IdSupply)
    (only : forall course, course ∈ order -> OnlyOfId state.courses course) :
    ((Operation.runAll sources (removals order) state ids).map fun outcome => outcome.result)
        = order.map (fun course => .ok (.course course))
      ∧ Operation.stateAfter sources (removals order) state ids
        = { state with
            courses := state.courses.filter fun other => decide (other.id ∉ idsOf order) } := by
  induction order generalizing state with
  | nil =>
      have all : (state.courses.filter fun other => decide (other.id ∉ idsOf [])) = state.courses :=
        List.filter_eq_self.mpr fun _ _ => decide_eq_true List.not_mem_nil
      rw [all]
      exact ⟨rfl, rfl⟩
  | cons course order inductionHypothesis =>
      rw [idsOf_cons, List.nodup_cons] at distinct
      rcases distinct with ⟨new, distinct⟩
      have removed := removeCourse_of_only (only course List.mem_cons_self) ids
      -- those that are still to go remain the only ones of their ids
      have left (other : Course Float) (member : other ∈ order) :
          OnlyOfId (state.courses.filter fun other => other.id != course.id) other := by
        apply (only other (List.mem_cons_of_mem course member)).filter
        intro same
        exact new (same ▸ id_mem_idsOf member)
      rcases inductionHypothesis distinct
        { state with courses := state.courses.filter fun other => other.id != course.id } left with
        ⟨results, after⟩
      have first : (Operation.remove course.id).run sources state ids
          = (removeCourse course.id state ids).map .course := rfl
      rw [removals, List.map_cons, Operation.runAll, Operation.stateAfter, first, removed]
      constructor
      · exact congrArg (List.cons (.ok (.course course))) results
      · refine after.trans ?_
        dsimp only
        rw [List.filter_filter]
        congr 2
        funext other
        rw [Bool.eq_iff_iff]
        simp only [Bool.and_eq_true, bne_iff_ne, decide_eq_true_iff, idsOf_cons,
          List.mem_cons, not_or, and_comm]

/-- Courses with new ids that stand before others are removed in any order, and the others are
left. -/
theorem stateAfter_removals {front order : List (Course Float)} {state : PlannerState}
    (distinct : (idsOf front).Nodup)
    (unused : forall id, id ∈ idsOf front -> id ∉ idsOf state.courses) (any : order.Perm front)
    (ids : IdSupply) :
    let added := { state with courses := front ++ state.courses }
    ((Operation.runAll sources (removals order) added ids).map fun outcome => outcome.result)
        = order.map (fun course => .ok (.course course))
      ∧ Operation.stateAfter sources (removals order) added ids = state := by
  have sameIds : (idsOf order).Perm (idsOf front) := any.map _
  have only (course : Course Float) (member : course ∈ order) :
      OnlyOfId (front ++ state.courses) course :=
    onlyOfId_of_front distinct unused (any.mem_iff.mp member)
  have gone : (front.filter fun other => decide (other.id ∉ idsOf order)) = [] := by
    apply List.filter_eq_nil_iff.mpr
    intro course member
    rw [decide_eq_true_iff, not_not, sameIds.mem_iff]
    exact id_mem_idsOf member
  have kept : (state.courses.filter fun other => decide (other.id ∉ idsOf order))
      = state.courses := by
    apply List.filter_eq_self.mpr
    intro course member
    rw [decide_eq_true_iff, sameIds.mem_iff]
    intro added
    exact unused course.id added (id_mem_idsOf member)
  rcases runAll_removals sources (sameIds.nodup_iff.mpr distinct)
    { state with courses := front ++ state.courses } ids only with ⟨results, after⟩
  refine ⟨results, after.trans ?_⟩
  dsimp only
  rw [List.filter_append, gone, kept, List.nil_append]

end Several

section Additions

/-! ## What was added -/

variable {sources : Sources} {state : PlannerState} {ids : IdSupply}

/-- A paste puts its courses before the others, the last one first, with the ids that it takes. -/
theorem importPaste_eq_ok {text : String} {paste : PasteResult}
    (imported : (importPaste sources.requirements text state ids).result = .ok paste) :
    idsOf paste.courses = (Operation.paste text).newIds sources state ids
      ∧ (importPaste sources.requirements text state ids).state
        = { state with courses := paste.courses.reverse ++ state.courses } := by
  cases active : activeTrack sources.requirements state with
  | error failure =>
      rw [importPaste_of_failed active] at imported
      cases imported
  | ok track =>
      have outcome := importPaste_of_active active text ids
      rw [outcome] at imported
      rcases Except.ok.inj imported with rfl
      constructor
      · change _ = ids.nextIds ((importPaste sources.requirements text state ids).ids.taken - _)
        rw [outcome, IdSupply.ids_assign]
        exact congrArg ids.nextIds (Nat.add_sub_cancel_left _ _).symm
      · rw [outcome]
        rfl

/-- A course that is entered by hand comes before the others, with the id that it takes. -/
theorem addCourse_eq_ok {entry : Entry} {course : Course Float}
    (accepted : (addCourse sources.requirements sources.catalog entry state ids).result
      = .ok course) :
    [course.id] = (Operation.add entry).newIds sources state ids
      ∧ (addCourse sources.requirements sources.catalog entry state ids).state
        = { state with courses := course :: state.courses } := by
  change [course.id] = ids.nextIds
      ((addCourse sources.requirements sources.catalog entry state ids).ids.taken - ids.taken) ∧ _
  rw [addCourse] at accepted ⊢
  cases entered : entry.course sources.requirements sources.catalog state with
  | error failure =>
      rw [entered] at accepted
      cases accepted
  | ok data =>
      rw [entered] at accepted
      rcases Except.ok.inj accepted with rfl
      refine ⟨?_, rfl⟩
      dsimp only [IdSupply.rest]
      rw [Nat.add_sub_cancel_left]
      rfl

end Additions

/-- With new ids, the courses of a paste can be removed in any order: every removal succeeds, with
the course as its result, and in the end the state is the one before the paste.  So can a course
that is entered by hand.  A paste has its result whenever the requirements have a track to fall back
on. -/
theorem removals_undo (sources : Sources) (state : PlannerState) (ids : IdSupply) :
    (forall text paste,
      let imported := importPaste sources.requirements text state ids
      imported.result = .ok paste -> (Operation.paste text).TakesNew sources state ids ->
        forall order : List (Course Float), order.Perm paste.courses ->
          ((Operation.runAll sources (removals order) imported.state imported.ids).map
              fun outcome => outcome.result)
            = order.map (fun course => .ok (.course course))
          ∧ Operation.stateAfter sources (removals order) imported.state imported.ids = state)
      ∧ (forall entry course,
        let entered := addCourse sources.requirements sources.catalog entry state ids
        entered.result = .ok course -> (Operation.add entry).TakesNew sources state ids ->
          removeCourse course.id entered.state entered.ids
            = { result := .ok course, state, ids := entered.ids, notices := [] })
      ∧ forall text,
        (forall given, sources.requirements = some given -> given.tracks ≠ []) ->
          ∃ paste, (importPaste sources.requirements text state ids).result = .ok paste := by
  refine ⟨?_, ?_, ?_⟩
  · intro text paste imported succeeded new order any
    rcases importPaste_eq_ok succeeded with ⟨taken, after⟩
    have sameIds : idsOf paste.courses.reverse
        = ((Operation.paste text).newIds sources state ids).reverse := by
      rw [← taken, idsOf, idsOf, List.map_reverse]
    have distinct : (idsOf paste.courses.reverse).Nodup := by
      rw [sameIds, List.nodup_reverse]
      exact new.distinct
    dsimp only [imported]
    rw [after]
    apply stateAfter_removals sources distinct _ (any.trans (List.reverse_perm _).symm)
    intro id listed
    rw [sameIds, List.mem_reverse] at listed
    exact (new.unused id listed).1
  · intro entry course entered succeeded new
    rcases addCourse_eq_ok succeeded with ⟨taken, after⟩
    have unused : course.id ∉ idsOf state.courses := by
      refine (new.unused course.id ?_).1
      rw [← taken]
      exact List.mem_singleton_self course.id
    dsimp only [entered]
    rw [after]
    exact removeCourse_of_first unused _
  · intro text tracked
    cases result : (importPaste sources.requirements text state ids).result with
    | ok paste => exact ⟨paste, rfl⟩
    | error failure => exact absurd result (importPaste_ne_error tracked text)

/-- A transcript with three codes. -/
def winter : String := "AB101\tAlgebra\t3.0\tA+\nCD202\tCalculus 2\t3.0\tB0\nEF303\tLogic\t2.0\tA0"

/-- The state of a document that gives two courses the same id. -/
def idTwice : PlannerState :=
  ((Operation.importSnapshot repeatedId).run ⟨none, none⟩ PlannerState.initial
    (IdSupply.random 0)).state

/-- A course that nothing but its code is said of. -/
def codeAlone : Entry := { code := "AB101", name := "", credits := .null, bucket := none }

theorem removals_undo_idTwice :
    idsOf idTwice.courses = ["a", "a"]
      ∧ (Operation.paste winter).TakesNew ⟨none, none⟩ idTwice (IdSupply.random 0)
      ∧ (∃ paste,
        let imported := importPaste none winter idTwice (IdSupply.random 0)
        imported.result = .ok paste
          ∧ paste.courses.map (fun course => course.code) = ["AB101", "CD202", "EF303"]
          ∧ (paste.courses.rotate 1).Perm paste.courses
          ∧ Operation.stateAfter ⟨none, none⟩ (removals (paste.courses.rotate 1)) imported.state
            imported.ids = idTwice)
      ∧ (Operation.add codeAlone).TakesNew ⟨none, none⟩ idTwice (IdSupply.random 0)
      ∧ ∃ course,
        let entered := addCourse none none codeAlone idTwice (IdSupply.random 0)
        entered.result = .ok course
          ∧ (removeCourse course.id entered.state entered.ids).state = idTwice := by
  rcases removals_undo ⟨none, none⟩ idTwice (IdSupply.random 0) with ⟨pasted, entered, succeeds⟩
  have newlyPasted : (Operation.paste winter).TakesNew ⟨none, none⟩ idTwice (IdSupply.random 0) :=
    ⟨by decide +kernel, by decide +kernel⟩
  have newlyEntered :
      (Operation.add codeAlone).TakesNew ⟨none, none⟩ idTwice (IdSupply.random 0) :=
    ⟨by decide +kernel, by decide +kernel⟩
  refine ⟨by decide +kernel, newlyPasted, ?_, newlyEntered, ?_⟩
  · rcases succeeds winter (fun given none => nomatch none) with ⟨paste, imported⟩
    have codes : (importPaste none winter idTwice (IdSupply.random 0)).result.map
        (fun paste => paste.courses.map fun course => course.code)
          = .ok ["AB101", "CD202", "EF303"] := by
      decide +kernel
    refine ⟨paste, imported, ?_, List.rotate_perm paste.courses 1, ?_⟩
    · rw [imported] at codes
      exact Except.ok.inj codes
    · exact (pasted winter paste imported newlyPasted _ (List.rotate_perm paste.courses 1)).2
  · have accepted : ∃ course,
        (addCourse none none codeAlone idTwice (IdSupply.random 0)).result = .ok course :=
      ⟨_, rfl⟩
    rcases accepted with ⟨course, accepted⟩
    refine ⟨course, accepted, ?_⟩
    rw [entered codeAlone course accepted newlyEntered]

end Planner
end DegreeAudit
