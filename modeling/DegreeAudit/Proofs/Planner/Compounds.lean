import DegreeAudit.Proofs.Planner.Documents
import DegreeAudit.Proofs.Planner.Repasting
import DegreeAudit.Proofs.Requirement.Options

namespace DegreeAudit
namespace Planner

/-!
# Entering what a requirement asks for

A requirement that asks for one option is met once a course is entered whose code has the parts of
the option, in whatever spelling either of them is written, and whatever else is said of the course.
The requirement stays met as long as no course is taken away.
-/

section Options

/-! ## The option of a text -/

variable {text : String} {courses : List (Course Float)}

theorem splitCompound_ne_nil (said : codeParts text ≠ []) : splitCompound text ≠ [] := by
  rw [<- map_normalizeCode_splitCompound] at said
  exact fun nothing => said (List.map_eq_nil_iff.mpr nothing)

/-- A text with a part that is not blank writes one option. -/
theorem options_ofTexts (said : codeParts text ≠ []) :
    (AnyOf.ofTexts [text]).options = [splitCompound text] := by
  have something := List.isEmpty_eq_false_iff.mpr (splitCompound_ne_nil said)
  unfold AnyOf.ofTexts
  rw [List.map_singleton, List.filter_singleton, something]
  rfl

/-- An option is held once its parts are held under their compound code. -/
theorem check_of_key (said : codeParts text ≠ [])
    (held : normalizeCode (joinCompound (codeParts text)) ∈ keysOf courses) :
    (AnyOf.ofTexts [text]).check courses = true := by
  have option : AnyOf.optionHeld courses (splitCompound text) = true := by
    apply optionHeld_of_key (splitCompound_ne_nil said)
    rwa [Audit.Held, map_normalizeCode_splitCompound, mem_heldKeys_iff]
  rw [AnyOf.check, options_ofTexts said, List.any_cons, option]
  rfl

end Options

section Entries

/-! ## A course that is entered -/

variable {requirements : Option (Requirements Float)} {catalog : Option Catalog} {entry : Entry}
  {state : PlannerState}

/-- The code of a course is the one that is entered, unless that says nothing. -/
theorem code_of_entry (said : codeParts entry.code ≠ []) {course : CourseData Float}
    (entered : entry.course requirements catalog state = .ok course) :
    course.code = normalizeCompound entry.code := by
  have something : (normalizeCompound entry.code).isEmpty = false := by
    rw [Bool.eq_false_iff, Ne, String.isEmpty_iff]
    intro nothing
    exact normalizeCompound_ne_nil said (by rw [nothing]; rfl)
  rw [(parts_of_entry entered).1, something]
  rfl

/-- No course comes of an entry just if its credits are too large, if there is a track to fall back
on. -/
theorem course_eq_error_iff
    (tracked : forall given, requirements = some given -> given.tracks ≠ [])
    (catalog : Option Catalog) (state : PlannerState) (failure : Failure) :
    entry.course requirements catalog state = .error failure
      ↔ failure = .creditsTooLarge ∧ entry.credits.TooLarge := by
  have completed {code name : String} {credits : Json} {bucket : Bucket} :
      (creditsOf credits >>= fun credits =>
          (.ok { code, name, credits, bucket } : Except Failure (CourseData Float)))
        = .error failure ↔ failure = .creditsTooLarge ∧ credits.TooLarge := by
    rw [<- creditsOf_eq_error_iff]
    cases creditsOf credits with
    | ok amount => exact iff_of_false nofun nofun
    | error cause => exact ⟨fun same => congrArg Except.error (Except.error.inj same),
        fun same => congrArg Except.error (Except.error.inj same)⟩
  rcases exists_activeTrack tracked state with ⟨track, active⟩
  unfold Entry.course
  rw [active]
  dsimp only
  split
  all_goals
    refine completed.trans (and_congr_right fun _ => ?_)
    -- credits that are not given are those of the catalog or the usual ones, which are real numbers
    split
    · rename_i absent _
      simp [absent, Json.TooLarge]
    · rename_i absent _
      simp [absent, Json.TooLarge]
    · exact Iff.rfl

/-- A course comes of every other entry. -/
theorem exists_course (tracked : forall given, requirements = some given -> given.tracks ≠ [])
    (moderate : ¬ entry.credits.TooLarge) (catalog : Option Catalog) (state : PlannerState) :
    ∃ course, entry.course requirements catalog state = .ok course := by
  cases entered : entry.course requirements catalog state with
  | ok course => exact ⟨course, rfl⟩
  | error failure =>
      exact absurd ((course_eq_error_iff tracked catalog state failure).mp entered).2 moderate

/-- A course is held under the compound of the normalized parts that are entered. -/
theorem key_mem_addCourse (said : codeParts entry.code ≠ []) {ids : IdSupply}
    {course : Course Float}
    (added : (addCourse requirements catalog entry state ids).result = .ok course) :
    normalizeCode (joinCompound (codeParts entry.code))
      ∈ keysOf (addCourse requirements catalog entry state ids).state.courses := by
  cases entered : entry.course requirements catalog state with
  | error failure =>
      unfold addCourse at added
      rw [entered] at added
      cases added
  | ok data =>
      unfold addCourse
      rw [entered, <- normalizeCode_normalizeCompound, <- code_of_entry said entered]
      exact List.mem_cons_self

end Entries

section Met

/-! ## The requirement -/

/-- A text with a part that is not blank asks for one option, and a course that is entered under a
code with the same normalized parts meets it.  It stays met through every operation that takes no
course away.  Nothing but its credits or a lack of tracks keeps a course from being entered. -/
theorem check_of_addCourse {text : String} (said : codeParts text ≠ []) {entry : Entry}
    (same : codeParts entry.code = codeParts text) (requirements : Option (Requirements Float))
    (catalog : Option Catalog) (state : PlannerState) (ids : IdSupply) :
    let outcome := addCourse requirements catalog entry state ids
    (AnyOf.ofTexts [text]).options = [splitCompound text]
    ∧ (forall course after, outcome.result = .ok course ->
        LeadsTo Operation.KeepsCourses outcome.state after ->
        (AnyOf.ofTexts [text]).check after.courses = true)
    ∧ ((forall given, requirements = some given -> given.tracks ≠ []) ->
        ¬ entry.credits.TooLarge -> ∃ course, outcome.result = .ok course) := by
  intro outcome
  refine ⟨options_ofTexts said, ?_, ?_⟩
  · intro course after added led
    have held := key_mem_addCourse (by rwa [same]) added
    rw [same] at held
    exact check_of_key said (keysOf_subset_of_leadsTo led held)
  · intro tracked moderate
    rcases exists_course tracked moderate catalog state with ⟨course, entered⟩
    refine ⟨course.withId ids.next, ?_⟩
    change (addCourse requirements catalog entry state ids).result = _
    unfold addCourse
    rw [entered]

/-- An option as a requirement writes it, and as it is entered. -/
def alley : String := "straße +\tﬁ205"

/-- The same option with other letters, other blanks and a blank part. -/
def alleyEntry : Entry := ⟨" STRAssE+ +fI205 ", "Alley", .null, none⟩

theorem check_of_addCourse_alley :
    let outcome := addCourse none none alleyEntry PlannerState.initial (IdSupply.random 0)
    let moved := ((Operation.track "BM").run ⟨none, none⟩ outcome.state (IdSupply.random 1)).state
    codeParts alley = ["STRASSE", "FI205"]
      ∧ codeParts alleyEntry.code = codeParts alley
      ∧ (∃ course, outcome.result = .ok course)
      ∧ (AnyOf.ofTexts [alley]).check moved.courses = true := by
  have parts : codeParts alley = ["STRASSE", "FI205"] := by decide +kernel
  have same : codeParts alleyEntry.code = codeParts alley := by decide +kernel
  have said : codeParts alley ≠ [] := by
    rw [parts]
    exact List.cons_ne_nil _ _
  rcases check_of_addCourse said same none none PlannerState.initial (IdSupply.random 0) with
    ⟨_, met, answered⟩
  rcases answered tracked_none not_false with ⟨course, added⟩
  exact ⟨parts, same, ⟨course, added⟩,
    met course _ added (.step .here ⟨none, none⟩ trivial (IdSupply.random 1))⟩

end Met

end Planner
end DegreeAudit
