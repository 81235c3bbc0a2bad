import DegreeAudit.Proofs.Planner.Identity
import DegreeAudit.Proofs.Planner.Pasting

namespace DegreeAudit
namespace Planner

/-!
# Pasting what was pasted before

Which code is recognized in a line depends on the line alone, and once a text is imported all codes
of its lines are held.  They stay held through every operation that neither takes courses away nor
replaces the state.  So lines of that text add nothing when they are pasted again, in whatever order
and however often, even if the track has changed between.
-/

open Transcript (courses counts lines recognizedKeys)

/-- The operations that neither take courses away nor replace the state. -/
def Operation.KeepsCourses : Operation -> Prop
  | add _ => True
  | remove _ => False
  | reclassify _ _ => True
  | cohort _ => True
  | track _ => True
  | trackType _ => True
  | paste _ => True
  | importSnapshot _ => False
  | reset => False

/-- The states that permitted operations lead to from a state.  Each operation may have its own
requirements, catalog and ids; one that fails leads to the state that it leaves behind. -/
inductive LeadsTo (permitted : Operation -> Prop) (start : PlannerState) : PlannerState -> Prop where
  | here : LeadsTo permitted start start
  | step {state : PlannerState} (led : LeadsTo permitted start state) (sources : Sources)
      {operation : Operation} (allowed : permitted operation) (ids : IdSupply) :
      LeadsTo permitted start (operation.run sources state ids).state

section Kept

/-! ## Codes that stay held -/

variable {state : PlannerState} {ids : IdSupply}

theorem keysOf_moveCourse (id : String) (bucket : Bucket) (held : List (Course Float)) :
    keysOf (PlannerState.moveCourse id bucket held) = keysOf held :=
  map_moveCourse (fun _ _ => rfl) id bucket held

theorem keysOf_moveToTrack (track : Track) (held : List (Course Float)) :
    keysOf (held.map (moveToTrack track)) = keysOf held :=
  map_moveToTrack (fun _ _ => rfl) track held

theorem keysOf_subset_importPaste (requirements : Option (Requirements Float)) (text : String) :
    keysOf state.courses ⊆ keysOf (importPaste requirements text state ids).state.courses := by
  cases active : activeTrack requirements state with
  | error failure =>
      rw [importPaste_of_failed active]
      exact List.Subset.refl _
  | ok track =>
      rw [importPaste_of_active active, keysOf_heldAfter]
      exact List.subset_append_right _ _

/-- An operation that takes no courses away leaves their codes held. -/
theorem keysOf_subset_run (sources : Sources) {operation : Operation}
    (allowed : operation.KeepsCourses) :
    keysOf state.courses ⊆ keysOf (operation.run sources state ids).state.courses := by
  cases operation with
  | add entry =>
      change _ ⊆ keysOf (addCourse sources.requirements sources.catalog entry state ids).state.courses
      unfold addCourse
      split
      · exact List.Subset.refl _
      · exact List.subset_cons_self _ _
  | remove id => exact False.elim allowed
  | reclassify id bucket =>
      change _ ⊆ keysOf (Planner.reclassify id bucket state ids).state.courses
      unfold Planner.reclassify
      split
      · exact List.Subset.refl _
      · dsimp only
        rw [keysOf_moveCourse]
        exact List.Subset.refl _
  | cohort id => exact List.Subset.refl _
  | track id =>
      change _ ⊆ keysOf (chooseTrack sources.requirements id state ids).state.courses
      unfold chooseTrack
      split
      · unfold changeTrack
        dsimp only
        split
        · exact List.Subset.refl _
        · dsimp only
          rw [keysOf_moveToTrack]
          exact List.Subset.refl _
      · exact List.Subset.refl _
  | trackType declared => exact List.Subset.refl _
  | paste text => exact keysOf_subset_importPaste sources.requirements text
  | importSnapshot source => exact False.elim allowed
  | reset => exact False.elim allowed

/-- Codes stay held in every state that such operations lead to. -/
theorem keysOf_subset_of_leadsTo {start after : PlannerState}
    (led : LeadsTo Operation.KeepsCourses start after) :
    keysOf start.courses ⊆ keysOf after.courses := by
  induction led with
  | here => exact List.Subset.refl _
  | step _ sources allowed ids inductionHypothesis =>
      exact List.Subset.trans inductionHypothesis (keysOf_subset_run sources allowed)

end Kept

section Again

/-! ## Lines that add nothing -/

variable {track : Option Track} {held : List (Course Float)}

/-- After a text is pasted, all codes that are recognized in its lines are held. -/
theorem recognizedKeys_subset_heldAfter (text : String) (ids : IdSupply) :
    recognizedKeys (lines text.toList) ⊆ keysOf (heldAfter track held text ids) := by
  intro key recognized
  rw [keysOf_heldAfter, List.mem_append, List.mem_reverse]
  by_cases known : key ∈ keysOf held
  · exact Or.inr known
  · exact Or.inl (Transcript.mem_addedKeys_iff.mpr ⟨recognized, known⟩)

/-- A text whose codes are all held adds no course. -/
theorem courses_pasted_of_held {text : String}
    (known : recognizedKeys (lines text.toList) ⊆ keysOf held) :
    courses (pasted track held text) = [] := by
  rw [<- List.map_eq_nil_iff (f := CourseData.key), List.eq_nil_iff_forall_not_mem]
  intro key added
  rcases Transcript.mem_addedKeys_iff.mp added with ⟨recognized, new⟩
  exact new (known recognized)

/-- A text whose codes are all held is imported without any effect: every line is skipped. -/
theorem importPaste_of_held {requirements : Option (Requirements Float)} {state : PlannerState}
    (active : activeTrack requirements state = .ok track) {text : String}
    (known : recognizedKeys (lines text.toList) ⊆ keysOf state.courses) (ids : IdSupply) :
    let outcome := importPaste requirements text state ids
    let count := (lines text.toList).length
    outcome.result
        = .ok { courses := [], counts := { lines := count, added := 0, skipped := count } }
      ∧ outcome.state = state
      ∧ outcome.ids = ids := by
  have none : courses (pasted track state.courses text) = [] := courses_pasted_of_held known
  have skipped := Transcript.counts_of_noCourses none
  rw [pasted, Transcript.length_readLines] at skipped
  dsimp only
  rw [importPaste_of_active active, heldAfter, none]
  refine ⟨?_, rfl, rfl⟩
  rw [pasted, skipped]
  rfl

/-- Once a text is imported, lines of it that are pasted again, after any operations that take no
courses away, add no course, are all skipped and leave the state as it is.  Requirements need a track
to fall back on. -/
theorem importPaste_again {requirements later : Option (Requirements Float)} {text again : String}
    {state after : PlannerState} {ids : IdSupply}
    (tracked : forall given, requirements = some given -> given.tracks ≠ [])
    (led : LeadsTo Operation.KeepsCourses (importPaste requirements text state ids).state after)
    (laterTracked : forall given, later = some given -> given.tracks ≠ [])
    (within : forall line, line ∈ lines again.toList -> line ∈ lines text.toList)
    (newIds : IdSupply) :
    let outcome := importPaste later again after newIds
    let count := (lines again.toList).length
    outcome.result
        = .ok { courses := [], counts := { lines := count, added := 0, skipped := count } }
      ∧ outcome.state = after
      ∧ outcome.ids = newIds := by
  rcases exists_activeTrack tracked state with ⟨track, active⟩
  rcases exists_activeTrack laterTracked after with ⟨laterTrack, laterActive⟩
  have kept := keysOf_subset_of_leadsTo led
  rw [importPaste_of_active active] at kept
  apply importPaste_of_held laterActive
  intro key recognized
  rcases List.mem_filterMap.mp recognized with ⟨line, listed, found⟩
  apply kept
  apply recognizedKeys_subset_heldAfter
  exact List.mem_filterMap.mpr ⟨line, within line listed, found⟩

/-- A line of the spring, twice, and some blanks. -/
def excerpt : String := "ab101\tAlgebra again\t2.0\tB0\n  \nab101\tAlgebra again\t2.0\tB0\n"

theorem importPaste_again_excerpt :
    let imported := (importPaste none spring PlannerState.initial (IdSupply.random 0)).state
    let moved := ((Operation.track "BM").run ⟨none, none⟩ imported (IdSupply.random 1)).state
    let outcome := importPaste none excerpt moved (IdSupply.random 2)
    let count := (lines excerpt.toList).length
    (forall line, line ∈ lines excerpt.toList -> line ∈ lines spring.toList)
      ∧ count = 2
      ∧ outcome.result
        = .ok { courses := [], counts := { lines := count, added := 0, skipped := count } }
      ∧ outcome.state = moved
      ∧ outcome.ids = IdSupply.random 2 := by
  have within : forall line, line ∈ lines excerpt.toList -> line ∈ lines spring.toList := by
    decide +kernel
  exact ⟨within, by decide +kernel,
    importPaste_again tracked_none (.step .here ⟨none, none⟩ trivial _) tracked_none within _⟩

end Again

end Planner
end DegreeAudit
