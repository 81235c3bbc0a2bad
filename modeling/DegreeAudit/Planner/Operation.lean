import DegreeAudit.Planner.Snapshot

namespace DegreeAudit

/-!
The operations of the planner as data, so that a whole sequence of them can be carried out one after
another. An operation that fails is noted as its answer, and the next goes on from the state that it
leaves.
-/

namespace Planner

/-- What the planner works from. -/
structure Sources where
  requirements : Option (Requirements Float)
  catalog : Option Catalog

/-- An operation on the state. -/
inductive Operation where
  | add (entry : Entry)
  | remove (id : String)
  | reclassify (id : String) (bucket : Bucket)
  | cohort (id : String)
  | track (id : String)
  | trackType (trackType : TrackType)
  | paste (text : String)
  | importSnapshot (source : Snapshot.Source)
  | reset

/-- What an operation answers. -/
inductive Answer where
  | nothing
  | course (course : Course Float)
  | moved (courses : List (Course Float))
  | pasted (result : PasteResult)
  /-- A document is no state. -/
  | refused (reason : Snapshot.Reason)
  deriving DecidableEq, Repr

/-- The outcome with its result seen as an answer. -/
def Outcome.map {α β : Type} (f : α -> β) (outcome : Outcome α) : Outcome β :=
  { outcome with result := outcome.result.map f }

/-- The outcome of an operation that cannot fail. -/
def Outcome.settled (state : PlannerState) (ids : IdSupply) : Outcome Answer :=
  { result := .ok .nothing, state, ids, notices := [] }

/-- The outcome of choosing a track. Without requirements no course belongs to it. -/
def chooseTrack (requirements : Option (Requirements Float)) (id : String) (state : PlannerState)
    (ids : IdSupply) : Outcome (List (Course Float)) :=
  match requirements with
  | some requirements => changeTrack requirements id state ids
  | none => { result := .ok [], state := { state with trackId := id }, ids, notices := [] }

namespace Operation

/-- Carries out an operation. -/
def run (sources : Sources) (operation : Operation) (state : PlannerState) (ids : IdSupply) :
    Outcome Answer :=
  match operation with
  | add entry => (addCourse sources.requirements sources.catalog entry state ids).map .course
  | remove id => (removeCourse id state ids).map .course
  | reclassify id bucket => (Planner.reclassify id bucket state ids).map .course
  | cohort id => .settled (changeCohort id state) ids
  | track id => (chooseTrack sources.requirements id state ids).map .moved
  | trackType declared => .settled (changeTrackType declared state) ids
  | paste text => (importPaste sources.requirements text state ids).map .pasted
  | importSnapshot source =>
      (Planner.importSnapshot sources.requirements source state ids).map fun reason =>
        match reason with
        | some reason => .refused reason
        | none => .nothing
  | reset => .settled PlannerState.initial ids

/-- The outcomes of operations that are carried out one after another. -/
def runAll (sources : Sources) : List Operation -> PlannerState -> IdSupply ->
    List (Outcome Answer)
  | [], _, _ => []
  | operation :: operations, state, ids =>
      let outcome := operation.run sources state ids
      outcome :: runAll sources operations outcome.state outcome.ids

/-- The state after operations that are carried out one after another. -/
def stateAfter (sources : Sources) : List Operation -> PlannerState -> IdSupply -> PlannerState
  | [], state, _ => state
  | operation :: operations, state, ids =>
      let outcome := operation.run sources state ids
      stateAfter sources operations outcome.state outcome.ids

end Operation
end Planner
end DegreeAudit
