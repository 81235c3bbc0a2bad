import DegreeAudit.Json.Field
import DegreeAudit.Notice
import DegreeAudit.Requirement.Basic

namespace DegreeAudit

/-!
Requirements read from a document. A cohort has to give its totals, areas and minimums; lists of
codes may be absent. The checklists of a track stand apart, under the id of the track; a checklist
that says nothing or is for neither declaration is remarked upon and left out.
-/

namespace Requirements

/-- Why a document gives no requirements. -/
inductive Fault where
  | mismatch (cause : Json.Mismatch)
  | noCohortOrTrack
  deriving DecidableEq, Repr

/-- The wording of a fault. -/
def Fault.message : Fault -> String
  | .mismatch .tooLarge => Json.Mismatch.tooLarge.message
  | .mismatch cause => "invalid requirement specification: " ++ cause.message
  | .noCohortOrTrack => "requirement specification needs at least one cohort and track"

/-- The codes that are needed together, under a key that may be absent. -/
def readAllOf (key : String) (area : Json) : Except Json.Mismatch AllOf := do
  pure ⟨<- area.codesAt key⟩

/-- The options to choose from under a key, if it is there, and otherwise those given. -/
def readChoice (key : String) (area : Json) (otherwise : Option AnyOf) :
    Except Json.Mismatch (Option AnyOf) := do
  if <- area.has key then
    pure (some (.ofTexts (<- (<- area.need key).toCodes)))
  else pure otherwise

/-- What is required in an area with one bucket. Where a choice is obligatory and no options are
given, no option is ever held. -/
def readArea (obligatory : Bool) (area : Json) : Except Json.Mismatch (AreaRule Float) := do
  let absent := if obligatory then some (AnyOf.mk []) else none
  let choice <- readChoice "chooseAnyOf" area absent
  let choice <- readChoice "mustIncludeAnyOf" area choice
  let minimum <- area.realAt "minCredits"
  let required <- readAllOf "requiredAll" area
  pure { minimum, required, choice }

/-- What is required in one of the sciences. -/
def readTheoryLab (area : Json) : Except Json.Mismatch TheoryLab := do
  let theoryAll <-
    if <- area.has "theory" then
      pure (some (<- (<- area.need "theory").toCodes))
    else pure none
  let theoryAny <- area.codesAt "theoryAnyOf"
  let labAny <- area.codesAt "lab"
  pure { theoryAll, theoryAny, labAny }

/-- The label under its key, or the id. -/
def readLabel (entry : Json) : Except Json.Mismatch String := do
  let label <- entry.find? "label"
  let id <- entry.need "id"
  (label.getD id).toText

/-- What is required in mathematics. -/
def readMath (math : Json) : Except Json.Mismatch (MathRule Float) := do
  let minimum <- math.realOrZero "minCredits"
  let required <- readAllOf "requiredAll" math
  let codes <- (<- (<- math.need "chooseCreditsFrom").need "codes").toCodes
  let least <- (<- math.need "chooseCreditsFrom").realAt "minCredits"
  pure { minimum, required, elective := ⟨codes, least⟩ }

/-- The requirements of a cohort. -/
def readCohort (entry : Json) : Except Json.Mismatch (Cohort Float) := do
  let basic <- entry.need "basic"
  let totals <- entry.need "totals"
  let advanced <- entry.need "advanced"
  let math <- basic.need "math"
  let science <- basic.need "science"
  let areas <- science.need "areas"
  let arts <- basic.find? "artsPE"
  let id <- (<- entry.need "id").toText
  let label <- readLabel entry
  let total <- totals.realAt "totalMin"
  let basicMinimum <- totals.realAt "basicMin"
  let advancedMinimum <- totals.realAt "advancedMin"
  let mathRule <- readMath math
  let scienceMinimum <- science.realAt "minCredits"
  let physics <- readTheoryLab (<- areas.need "physics")
  let chemistry <- readTheoryLab (<- areas.need "chem")
  let biology <- readTheoryLab (<- areas.need "bio")
  let engineeringCore <- readArea false (<- basic.need "engCore")
  let engineeringSelect <- readArea true (<- basic.need "engSelect")
  let humanities <- readArea true (<- basic.need "hssWriting")
  let english <- readArea false (<- basic.need "english")
  let artsAndSports <-
    match Json.something? arts with
    | some area => some <$> readArea false area
    | none => pure none
  let track <- advanced.realOrZero "trackMin"
  let nonTrack <- advanced.realOrZero "nonTrackMin"
  let ugrp <- advanced.realOrZero "ugrpMin"
  let internship <- advanced.realOrZero "internMin"
  pure {
    id
    label
    totals := ⟨total, basicMinimum, advancedMinimum⟩
    math := mathRule
    science := ⟨scienceMinimum, physics, chemistry, biology⟩
    engineeringCore
    engineeringSelect
    humanities
    english
    artsAndSports
    advanced := ⟨track, nonTrack, ugrp, internship⟩
  }

/-- A checklist. -/
def readChecklist (rule : Json) : Except Json.Mismatch Checklist := do
  let one <- rule.find? "mustTakeOneOf"
  let all <- readAllOf "mustTakeAll" rule
  match Json.something? one with
  | some options => pure ⟨all, some (.ofTexts (<- options.toCodes))⟩
  | none => pure ⟨all, none⟩

/-- The checklists that the rules of a track give, after those already read. -/
def readChecklists (track : String) (lists : Checklists) :
    List (String × Json) -> Logged Json.Mismatch Checklists
  | [] => pure lists
  | (key, rule) :: rules =>
      match TrackType.read? key, rule.isNothing with
      | some trackType, false => do
          let list <- Logged.lift (readChecklist rule)
          readChecklists track (lists.set trackType list) rules
      | _, _ => do
          Logged.remark (.ruleIgnored key track)
          readChecklists track lists rules

/-- The rules under the id of a track. Only an id that is a text can be looked up. -/
def rulesOf (rules : List (String × Json)) (id : Json) :
    Except Json.Mismatch (List (String × Json)) :=
  match id with
  | .list _ | .object _ => .error .wrongKind
  | .string key =>
      match Json.something? (Json.lookup key rules) with
      | none => .ok []
      | some (.object entries) => .ok entries
      | some _ => .error .notObject
  | _ => .ok []

/-- A track, with the rules of all tracks given. An id without a text has no rules, so that no
remark has to name it. -/
def readTrack (rules : Json) (entry : Json) : Logged Json.Mismatch Track := do
  let own <- Logged.lift do
    match rules with
    | .object entries => rulesOf entries (<- entry.need "id")
    | _ => .error .notObject
  let id <- Logged.lift (entry.need "id")
  let checklists <- readChecklists (id.asText?.getD "") .empty own
  Logged.lift do
    let additions <-
      match Json.something? (<- entry.find? "basicScienceAdds") with
      | some additions => additions.find? "mustTake"
      | none => pure none
    let id <- id.toText
    let label <- readLabel entry
    let starts <- entry.codesAt "prefixes"
    let starts := starts.filter fun start => !Text.allBlank start.toList
    let adds <- (additions.getD .null).toCodes
    pure {
      id
      label
      codeStarts := starts.map normalizeCode
      additions := ⟨adds⟩
      checklists
    }

/-- Each entry read in turn, up to the first that cannot be read. -/
def readEach {α : Type} (read : Json -> Logged Json.Mismatch α) :
    List Json -> Logged Json.Mismatch (List α)
  | [] => pure []
  | entry :: entries => do
      let first <- read entry
      let rest <- readEach read entries
      pure (first :: rest)

/-- The cohorts and tracks of a document. -/
def readParts (document : Json) : Logged Json.Mismatch (Requirements Float) := do
  let rules <- Logged.lift (document.find? "trackExtraRules")
  let rules := (Json.something? rules).getD (.object [])
  let cohorts <- Logged.lift (document.need "cohorts" >>= Json.elements)
  let cohorts <- readEach (fun entry => Logged.lift (readCohort entry)) cohorts
  let tracks <- Logged.lift (document.need "tracks" >>= Json.elements)
  let tracks <- readEach (readTrack rules) tracks
  pure { cohorts, tracks }

/-- The requirements that a document gives; at least one cohort and one track are needed. -/
def ofDocument (document : Json) : Logged Fault (Requirements Float) :=
  let parts := readParts document
  {
    notices := parts.notices
    outcome :=
      match parts.outcome with
      | .error cause => .error (.mismatch cause)
      | .ok requirements =>
          if requirements.cohorts.isEmpty || requirements.tracks.isEmpty then
            .error .noCohortOrTrack
          else .ok requirements
  }

end Requirements
end DegreeAudit
