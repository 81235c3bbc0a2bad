import DegreeAudit.Classification
import DegreeAudit.Proofs.Audit.Fulfilment
import DegreeAudit.Proofs.Compound
import DegreeAudit.Proofs.Outcome
import DegreeAudit.Proofs.Requirement.Document

namespace DegreeAudit

/-!
# Requirements that ask for something

A choice with an option of no parts would be met by anyone, and a track with an empty code start
would claim every course.  Whatever a document holds where options or code starts are expected, the
requirements that are read from it have neither: what is blank between plus signs is left out of an
option, an option of which nothing is left is left out of its choice, and blank code starts are left
out of their track.  A choice without any option is met by nobody, which is what an obligatory
choice stands for when the document does not give it.
-/

/-- A part of an option: a code that is not empty, is not compound and has no blanks around it. -/
structure IsOptionPart (part : String) : Prop where
  present : part ≠ ""
  trimmed : Text.trim part.toList = part.toList
  single : '+' ∉ part.toList

/-- Each option of a choice has a part, and all its parts are such. -/
structure AnyOf.WellFormed (choice : AnyOf) : Prop where
  option : forall option, option ∈ choice.options -> option ≠ []
  part : forall option, option ∈ choice.options -> forall part, part ∈ option -> IsOptionPart part

/-- What the codes of a track may begin with: normalized, and not empty. -/
structure IsCodeStart (start : String) : Prop where
  present : start ≠ ""
  trimmed : Text.trim start.toList = start.toList
  upper : Text.upper start.toList = start.toList

section Choices

/-! ## Choices in requirements -/

variable {κ : Type}

/-- The areas of a cohort. -/
def Cohort.areas (cohort : Cohort κ) : List (AreaRule κ) :=
  [cohort.engineeringCore, cohort.engineeringSelect, cohort.humanities, cohort.english]
    ++ cohort.artsAndSports.toList

/-- The choices among the courses of an area. -/
def Cohort.choices (cohort : Cohort κ) : List AnyOf :=
  cohort.areas.filterMap AreaRule.choice

/-- The checklists of a track. -/
def Track.lists (track : Track) : List Checklist :=
  TrackType.all.filterMap track.checklists.get?

/-- The choices on the checklists of a track. -/
def Track.choices (track : Track) : List AnyOf :=
  track.lists.filterMap Checklist.one

/-- All choices that requirements ask for. -/
def Requirements.choices (requirements : Requirements κ) : List AnyOf :=
  requirements.cohorts.flatMap Cohort.choices ++ requirements.tracks.flatMap Track.choices

/-- There is something to fall back on, and nothing is asked for that everyone has. -/
structure Requirements.WellFormed (requirements : Requirements κ) : Prop where
  cohorts : requirements.cohorts ≠ []
  tracks : requirements.tracks ≠ []
  codeStart : forall track, track ∈ requirements.tracks -> forall start, start ∈ track.codeStarts ->
    IsCodeStart start
  choice : forall choice, choice ∈ requirements.choices -> choice.WellFormed

end Choices

section Texts

/-! ## Options and code starts of any texts -/

theorem isOptionPart_of_mem_splitCompound {text part : String}
    (member : part ∈ splitCompound text) : IsOptionPart part := by
  rcases List.mem_map.mp member with ⟨trimmed, kept, rfl⟩
  rcases List.mem_filter.mp kept with ⟨made, something⟩
  rcases List.mem_map.mp made with ⟨piece, cut, rfl⟩
  constructor
  case present =>
    intro empty
    have nothing : Text.trim piece = [] := by simpa using congrArg String.toList empty
    rw [nothing] at something
    cases something
  case trimmed => rw [String.toList_ofList, Text.trim_trim]
  case single =>
    rw [String.toList_ofList]
    exact fun inside => (Text.mem_of_mem_splitOn cut (Text.mem_of_mem_trim inside)).2 rfl

/-- The options that texts write are such that a choice may have. -/
theorem wellFormed_ofTexts (texts : List String) : (AnyOf.ofTexts texts).WellFormed where
  option option listed := by simpa using (List.mem_filter.mp listed).2
  part option listed part member := by
    rcases List.mem_map.mp (List.mem_filter.mp listed).1 with ⟨text, _, rfl⟩
    exact isOptionPart_of_mem_splitCompound member

theorem isCodeStart_normalizeCode {start : String}
    (visible : Text.allBlank start.toList = false) : IsCodeStart (normalizeCode start) where
  present := by
    have something := normalizeCode_ne_nil visible
    rw [String.ofList_toList] at something
    intro empty
    exact something (by rw [empty]; rfl)
  trimmed := by
    rw [normalizeCode, String.toList_ofList]
    exact Text.trim_upper (Text.trim_trim _)
  upper := by
    rw [normalizeCode, String.toList_ofList]
    exact Text.upper_upper _

/-- No choice with such options is met by someone without courses. -/
theorem AnyOf.WellFormed.check_nil {κ : Type} {choice : AnyOf} (wellFormed : choice.WellFormed) :
    choice.check ([] : List (Course κ)) = false := by
  rw [Bool.eq_false_iff, Ne, Audit.choice_check_iff]
  have none (code : String) : ¬ Audit.Held ([] : List (Course κ)) code := by
    rintro ⟨course, member, _⟩
    cases member
  rintro ⟨option, listed, all | ⟨_, compound⟩⟩
  · rcases List.exists_mem_of_ne_nil option (wellFormed.option option listed) with ⟨code, member⟩
    exact none code (all code member)
  · exact none _ compound

/-- A blank code begins as the codes of no track do. -/
theorem trackBucket?_of_blank {code : String} (blank : Text.allBlank code.toList = true)
    (track : Track) : Classification.trackBucket? (some track) (normalizeCode code) = none := by
  have nothing : normalizeCode code = "" := by
    rw [<- Text.isEmpty_trim, List.isEmpty_iff] at blank
    rw [normalizeCode, blank]
    rfl
  unfold Classification.trackBucket?
  rw [nothing]
  dsimp only
  rw [if_neg]
  rw [List.any_eq_true]
  rintro ⟨start, _, claims⟩
  rw [Bool.and_eq_true, Bool.not_eq_true', Classification.startsWith] at claims
  have empty : start.toList = [] := by simpa using claims.2
  rw [String.toList_eq_nil_iff.mp empty] at claims
  cases claims.1

end Texts

namespace Requirements

section Parts

/-! ## Choices of a document -/

/-- A choice that may be absent is well formed if it is there. -/
def ChoiceFits (choice : Option AnyOf) : Prop :=
  forall given, choice = some given -> given.WellFormed

theorem choiceFits_none : ChoiceFits none :=
  nofun

theorem choiceFits_some {choice : AnyOf} (wellFormed : choice.WellFormed) :
    ChoiceFits (some choice) := by
  intro given same
  rcases Option.some.inj same with rfl
  exact wellFormed

theorem gives_readChoice (key : String) (area : Json) {otherwise : Option AnyOf}
    (fits : ChoiceFits otherwise) : Gives ChoiceFits (readChoice key area otherwise) := by
  unfold readChoice
  refine .andThen fun present => ?_
  split
  · refine .andThen fun value => .andThen fun texts => .ok ?_
    exact choiceFits_some (wellFormed_ofTexts texts)
  · exact .ok fits

/-- The choice of an area, whether it is given under either key or obligatory. -/
theorem gives_readArea (obligatory : Bool) (area : Json) :
    Gives (fun rule => ChoiceFits rule.choice) (readArea obligatory area) := by
  have absent : ChoiceFits (if obligatory then some (AnyOf.mk []) else none) := by
    split
    · exact choiceFits_some ⟨nofun, nofun⟩
    · exact choiceFits_none
  unfold readArea
  refine .bind (gives_readChoice _ _ absent) fun first fitsFirst => ?_
  refine .bind (gives_readChoice _ _ fitsFirst) fun choice fits => ?_
  exact .andThen fun minimum => .andThen fun required => .ok fits

/-- An area that may be absent has a well formed choice if it is there. -/
def AreaFits (rule : Option (AreaRule Float)) : Prop :=
  forall given, rule = some given -> ChoiceFits given.choice

theorem gives_someArea (area : Json) : Gives AreaFits (some <$> readArea false area) := by
  intro rule read
  rcases map_eq_ok.mp read with ⟨given, readGiven, rfl⟩
  intro other same
  rcases Option.some.inj same with rfl
  exact gives_readArea false area given readGiven

theorem gives_readChecklist (rule : Json) :
    Gives (fun list => ChoiceFits list.one) (readChecklist rule) := by
  unfold readChecklist
  refine .andThen fun one => .andThen fun all => ?_
  split
  · refine .andThen fun texts => .ok ?_
    exact choiceFits_some (wellFormed_ofTexts texts)
  · exact .ok choiceFits_none

end Parts

section Cohorts

/-! ## Cohorts and tracks of a document -/

/-- The choices of a cohort are those of its areas. -/
theorem gives_readCohort (entry : Json) :
    Gives (fun cohort : Cohort Float =>
      forall choice, choice ∈ cohort.choices -> choice.WellFormed) (readCohort entry) := by
  have absent : AreaFits none := nofun
  unfold readCohort
  refine .andThen fun basic => .andThen fun totals => .andThen fun advanced => ?_
  refine .andThen fun math => .andThen fun science => .andThen fun areas => ?_
  refine .andThen fun artsEntry => .andThen fun _ => .andThen fun id => .andThen fun label => ?_
  refine .andThen fun total => .andThen fun basicMinimum => .andThen fun advancedMinimum => ?_
  refine .andThen fun mathRule => .andThen fun scienceMinimum => ?_
  refine .andThen fun _ => .andThen fun physics => ?_
  refine .andThen fun _ => .andThen fun chemistry => ?_
  refine .andThen fun _ => .andThen fun biology => ?_
  refine .andThen fun _ => .bind (gives_readArea _ _) fun core fitsCore => ?_
  refine .andThen fun _ => .bind (gives_readArea _ _) fun select fitsSelect => ?_
  refine .andThen fun _ => .bind (gives_readArea _ _) fun humanities fitsHumanities => ?_
  refine .andThen fun _ => .bind (gives_readArea _ _) fun english fitsEnglish => ?_
  split
  case' h_1 area _ => refine .bind (gives_someArea area) fun artsAndSports fitsArts => ?_
  case' h_2 => refine .bind (.ok absent) fun artsAndSports fitsArts => ?_
  all_goals
    refine .andThen fun track => .andThen fun nonTrack => .andThen fun ugrp => ?_
    refine .andThen fun internship => .ok ?_
    intro choice listed
    rcases List.mem_filterMap.mp listed with ⟨area, member, chosen⟩
    simp only [Cohort.areas, List.mem_append, List.mem_cons, List.not_mem_nil, or_false,
      Option.mem_toList] at member
    rcases member with (rfl | rfl | rfl | rfl) | given
    · exact fitsCore choice chosen
    · exact fitsSelect choice chosen
    · exact fitsHumanities choice chosen
    · exact fitsEnglish choice chosen
    · exact fitsArts area given choice chosen

/-- The rules of a track set checklists one after another, and each of them fits. -/
theorem gives_readChecklists (track : String) {lists : Checklists} (rules : List (String × Json))
    (fits : forall trackType list, lists.get? trackType = some list -> ChoiceFits list.one) :
    Gives (fun after : Checklists => forall trackType list, after.get? trackType = some list ->
      ChoiceFits list.one) (readChecklists track lists rules).outcome := by
  induction rules generalizing lists with
  | nil => exact .ok fits
  | cons rule rules inductionHypothesis =>
      rcases rule with ⟨key, rule⟩
      unfold readChecklists
      split
      · rename_i trackType _ _
        rw [Logged.outcome_bind]
        refine .bind (gives_readChecklist rule) fun list fitsList => inductionHypothesis ?_
        intro other found listed
        rw [Checklists.get?_set] at listed
        split at listed
        · rcases Option.some.inj listed with rfl
          exact fitsList
        · exact fits other found listed
      · rw [Logged.outcome_bind]
        exact .andThen fun _ => inductionHypothesis fits

/-- A track of a document. -/
structure TrackFits (track : Track) : Prop where
  codeStart : forall start, start ∈ track.codeStarts -> IsCodeStart start
  choice : forall choice, choice ∈ track.choices -> choice.WellFormed

theorem gives_readTrack (rules entry : Json) : Gives TrackFits (readTrack rules entry).outcome := by
  unfold readTrack
  rw [Logged.outcome_bind]
  refine .andThen fun own => ?_
  rw [Logged.outcome_bind]
  refine .andThen fun id => ?_
  rw [Logged.outcome_bind]
  have none : forall trackType list, Checklists.empty.get? trackType = some list ->
      ChoiceFits list.one := by
    intro trackType list found
    rw [Checklists.get?_empty] at found
    cases found
  refine .bind (gives_readChecklists _ own none) fun checklists fits => ?_
  rw [Logged.outcome_lift]
  refine .andThen fun additions => ?_
  split
  all_goals
    refine .andThen fun adds => .andThen fun id => .andThen fun label => ?_
    refine .andThen fun starts => .andThen fun codes => .ok ?_
    constructor
    case codeStart =>
      intro start listed
      rcases List.mem_map.mp listed with ⟨written, kept, rfl⟩
      exact isCodeStart_normalizeCode (by simpa using (List.mem_filter.mp kept).2)
    case choice =>
      intro choice listed
      rcases List.mem_filterMap.mp listed with ⟨list, member, chosen⟩
      rcases List.mem_filterMap.mp member with ⟨trackType, _, found⟩
      exact fits trackType list found choice chosen

/-- Each entry is good if each is read as a good one. -/
theorem gives_readEach {α : Type} {good : α -> Prop} {read : Json -> Logged Json.Mismatch α}
    (reads : forall entry, Gives good (read entry).outcome) (entries : List Json) :
    Gives (fun results => forall result, result ∈ results -> good result)
      (readEach read entries).outcome := by
  induction entries with
  | nil => exact .ok nofun
  | cons entry entries inductionHypothesis =>
      unfold readEach
      rw [Logged.outcome_bind]
      refine .bind (reads entry) fun first goodFirst => ?_
      rw [Logged.outcome_bind]
      refine .bind inductionHypothesis fun rest goodRest => .ok ?_
      exact List.forall_mem_cons.mpr ⟨goodFirst, goodRest⟩

end Cohorts

section Whole

/-! ## The whole document -/

theorem gives_readParts (document : Json) :
    Gives (fun requirements : Requirements Float =>
      (forall choice, choice ∈ requirements.choices -> choice.WellFormed)
        ∧ forall track, track ∈ requirements.tracks -> TrackFits track)
      (readParts document).outcome := by
  unfold readParts
  rw [Logged.outcome_bind]
  refine .andThen fun rules => ?_
  rw [Logged.outcome_bind]
  refine .andThen fun cohortEntries => ?_
  rw [Logged.outcome_bind]
  refine .bind (gives_readEach (fun entry => gives_readCohort entry) _) fun cohorts fitCohorts => ?_
  rw [Logged.outcome_bind]
  refine .andThen fun trackEntries => ?_
  rw [Logged.outcome_bind]
  refine .bind (gives_readEach (fun entry => gives_readTrack _ entry) _) fun tracks fitTracks => ?_
  refine .ok ⟨?_, fitTracks⟩
  intro choice listed
  rcases List.mem_append.mp listed with ofCohort | ofTrack
  · rcases List.mem_flatMap.mp ofCohort with ⟨cohort, member, inside⟩
    exact fitCohorts cohort member choice inside
  · rcases List.mem_flatMap.mp ofTrack with ⟨track, member, inside⟩
    exact (fitTracks track member).choice choice inside

/-- Requirements that a document gives are well formed, whatever it holds in the place of options
and code starts.  So someone without courses meets none of their choices, and no track claims a
course whose code is blank. -/
theorem wellFormed_of_ofDocument {document : Json} {requirements : Requirements Float}
    (given : (ofDocument document).outcome = .ok requirements) :
    requirements.WellFormed
      ∧ (forall choice, choice ∈ requirements.choices ->
        choice.check ([] : List (Course Float)) = false)
      ∧ forall track, track ∈ requirements.tracks -> forall code name : String,
        Text.allBlank code.toList = true ->
          Classification.Strategy.trackStart.bucket? code name (some track) = none := by
  have parts : (readParts document).outcome = .ok requirements := by
    unfold ofDocument at given
    dsimp only at given
    split at given
    · cases given
    · rename_i read
      split at given
      · cases given
      · rcases Except.ok.inj given with rfl
        exact read
  rcases gives_readParts document requirements parts with ⟨choices, fits⟩
  refine ⟨?_, ?_, ?_⟩
  · exact {
      cohorts := (present_ofDocument given).1
      tracks := (present_ofDocument given).2
      codeStart := fun track member => (fits track member).codeStart
      choice := choices
    }
  · exact fun choice listed => (choices choice listed).check_nil
  · exact fun track _ code name blank => trackBucket?_of_blank blank track

/-- A document whose options and code starts are blank in part, and not always texts. -/
def looseDocument : Json :=
  let area := Json.object [("minCredits", .int 3)]
  let options := Json.list [.string " BE205 + ", .string "+", .string "", .null, .object []]
  .object [
    ("cohorts", .list [.object [
      ("id", .string "2024"),
      ("totals", .object [("totalMin", .int 9), ("basicMin", .int 6), ("advancedMin", .int 3)]),
      ("basic", .object [
        ("math", .object [
          ("chooseCreditsFrom", .object [("codes", .null), ("minCredits", .int 0)])
        ]),
        ("science", .object [
          ("minCredits", .int 0),
          ("areas", .object [("physics", .object []), ("chem", .object []), ("bio", .object [])])
        ]),
        ("engCore", .object [("minCredits", .int 3), ("chooseAnyOf", options)]),
        ("engSelect", area), ("hssWriting", area), ("english", area)
      ]),
      ("advanced", .object [])
    ]]),
    ("tracks", .list [.object [
      ("id", .string "EE"),
      ("prefixes", .list [.string " ec ", .string "", .string "  ", .int 7])
    ]]),
    ("trackExtraRules", .object [
      ("EE", .object [("major", .object [("mustTakeOneOf", .string "+")])])
    ])
  ]

theorem wellFormed_of_looseDocument :
    ∃ requirements, (ofDocument looseDocument).outcome = .ok requirements
      ∧ requirements.choices.map AnyOf.options = [[["BE205"], ["None"], ["{}"]], [], [], []]
      ∧ requirements.tracks.map Track.codeStarts = [["EC", "7"]]
      ∧ requirements.WellFormed := by
  refine ⟨_, rfl, ?_, ?_, (@wellFormed_of_ofDocument looseDocument _ rfl).1⟩
  · decide +kernel
  · decide +kernel

end Whole

end Requirements
end DegreeAudit
