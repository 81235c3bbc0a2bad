import DegreeAudit.Proofs.Outcome
import DegreeAudit.Proofs.Requirement.Document
import Mathlib.Data.List.Forall2

namespace DegreeAudit

/-!
# The checklists that a track is given

The checklists of the tracks stand apart from the tracks, in a section of their own with an entry
for each id.  A track has a checklist for a declaration just if that entry holds a rule for it that
says something, in whatever spelling its key names the declaration, and of several such rules the
last one counts.

The two sections are joined by the id as it stands in the document.  The track itself carries the
text of its id, which may be any value, but the keys of the section are texts.  So for a track whose
id is not a text no rule is found, also where there is an entry under the text of the id: it goes
without a checklist, and no fault or remark tells of it.
-/

namespace Json

/-- The entries of an object; no other value has entries. -/
def entries : Json -> List (String × Json)
  | .object entries => entries
  | _ => []

/-- What stands under a key of an object, null if nothing does. -/
def part (key : String) (value : Json) : Json :=
  (lookup key value.entries).getD .null

/-- The value is a text. -/
def IsText (value : Json) : Prop :=
  ∃ text, value = .string text

end Json

namespace Requirements

/-- The rules that a document has under the id of a track. -/
def rulesUnder (document : Json) (id : String) : List (String × Json) :=
  ((document.part "trackExtraRules").part id).entries

/-- A rule that is for a declaration: its key names the declaration, and it says something. -/
def IsFor (trackType : TrackType) (rule : String × Json) : Prop :=
  TrackType.read? rule.1 = some trackType ∧ rule.2.isNothing = false

/-- The last of the rules for a declaration. -/
def IsLastFor (trackType : TrackType) (rules : List (String × Json)) (rule : String × Json) :
    Prop :=
  ∃ before after, rules = before ++ rule :: after ∧ IsFor trackType rule
    ∧ forall other, other ∈ after -> ¬ IsFor trackType other

/-- The options that are given, if any are: without them a checklist has no choice. -/
def ChoiceGiven (given : Option Json) (choice : Option AnyOf) : Prop :=
  match Json.something? given with
  | none => choice = none
  | some options => ∃ texts, options.toCodes = .ok texts ∧ choice = some (.ofTexts texts)

/-- A checklist with the codes and the options that a rule writes. -/
structure Writes (rule : Json) (list : Checklist) : Prop where
  all : rule.codesAt "mustTakeAll" = .ok list.all.codes
  one : ∃ given, rule.find? "mustTakeOneOf" = .ok given ∧ ChoiceGiven given list.one

/-- A track with the checklists that a document has for an id. -/
structure HasChecklistsOf (document id : Json) (track : Track) : Prop where
  /-- The track carries the text of its id. -/
  text : id.asText? = some track.id
  /-- It has a checklist if the document has a rule under that text, but only if the id itself is a
  text. -/
  given : forall trackType, (track.checklists.get? trackType).isSome = true
    ↔ id.IsText ∧ ∃ rule, rule ∈ rulesUnder document track.id ∧ IsFor trackType rule
  /-- The checklist is that of the last rule. -/
  last : forall trackType list, track.checklists.get? trackType = some list ->
    ∃ rule, IsLastFor trackType (rulesUnder document track.id) rule ∧ Writes rule.2 list

instance (trackType : TrackType) (rule : String × Json) : Decidable (IsFor trackType rule) :=
  inferInstanceAs (Decidable (_ ∧ _))

section Parts

/-! ## Rules under an id -/

variable {value : Json}

theorem entries_of_isNothing (nothing : value.isNothing = true) : value.entries = [] := by
  cases value with
  | object entries => exact List.isEmpty_iff.mp nothing
  | _ => rfl

/-- What says nothing has no entries, so it does not matter that it is passed over. -/
theorem entries_something? (given : Option Json) :
    ((Json.something? given).getD (.object [])).entries = (given.getD .null).entries := by
  cases given with
  | none => rfl
  | some value =>
      rw [Json.something?, Option.filter_some]
      cases nothing : value.isNothing with
      | true => exact (entries_of_isNothing nothing).symm
      | false => rfl

/-- For a track with a text as its id the rules are those under this text. -/
theorem rulesOf_text {rules own : List (String × Json)} {key : String}
    (found : rulesOf rules (.string key) = .ok own) : own = ((Json.object rules).part key).entries := by
  have something := entries_something? (Json.lookup key rules)
  unfold rulesOf at found
  dsimp only at found
  rw [Json.part, Json.entries, <- something]
  split at found
  · rename_i nothing
    rw [nothing]
    exact (Except.ok.inj found).symm
  · rename_i entries object
    rw [object]
    exact (Except.ok.inj found).symm
  · cases found

/-- For a track with any other id there are none. -/
theorem rulesOf_of_not_isText {rules own : List (String × Json)} {id : Json} (other : ¬ id.IsText)
    (found : rulesOf rules id = .ok own) : own = [] := by
  cases id with
  | string text => exact absurd ⟨text, rfl⟩ other
  | list items => cases found
  | object entries => cases found
  | _ => exact (Except.ok.inj found).symm

end Parts

section Reading

/-! ## Reading the rules one after another -/

variable {trackType : TrackType} {rules : List (String × Json)} {rule other : String × Json}

theorem IsLastFor.mem (last : IsLastFor trackType rules rule) : rule ∈ rules := by
  rcases last with ⟨before, after, rfl, _⟩
  exact List.mem_append_right before List.mem_cons_self

theorem IsLastFor.isFor (last : IsLastFor trackType rules rule) : IsFor trackType rule := by
  rcases last with ⟨before, after, _, here, _⟩
  exact here

theorem IsLastFor.cons (last : IsLastFor trackType rules rule) :
    IsLastFor trackType (other :: rules) rule := by
  rcases last with ⟨before, after, rfl, here, none⟩
  exact ⟨other :: before, after, rfl, here, none⟩

theorem isLastFor_head (here : IsFor trackType rule)
    (none : forall other, other ∈ rules -> ¬ IsFor trackType other) :
    IsLastFor trackType (rule :: rules) rule :=
  ⟨[], rules, rfl, here, none⟩

theorem writes_of_readChecklist {rule : Json} {list : Checklist}
    (read : readChecklist rule = .ok list) : Writes rule list := by
  unfold readChecklist at read
  rcases bind_eq_ok.mp read with ⟨given, found, read⟩
  rcases bind_eq_ok.mp read with ⟨all, readAll, read⟩
  rcases bind_eq_ok.mp readAll with ⟨codes, codesFound, same⟩
  rcases Except.ok.inj same with rfl
  split at read
  · rename_i options something
    rcases bind_eq_ok.mp read with ⟨texts, codesOf, same⟩
    rcases Except.ok.inj same with rfl
    refine ⟨codesFound, given, found, ?_⟩
    rw [ChoiceGiven, something]
    exact ⟨texts, codesOf, rfl⟩
  · rename_i nothing
    rcases Except.ok.inj read with rfl
    refine ⟨codesFound, given, found, ?_⟩
    rw [ChoiceGiven, nothing]

/-- A rule that is for a declaration sets the checklist for it. -/
theorem readChecklists_cons_of_isFor (track : String) (lists : Checklists)
    (here : IsFor trackType rule) :
    (readChecklists track lists (rule :: rules)).outcome
      = readChecklist rule.2 >>= fun list =>
        (readChecklists track (lists.set trackType list) rules).outcome := by
  rcases rule with ⟨key, rule⟩
  rcases here with ⟨named, filled⟩
  dsimp only at named filled
  rw [readChecklists, named, filled]
  exact Logged.outcome_bind _ _

/-- A rule that is for none sets nothing. -/
theorem readChecklists_cons_of_not_isFor (track : String) (lists : Checklists)
    (nowhere : forall trackType, ¬ IsFor trackType rule) :
    (readChecklists track lists (rule :: rules)).outcome
      = (readChecklists track lists rules).outcome := by
  rcases rule with ⟨key, rule⟩
  rw [readChecklists]
  split
  · rename_i trackType named filled
    exact absurd ⟨named, filled⟩ (nowhere trackType)
  · rfl

/-- After all rules the checklist for a declaration is that of the last rule for it, or the one
there was if there is no rule. -/
theorem get?_of_readChecklists {track : String} {lists after : Checklists}
    (read : (readChecklists track lists rules).outcome = .ok after) (trackType : TrackType) :
    (∃ rule list, IsLastFor trackType rules rule ∧ Writes rule.2 list
      ∧ after.get? trackType = some list)
    ∨ ((forall rule, rule ∈ rules -> ¬ IsFor trackType rule)
      ∧ after.get? trackType = lists.get? trackType) := by
  induction rules generalizing lists with
  | nil =>
      rcases Except.ok.inj read with rfl
      exact Or.inr ⟨nofun, rfl⟩
  | cons first rules inductionHypothesis =>
      by_cases named : ∃ declared, IsFor declared first
      case neg =>
        have nowhere : forall declared, ¬ IsFor declared first := not_exists.mp named
        rw [readChecklists_cons_of_not_isFor track lists nowhere] at read
        rcases inductionHypothesis read with ⟨rule, list, last, writes, found⟩ | ⟨none, kept⟩
        · exact Or.inl ⟨rule, list, last.cons, writes, found⟩
        · exact Or.inr ⟨List.forall_mem_cons.mpr ⟨nowhere trackType, none⟩, kept⟩
      case pos =>
        rcases named with ⟨declared, here⟩
        rw [readChecklists_cons_of_isFor track lists here] at read
        rcases bind_eq_ok.mp read with ⟨list, readFirst, read⟩
        rcases inductionHypothesis read with ⟨rule, later, last, writes, found⟩ | ⟨none, kept⟩
        · exact Or.inl ⟨rule, later, last.cons, writes, found⟩
        · rw [Checklists.get?_set] at kept
          split at kept
          · rename_i same
            subst same
            exact Or.inl
              ⟨first, list, isLastFor_head here none, writes_of_readChecklist readFirst, kept⟩
          · rename_i different
            refine Or.inr ⟨List.forall_mem_cons.mpr ⟨?_, none⟩, kept⟩
            intro both
            exact different (Option.some.inj (both.1.symm.trans here.1))

end Reading

section Whole

/-! ## The tracks of a document -/

variable {document : Json}

/-- The checklists of a track come of the rules under its id. -/
theorem hasChecklistsOf_of_read {track : Track} {id : Json} {own : List (String × Json)}
    (text : id.asText? = some track.id)
    (found : forall key, id = .string key -> own = rulesUnder document key)
    (others : ¬ id.IsText -> own = [])
    {name : String} (read : (readChecklists name .empty own).outcome = .ok track.checklists) :
    HasChecklistsOf document id track := by
  have noRule (trackType : TrackType) : Checklists.empty.get? trackType = none :=
    Checklists.get?_empty trackType
  constructor
  case text => exact text
  case given =>
    intro trackType
    rcases get?_of_readChecklists read trackType with ⟨rule, list, last, _, given⟩ | ⟨none, kept⟩
    · rw [given]
      refine iff_of_true rfl ?_
      by_cases isText : id.IsText
      case pos =>
        rcases isText with ⟨key, rfl⟩
        rw [<- Option.some.inj text, <- found key rfl]
        exact ⟨⟨key, rfl⟩, rule, last.mem, last.isFor⟩
      case neg =>
        rw [others isText] at last
        cases last.mem
    · rw [kept, noRule]
      refine iff_of_false nofun ?_
      rintro ⟨⟨key, rfl⟩, rule, member, here⟩
      rw [<- Option.some.inj text, <- found key rfl] at member
      exact none rule member here
  case last =>
    intro trackType list given
    rcases get?_of_readChecklists read trackType with ⟨rule, other, last, writes, same⟩ | ⟨_, kept⟩
    · rcases Option.some.inj (same.symm.trans given) with rfl
      by_cases isText : id.IsText
      case pos =>
        rcases isText with ⟨key, rfl⟩
        rw [<- Option.some.inj text, <- found key rfl]
        exact ⟨rule, last, writes⟩
      case neg =>
        rw [others isText] at last
        cases last.mem
    · rw [kept, noRule] at given
      cases given

/-- The rules of all tracks as they are read of a document. -/
theorem part_readRules (given : Option Json) (key : String)
    (found : document.find? "trackExtraRules" = .ok given) :
    (((Json.something? given).getD (.object [])).part key).entries = rulesUnder document key := by
  cases document with
  | object entries =>
      rcases Except.ok.inj found with rfl
      rw [rulesUnder, Json.part, entries_something?]
      rfl
  | _ => cases found

theorem hasChecklistsOf_of_readTrack {given : Option Json}
    (found : document.find? "trackExtraRules" = .ok given) {entry : Json} {track : Track}
    (read : (readTrack ((Json.something? given).getD (.object [])) entry).outcome = .ok track) :
    ∃ id, entry.need "id" = .ok id ∧ HasChecklistsOf document id track := by
  have under (key : String) := part_readRules given key found
  unfold readTrack at read
  rw [Logged.outcome_bind] at read
  rcases bind_eq_ok.mp read with ⟨own, readOwn, read⟩
  rw [Logged.outcome_bind] at read
  rcases bind_eq_ok.mp read with ⟨id, needed, read⟩
  rw [Logged.outcome_bind] at read
  rcases bind_eq_ok.mp read with ⟨checklists, readLists, read⟩
  rw [Logged.outcome_lift] at needed read
  rw [Logged.outcome_lift] at readOwn
  refine ⟨id, needed, ?_⟩
  have parts : id.asText? = some track.id ∧ track.checklists = checklists := by
    rcases bind_eq_ok.mp read with ⟨additions, _, read⟩
    split at read
    all_goals
      rcases bind_eq_ok.mp read with ⟨adds, _, read⟩
      rcases bind_eq_ok.mp read with ⟨text, written, read⟩
      rcases bind_eq_ok.mp read with ⟨label, _, read⟩
      rcases bind_eq_ok.mp read with ⟨starts, _, read⟩
      rcases bind_eq_ok.mp read with ⟨codes, _, read⟩
      rcases Except.ok.inj read with rfl
      exact ⟨Json.asText?_of_toText written, rfl⟩
  split at readOwn
  · rename_i rules object
    rw [object] at under
    rcases bind_eq_ok.mp readOwn with ⟨same, neededHere, readOwn⟩
    rcases Except.ok.inj (needed.symm.trans neededHere) with rfl
    refine hasChecklistsOf_of_read parts.1 ?_ ?_ (parts.2 ▸ readLists)
    · rintro key rfl
      rw [rulesOf_text readOwn, under]
    · exact fun other => rulesOf_of_not_isText other readOwn
  · cases readOwn

/-- What is read of each entry stands in the place of the entry. -/
theorem forall₂_of_readEach {α : Type} {read : Json -> Logged Json.Mismatch α}
    {entries : List Json} {results : List α} (done : (readEach read entries).outcome = .ok results) :
    List.Forall₂ (fun entry result => (read entry).outcome = .ok result) entries results := by
  induction entries generalizing results with
  | nil =>
      rcases Except.ok.inj done with rfl
      exact .nil
  | cons entry entries inductionHypothesis =>
      unfold readEach at done
      rw [Logged.outcome_bind] at done
      rcases bind_eq_ok.mp done with ⟨first, here, done⟩
      rw [Logged.outcome_bind] at done
      rcases bind_eq_ok.mp done with ⟨rest, later, done⟩
      rcases Except.ok.inj done with rfl
      exact .cons here (inductionHypothesis later)

/-- Entries of which one has an id are those of a list: what another value runs through are texts. -/
theorem eq_list_of_elements {value entry id : Json} {entries : List Json}
    (elements : value.elements = .ok entries) (listed : entry ∈ entries)
    (needed : entry.need "id" = .ok id) : value = .list entries := by
  have noText (text : String) : entry ≠ .string text := by
    rintro rfl
    cases needed
  cases value with
  | list items =>
      rcases Except.ok.inj elements with rfl
      rfl
  | object fields =>
      rcases Except.ok.inj elements with rfl
      rcases List.mem_map.mp listed with ⟨field, _, same⟩
      exact absurd same.symm (noText field.1)
  | string text =>
      rcases Except.ok.inj elements with rfl
      rcases List.mem_map.mp listed with ⟨c, _, same⟩
      exact absurd same.symm (noText _)
  | _ => cases elements

/-- Each track of a document has, for each declaration, the checklist of the last rule for it under
the text of its id, just if the id is a text and there is such a rule. -/
theorem checklists_of_ofDocument {requirements : Requirements Float}
    (given : (ofDocument document).outcome = .ok requirements) :
    ∃ entries, document.need "tracks" = .ok (.list entries)
      ∧ List.Forall₂ (fun entry track =>
        ∃ id, entry.need "id" = .ok id ∧ HasChecklistsOf document id track)
        entries requirements.tracks := by
  rcases readParts_of_ofDocument given with ⟨parts, _, present⟩
  unfold readParts at parts
  rw [Logged.outcome_bind] at parts
  rcases bind_eq_ok.mp parts with ⟨rules, found, parts⟩
  rw [Logged.outcome_bind] at parts
  rcases bind_eq_ok.mp parts with ⟨cohortEntries, _, parts⟩
  rw [Logged.outcome_bind] at parts
  rcases bind_eq_ok.mp parts with ⟨cohorts, _, parts⟩
  rw [Logged.outcome_bind] at parts
  rcases bind_eq_ok.mp parts with ⟨entries, listed, parts⟩
  rw [Logged.outcome_bind] at parts
  rcases bind_eq_ok.mp parts with ⟨tracks, read, same⟩
  rcases Except.ok.inj same with rfl
  rcases bind_eq_ok.mp listed with ⟨value, needed, elements⟩
  have each : List.Forall₂ (fun entry track =>
      ∃ id, entry.need "id" = .ok id ∧ HasChecklistsOf document id track) entries tracks :=
    (forall₂_of_readEach read).imp fun _ _ done => hasChecklistsOf_of_readTrack found done
  refine ⟨entries, ?_, each⟩
  cases each with
  | nil => exact absurd rfl present
  | cons first _ =>
      rcases first with ⟨id, identified, _⟩
      rw [needed, eq_list_of_elements elements List.mem_cons_self identified]

/-- Two tracks with a rule each, one of which has a number as its id. -/
def numberedDocument : Json :=
  let area := Json.object [("minCredits", .int 0)]
  let rules := Json.object [
    ("major", .object [("mustTakeAll", .string "EC200")]),
    (" MAJOR ", .object [
      ("mustTakeAll", .list [.string "EC301"]), ("mustTakeOneOf", .string "EC302+EC303")
    ]),
    ("minor", .object [])
  ]
  .object [
    ("cohorts", .list [.object [
      ("id", .string "2024"),
      ("totals", .object [("totalMin", .int 0), ("basicMin", .int 0), ("advancedMin", .int 0)]),
      ("basic", .object [
        ("math", .object [
          ("chooseCreditsFrom", .object [("codes", .null), ("minCredits", .int 0)])
        ]),
        ("science", .object [
          ("minCredits", .int 0),
          ("areas", .object [("physics", .object []), ("chem", .object []), ("bio", .object [])])
        ]),
        ("engCore", area), ("engSelect", area), ("hssWriting", area), ("english", area)
      ]),
      ("advanced", .object [])
    ]]),
    ("tracks", .list [.object [("id", .string "EE")], .object [("id", .int 7)]]),
    ("trackExtraRules", .object [("EE", rules), ("7", rules)])
  ]

theorem checklists_of_numberedDocument :
    ∃ requirements entries, (ofDocument numberedDocument).outcome = .ok requirements
      ∧ requirements.tracks.map (fun track => track.checklists.major)
        = [some ⟨⟨["EC301"]⟩, some ⟨[["EC302", "EC303"]]⟩⟩, none]
      ∧ requirements.tracks.map (fun track => track.checklists.minor) = [none, none]
      ∧ List.Forall₂ (fun (entry : Json) track =>
        ∃ id, entry.need "id" = .ok id ∧ HasChecklistsOf numberedDocument id track)
        entries requirements.tracks := by
  rcases @checklists_of_ofDocument numberedDocument _ rfl with ⟨entries, _, each⟩
  refine ⟨_, entries, rfl, ?_, ?_, each⟩
  · decide
  · decide

/-- The track `7` goes without the checklist that the document has under `7`, because its id is a
number there. -/
theorem checklist_missed_numberId :
    ∃ requirements track rule, (ofDocument numberedDocument).outcome = .ok requirements
      ∧ track ∈ requirements.tracks
      ∧ track.id = "7"
      ∧ rule ∈ rulesUnder numberedDocument "7"
      ∧ IsFor .major rule
      ∧ track.checklists.get? .major = none := by
  refine ⟨_, _, ("major", .object [("mustTakeAll", .string "EC200")]), rfl,
    List.mem_cons_of_mem _ List.mem_cons_self, ?_, List.mem_cons_self, ?_, rfl⟩
  · decide
  · decide

end Whole

end Requirements
end DegreeAudit
