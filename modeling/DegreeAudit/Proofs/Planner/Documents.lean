import DegreeAudit.Proofs.Json.Magnitude
import DegreeAudit.Proofs.Planner.RoundTrip

namespace DegreeAudit

/-!
# What is read from a document

A document is refused for one of three reasons.  Everything else that a document may hold in the
wrong place is made good, with two exceptions that are not caught, and nothing is read then.
Credits may be a whole number without a nearest real one.  And where a text is taken of any value,
there may be none, since a whole number with too many digits stands in it.  The first that is met
decides.

Texts and bytes are never read as a document with a whole number of so many digits.  So there is
only the first exception for them.
-/

namespace Planner

/-- Credits are not understood only if they are too large. -/
theorem creditsOf_eq_error_iff (value : Json) (failure : Failure) :
    creditsOf value = .error failure ↔ failure = .creditsTooLarge ∧ value.TooLarge := by
  have large := value.toReal_eq_tooLarge_iff
  unfold creditsOf
  split
  case h_1 => simp [Json.TooLarge]
  case h_2 =>
    cases read : value.toReal with
    | ok credits => simp [<- large, read]
    | error mismatch => cases mismatch <;> simp [<- large, read, eq_comm]

end Planner

namespace Snapshot

/-- The items of the course list of a document, if it is an object with such a list. -/
def courseList? : Json -> Option (List Json)
  | .object entries =>
      match Json.lookup "courses" entries with
      | some (.list items) => some items
      | _ => none
  | _ => none

/-- The credits of an item, if it is a course and gives some. -/
def givenCredits? : Json -> Option Json
  | .object entries => Json.lookup "credits" entries
  | _ => none

/-- An item is a course with more credits than any real number. -/
def Item.Overflows (item : Json) : Prop :=
  ∃ credits, givenCredits? item = some credits ∧ credits.TooLarge

/-- There is no text of the value of a key. -/
def HoldsOverlong (key : String) (entries : List (String × Json)) : Prop :=
  ∃ value, Json.lookup key entries = some value ∧ value.HoldsOverlong

/-- There is no text of the value of one of some keys. -/
def LacksText (keys : List String) (entries : List (String × Json)) : Prop :=
  ∃ key, key ∈ keys ∧ HoldsOverlong key entries

/-- Why no course can be made of an item.  The code and the name are looked at before the credits,
and the id after them. -/
inductive Item.Fails : Json -> Planner.Failure -> Prop where
  | naming {entries : List (String × Json)} (lacks : LacksText ["code", "name"] entries) :
      Fails (.object entries) .tooManyDigits
  | credits {entries : List (String × Json)} (named : ¬ LacksText ["code", "name"] entries)
      (large : Item.Overflows (.object entries)) : Fails (.object entries) .creditsTooLarge
  | id {entries : List (String × Json)} (named : ¬ LacksText ["code", "name"] entries)
      (moderate : ¬ Item.Overflows (.object entries)) (overlong : HoldsOverlong "id" entries) :
      Fails (.object entries) .tooManyDigits

/-- Why no courses can be made of items: the first of which none can be made decides. -/
inductive FirstFails : List Json -> Planner.Failure -> Prop where
  | here {item : Json} {items : List Json} {failure : Planner.Failure}
      (fails : Item.Fails item failure) : FirstFails (item :: items) failure
  | later {item : Json} {items : List Json} {failure : Planner.Failure}
      (fine : forall other, ¬ Item.Fails item other) (others : FirstFails items failure) :
      FirstFails (item :: items) failure

/-- Why a source is refused. -/
inductive Refused (source : Source) : Reason -> Prop where
  | notJson {fault : Json.Fault} (unreadable : source.document = .error fault) :
      Refused source (.notJson fault)
  | notObject {document : Json} (readable : source.document = .ok document)
      (other : forall entries, document ≠ .object entries) : Refused source .notObject
  | noCourseList {entries : List (String × Json)}
      (readable : source.document = .ok (.object entries))
      (absent : courseList? (.object entries) = none) : Refused source .noCourseList

/-- Why a source has no answer.  The cohort and the track are looked at before the courses. -/
inductive Unanswered (source : Source) : Planner.Failure -> Prop where
  | choice {entries : List (String × Json)} {items : List Json}
      (readable : source.document = .ok (.object entries))
      (listed : courseList? (.object entries) = some items)
      (lacks : LacksText ["cohortId", "trackId"] entries) : Unanswered source .tooManyDigits
  | course {entries : List (String × Json)} {items : List Json} {failure : Planner.Failure}
      (readable : source.document = .ok (.object entries))
      (listed : courseList? (.object entries) = some items)
      (chosen : ¬ LacksText ["cohortId", "trackId"] entries)
      (fails : FirstFails items failure) : Unanswered source failure

/-- A source is a document whose courses have more credits than any real number. -/
def Overflows (source : Source) : Prop :=
  ∃ entries items item, source.document = .ok (.object entries)
    ∧ courseList? (.object entries) = some items ∧ item ∈ items ∧ Item.Overflows item

section Texts

/-! ## Texts of any value -/

variable {key : String} {entries : List (String × Json)}

theorem textAt?_eq_error_iff (failure : Planner.Failure) :
    textAt? key entries = .error failure
      ↔ failure = .tooManyDigits ∧ HoldsOverlong key entries := by
  rw [HoldsOverlong, <- Json.something?_without_text_iff]
  unfold textAt?
  cases Json.something? (Json.lookup key entries) with
  | none => simp
  | some value => cases written : value.asText? <;> simp [written, eq_comm]

theorem lacksText_pair_iff {other : String} :
    LacksText [key, other] entries ↔ HoldsOverlong key entries ∨ HoldsOverlong other entries := by
  simp [LacksText]

theorem exists_textAt?_iff :
    (∃ given, textAt? key entries = .ok given) ↔ ¬ HoldsOverlong key entries := by
  simp only [exists_ok_iff, textAt?_eq_error_iff, exists_eq_left]

end Texts

section Courses

variable (track : Option Track)

/-- What a course leaves out counts as null, which is not too large. -/
theorem tooLarge_credits_iff (entries : List (String × Json)) :
    ((Json.lookup "credits" entries).getD .null).TooLarge ↔ Item.Overflows (.object entries) := by
  unfold Item.Overflows givenCredits?
  cases found : Json.lookup "credits" entries with
  | none => simp [found, Json.TooLarge]
  | some credits => simp [found]

theorem not_overflows_of_ne_object {item : Json} (other : forall entries, item ≠ .object entries) :
    ¬ Item.Overflows item := by
  rintro ⟨credits, given, _⟩
  unfold givenCredits? at given
  split at given
  · exact other _ rfl
  · cases given

theorem not_fails_of_ne_object {item : Json} (other : forall entries, item ≠ .object entries)
    (failure : Planner.Failure) : ¬ Item.Fails item failure := by
  rintro (_ | _ | _)
  all_goals exact other _ rfl

theorem Item.fails_object_iff (entries : List (String × Json)) (failure : Planner.Failure) :
    Item.Fails (.object entries) failure
      ↔ failure = .tooManyDigits ∧ LacksText ["code", "name"] entries
        ∨ ¬ LacksText ["code", "name"] entries
          ∧ (failure = .creditsTooLarge ∧ Item.Overflows (.object entries)
            ∨ ¬ Item.Overflows (.object entries)
              ∧ failure = .tooManyDigits ∧ HoldsOverlong "id" entries) := by
  constructor
  · rintro (lacks | ⟨named, large⟩ | ⟨named, moderate, overlong⟩)
    · exact Or.inl ⟨rfl, lacks⟩
    · exact Or.inr ⟨named, Or.inl ⟨rfl, large⟩⟩
    · exact Or.inr ⟨named, Or.inr ⟨moderate, rfl, overlong⟩⟩
  · rintro (⟨rfl, lacks⟩ | ⟨named, ⟨rfl, large⟩ | ⟨moderate, rfl, overlong⟩⟩)
    · exact .naming lacks
    · exact .credits named large
    · exact .id named moderate overlong

/-- A course is read unless something is in the way of it. -/
theorem readCourse_eq_error_iff (entries : List (String × Json)) (failure : Planner.Failure) :
    readCourse track entries = .error failure ↔ Item.Fails (.object entries) failure := by
  have credits := Planner.creditsOf_eq_error_iff ((Json.lookup "credits" entries).getD .null)
  rw [tooLarge_credits_iff] at credits
  have given : (∃ number, Planner.creditsOf ((Json.lookup "credits" entries).getD .null)
      = .ok number) ↔ ¬ Item.Overflows (.object entries) := by
    simp only [exists_ok_iff, credits, exists_eq_left]
  have finished {result : CourseData Float × Option String} :
      (pure result : Except Planner.Failure _) ≠ .error failure := nofun
  rw [Item.fails_object_iff, lacksText_pair_iff]
  unfold readCourse
  simp only [bind_eq_error, textAt?_eq_error_iff, credits, finished, and_false, exists_false,
    or_false, exists_and_right, exists_textAt?_iff, given]
  tauto

theorem firstFails_cons_iff (item : Json) (items : List Json) (failure : Planner.Failure) :
    FirstFails (item :: items) failure
      ↔ Item.Fails item failure
        ∨ (forall other, ¬ Item.Fails item other) ∧ FirstFails items failure := by
  constructor
  · rintro (fails | ⟨fine, others⟩)
    · exact Or.inl fails
    · exact Or.inr ⟨fine, others⟩
  · rintro (fails | ⟨fine, others⟩)
    · exact .here fails
    · exact .later fine others

/-- Courses are read unless something is in the way of one of them. -/
theorem readCourses_eq_error_iff (ids : IdSupply) (items : List Json) (failure : Planner.Failure) :
    (readCourses track ids items).courses = .error failure ↔ FirstFails items failure := by
  fun_induction readCourses track ids items
  case case1 ids =>
    constructor
    · intro failed
      cases failed
    · intro fails
      cases fails
  case case2 ids entries items other broken =>
    have fails := readCourse_eq_error_iff track entries
    rw [firstFails_cons_iff, <- fails, broken]
    constructor
    · intro same
      exact Or.inl (congrArg Except.error (Except.error.inj same))
    · rintro (same | ⟨fine, _⟩)
      · exact congrArg Except.error (Except.error.inj same)
      · exact absurd ((fails other).mp broken) (fine other)
  case case3 ids entries items data given read course others inductionHypothesis =>
    have fine (other : Planner.Failure) : ¬ Item.Fails (.object entries) other := by
      intro fails
      rw [<- readCourse_eq_error_iff track, read] at fails
      cases fails
    rw [map_eq_error, inductionHypothesis, firstFails_cons_iff, or_iff_right (fine failure),
      and_iff_right fine]
  case case4 ids item items notObject others inductionHypothesis =>
    have fine := not_fails_of_ne_object notObject
    change others.courses = _ ↔ _
    rw [inductionHypothesis, firstFails_cons_iff, or_iff_right (fine failure), and_iff_right fine]

end Courses

section Sources

variable {requirements : Option (Requirements Float)} {base : PlannerState} {ids : IdSupply}
  {source : Source}

theorem readChoices_eq_error_iff (base : PlannerState) (entries : List (String × Json))
    (failure : Planner.Failure) :
    readChoices entries base = .error failure
      ↔ failure = .tooManyDigits ∧ LacksText ["cohortId", "trackId"] entries := by
  have finished {state : PlannerState} :
      (pure state : Except Planner.Failure _) ≠ .error failure := nofun
  rw [lacksText_pair_iff]
  unfold readChoices
  simp only [bind_eq_error, textAt?_eq_error_iff, finished, and_false, exists_false, or_false,
    exists_and_right, exists_textAt?_iff]
  tauto

section Listed

variable (tracked : forall given, requirements = some given -> given.tracks ≠ [])

include tracked

/-- There is always a track for the choices that are read. -/
theorem readActive_eq_error_iff (entries : List (String × Json)) (failure : Planner.Failure) :
    readActive requirements entries base = .error failure
      ↔ failure = .tooManyDigits ∧ LacksText ["cohortId", "trackId"] entries := by
  rw [<- readChoices_eq_error_iff base]
  unfold readActive
  rw [bind_eq_error]
  refine or_iff_left ?_
  rintro ⟨state, _, failed⟩
  rcases Planner.exists_activeTrack tracked state with ⟨track, active⟩
  rw [active] at failed
  cases failed

/-- A document with a course list gives a state unless something is in the way. -/
theorem result_ofEntries_eq_error_iff (entries : List (String × Json)) (items : List Json)
    (failure : Planner.Failure) :
    (ofEntries requirements base ids entries items).result = .error failure
      ↔ failure = .tooManyDigits ∧ LacksText ["cohortId", "trackId"] entries
        ∨ ¬ LacksText ["cohortId", "trackId"] entries ∧ FirstFails items failure := by
  have chosen := @readActive_eq_error_iff requirements base tracked entries
  unfold ofEntries
  cases active : readActive requirements entries base with
  | error other =>
      rcases (chosen other).mp active with ⟨rfl, overlong⟩
      simp [overlong, eq_comm]
  | ok read =>
      have fine : ¬ LacksText ["cohortId", "trackId"] entries := by
        intro overlong
        have failed := (chosen _).mpr ⟨rfl, overlong⟩
        rw [active] at failed
        cases failed
      dsimp only
      rw [map_eq_error, readCourses_eq_error_iff]
      simp [fine]

end Listed

theorem result_ofEntries_ne_refused (entries : List (String × Json)) (items : List Json)
    (reason : Reason) :
    (ofEntries requirements base ids entries items).result ≠ .ok (.error reason) := by
  unfold ofEntries
  split
  · exact nofun
  · intro refused
    rcases map_eq_ok.mp refused with ⟨courses, _, state⟩
    cases state

/-- What is not refused is a document with a course list. -/
theorem refused_or_listed (source : Source) :
    (∃ reason, Refused source reason)
      ∨ ∃ entries items, source.document = .ok (.object entries)
        ∧ courseList? (.object entries) = some items := by
  cases readable : source.document with
  | error fault => exact Or.inl ⟨_, .notJson readable⟩
  | ok document =>
      cases document with
      | object entries =>
          cases listed : courseList? (.object entries) with
          | some items => exact Or.inr ⟨entries, items, rfl, listed⟩
          | none => exact Or.inl ⟨_, .noCourseList readable listed⟩
      | _ => exact Or.inl ⟨_, .notObject readable nofun⟩

theorem lookup_of_courseList? {entries : List (String × Json)} {items : List Json}
    (listed : courseList? (.object entries) = some items) :
    Json.lookup "courses" entries = some (.list items) := by
  unfold courseList? at listed
  dsimp only at listed
  split at listed
  · rename_i found
    rcases Option.some.inj listed with rfl
    exact found
  · cases listed

theorem read_of_listed {entries : List (String × Json)} {items : List Json}
    (readable : source.document = .ok (.object entries))
    (listed : courseList? (.object entries) = some items) :
    read requirements base ids source = ofEntries requirements base ids entries items := by
  unfold read ofDocument
  rw [readable]
  dsimp only
  rw [lookup_of_courseList? listed]

/-- A source is refused for the reason that there is. -/
theorem result_read_of_refused {reason : Reason} (refused : Refused source reason) :
    (read requirements base ids source).result = .ok (.error reason) := by
  unfold read
  cases refused with
  | notJson unreadable => rw [unreadable]
  | @notObject document readable other =>
      rw [readable]
      cases document with
      | object entries => exact absurd rfl (other entries)
      | _ => rfl
  | @noCourseList entries readable absent =>
      unfold courseList? at absent
      dsimp only at absent
      rw [readable]
      unfold ofDocument
      dsimp only
      split
      · rename_i found
        rw [found] at absent
        cases absent
      · rfl

/-- A source is refused for a reason just if the reason is there. -/
theorem result_read_eq_refused_iff (reason : Reason) :
    (read requirements base ids source).result = .ok (.error reason) ↔ Refused source reason := by
  constructor
  · intro result
    rcases refused_or_listed source with ⟨other, refused⟩ | ⟨entries, items, readable, listed⟩
    · rw [result_read_of_refused refused] at result
      rcases Except.error.inj (Except.ok.inj result) with rfl
      exact refused
    · rw [read_of_listed readable listed] at result
      exact absurd result (result_ofEntries_ne_refused entries items reason)
  · exact result_read_of_refused

/-- What is refused has no course list, and so no answer is kept from it. -/
theorem Refused.not_listed {reason : Reason} (refused : Refused source reason)
    {entries : List (String × Json)} {items : List Json}
    (readable : source.document = .ok (.object entries)) :
    courseList? (.object entries) ≠ some items := by
  intro listed
  cases refused with
  | notJson unreadable =>
      rw [unreadable] at readable
      cases readable
  | notObject again other =>
      rw [again] at readable
      exact other entries (Except.ok.inj readable)
  | noCourseList again absent =>
      rw [again] at readable
      rcases Json.object.inj (Except.ok.inj readable) with rfl
      rw [absent] at listed
      cases listed

theorem unanswered_iff {entries : List (String × Json)} {items : List Json}
    (readable : source.document = .ok (.object entries))
    (listed : courseList? (.object entries) = some items) (failure : Planner.Failure) :
    Unanswered source failure
      ↔ failure = .tooManyDigits ∧ LacksText ["cohortId", "trackId"] entries
        ∨ ¬ LacksText ["cohortId", "trackId"] entries ∧ FirstFails items failure := by
  constructor
  · rintro (⟨again, _, lacks⟩ | ⟨again, also, chosen, fails⟩)
    all_goals
      rw [readable] at again
      rcases Json.object.inj (Except.ok.inj again) with rfl
    · exact Or.inl ⟨rfl, lacks⟩
    · rw [listed] at also
      rcases Option.some.inj also with rfl
      exact Or.inr ⟨chosen, fails⟩
  · rintro (⟨rfl, lacks⟩ | ⟨chosen, fails⟩)
    · exact .choice readable listed lacks
    · exact .course readable listed chosen fails

/-- There is no answer about a source just if something is in the way of one. -/
theorem result_read_eq_error_iff
    (tracked : forall given, requirements = some given -> given.tracks ≠ [])
    (failure : Planner.Failure) :
    (read requirements base ids source).result = .error failure ↔ Unanswered source failure := by
  rcases refused_or_listed source with ⟨reason, refused⟩ | ⟨entries, items, readable, listed⟩
  · rw [result_read_of_refused refused]
    refine iff_of_false nofun ?_
    rintro (⟨readable, listed, _⟩ | ⟨readable, listed, _, _⟩)
    all_goals exact refused.not_listed readable listed
  · rw [read_of_listed readable listed, unanswered_iff readable listed]
    exact result_ofEntries_eq_error_iff tracked entries items failure

/-- A state is read just if nothing is in the way. -/
theorem exists_state_iff
    (tracked : forall given, requirements = some given -> given.tracks ≠ []) :
    (∃ state, (read requirements base ids source).result = .ok (.ok state))
      ↔ (¬ ∃ reason, Refused source reason) ∧ ¬ ∃ failure, Unanswered source failure := by
  have refused := @result_read_eq_refused_iff requirements base ids source
  have unanswered := @result_read_eq_error_iff requirements base ids source tracked
  simp only [<- refused, <- unanswered]
  cases (read requirements base ids source).result with
  | error failure => simp
  | ok answer => cases answer <;> simp

end Sources

section Reading

/-! ## Documents without long numbers -/

variable {source : Source}

theorem not_holdsOverlong_of_lookup {entries : List (String × Json)}
    (short : ¬ (Json.object entries).HoldsOverlong) (key : String) :
    ¬ HoldsOverlong key entries := by
  rintro ⟨value, found, overlong⟩
  exact short (Json.holdsOverlong_of_lookup found overlong)

theorem not_lacksText {entries : List (String × Json)}
    (short : ¬ (Json.object entries).HoldsOverlong) (keys : List String) :
    ¬ LacksText keys entries := by
  rintro ⟨key, _, overlong⟩
  exact not_holdsOverlong_of_lookup short key overlong

theorem Item.fails_iff {item : Json} (short : ¬ item.HoldsOverlong) (failure : Planner.Failure) :
    Item.Fails item failure ↔ failure = .creditsTooLarge ∧ Item.Overflows item := by
  by_cases described : ∃ entries, item = .object entries
  · rcases described with ⟨entries, rfl⟩
    have named := not_lacksText short ["code", "name"]
    have identified := not_holdsOverlong_of_lookup short "id"
    rw [Item.fails_object_iff]
    simp [named, identified]
  · rw [not_exists] at described
    refine iff_of_false (not_fails_of_ne_object described failure) ?_
    rintro ⟨_, overflows⟩
    exact not_overflows_of_ne_object described overflows

theorem firstFails_iff {items : List Json}
    (short : forall item, item ∈ items -> ¬ item.HoldsOverlong) (failure : Planner.Failure) :
    FirstFails items failure
      ↔ failure = .creditsTooLarge ∧ ∃ item, item ∈ items ∧ Item.Overflows item := by
  induction items with
  | nil => exact iff_of_false nofun (by simp)
  | cons item items inductionHypothesis =>
      rcases List.forall_mem_cons.mp short with ⟨first, others⟩
      simp only [firstFails_cons_iff, Item.fails_iff first, inductionHypothesis others,
        List.exists_mem_cons_iff]
      by_cases overflows : Item.Overflows item <;> simp [overflows]

theorem overflows_iff {entries : List (String × Json)} {items : List Json}
    (readable : source.document = .ok (.object entries))
    (listed : courseList? (.object entries) = some items) :
    Overflows source ↔ ∃ item, item ∈ items ∧ Item.Overflows item := by
  constructor
  · rintro ⟨_, _, item, again, also, member, large⟩
    rw [readable] at again
    rcases Json.object.inj (Except.ok.inj again) with rfl
    rw [listed] at also
    rcases Option.some.inj also with rfl
    exact ⟨item, member, large⟩
  · rintro ⟨item, member, large⟩
    exact ⟨_, items, item, readable, listed, member, large⟩

/-- Only credits keep an answer from a document without whole numbers that have too many digits. -/
theorem unanswered_iff_overflows
    (short : forall document, source.document = .ok document -> ¬ document.HoldsOverlong)
    (failure : Planner.Failure) :
    Unanswered source failure ↔ failure = .creditsTooLarge ∧ Overflows source := by
  rcases refused_or_listed source with ⟨reason, refused⟩ | ⟨entries, items, readable, listed⟩
  · refine iff_of_false ?_ ?_
    · rintro (⟨readable, listed, _⟩ | ⟨readable, listed, _, _⟩)
      all_goals exact refused.not_listed readable listed
    · rintro ⟨_, entries, items, _, readable, listed, _⟩
      exact refused.not_listed readable listed
  · have fits := short _ readable
    have chosen := not_lacksText fits ["cohortId", "trackId"]
    rw [unanswered_iff readable listed, overflows_iff readable listed, firstFails_iff]
    · simp [chosen]
    · intro item member overlong
      have found := lookup_of_courseList? listed
      exact fits (Json.holdsOverlong_of_lookup found (.item member overlong))

/-- Texts and bytes are read as documents without such numbers. -/
theorem not_holdsOverlong_document (apart : forall document, source ≠ .value document)
    {document : Json} (readable : source.document = .ok document) : ¬ document.HoldsOverlong := by
  cases source with
  | text content => exact Json.not_holdsOverlong_of_read readable
  | bytes content => exact Json.not_holdsOverlong_of_readBytes readable
  | value document => exact absurd rfl (apart document)

end Reading

end Snapshot
end DegreeAudit
