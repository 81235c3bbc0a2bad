import Mathlib.Tactic.SplitIfs
import DegreeAudit.Classification

namespace DegreeAudit
namespace Classification

/-!
# Suggested buckets

No strategy ever answers with the bucket of all others, so a course is suggested for it just if it
is known to none of them.  Only one strategy looks at the track, and all that it can answer is the
bucket of the track.  A course that was suggested for all others is therefore suggested for the
bucket of another track or again for all others.
-/

theorem classify_eq (code name : String) (track : Option Track) :
    classify code name track
      = ((familyBucket? (normalizeCode code)).or
        ((trackBucket? track (normalizeCode code)).or (keywordBucket? name))).getD .other := by
  simp only [classify, suggest, Strategy.all, List.filterMap_cons, List.filterMap_nil,
    Strategy.bucket?]
  cases familyBucket? (normalizeCode code) with
  | some bucket => rfl
  | none =>
      cases trackBucket? track (normalizeCode code) with
      | some bucket => rfl
      | none => cases keywordBucket? name <;> rfl

theorem scienceBucket_ne_other (code : String) : scienceBucket code ≠ .other := by
  intro other
  unfold scienceBucket at other
  split_ifs at other

theorem familyBucket?_ne_other (code : String) : familyBucket? code ≠ some .other := by
  intro other
  unfold familyBucket? at other
  split_ifs at other
  · exact scienceBucket_ne_other code (Option.some.inj other)
  all_goals cases other

theorem keywordBucket?_ne_other (name : String) : keywordBucket? name ≠ some .other := by
  intro other
  unfold keywordBucket? at other
  dsimp only at other
  split_ifs at other
  all_goals cases other

theorem trackBucket?_eq_none_or (track : Option Track) (code : String) :
    trackBucket? track code = none ∨ trackBucket? track code = some .track := by
  cases track with
  | none => exact Or.inl rfl
  | some track =>
      unfold trackBucket?
      dsimp only
      split_ifs
      · exact Or.inr rfl
      · exact Or.inl rfl

/-- A course is suggested for all others just if no strategy has an answer. -/
theorem classify_eq_other_iff {code name : String} {track : Option Track} :
    classify code name track = .other
      ↔ familyBucket? (normalizeCode code) = none
        ∧ trackBucket? track (normalizeCode code) = none ∧ keywordBucket? name = none := by
  rw [classify_eq]
  constructor
  · intro other
    cases family : familyBucket? (normalizeCode code) with
    | some bucket =>
        rw [family] at other
        exact absurd (family.trans (congrArg some other)) (familyBucket?_ne_other _)
    | none =>
        rw [family, Option.none_or] at other
        rcases trackBucket?_eq_none_or track (normalizeCode code) with absent | found
        · rw [absent, Option.none_or] at other
          cases keyword : keywordBucket? name with
          | some bucket =>
              rw [keyword] at other
              exact absurd (keyword.trans (congrArg some other)) (keywordBucket?_ne_other name)
          | none => exact ⟨rfl, absent, rfl⟩
        · rw [found] at other
          cases other
  · rintro ⟨family, absent, keyword⟩
    rw [family, absent, keyword]
    rfl

/-- A course that was suggested for all others can only be suggested for the bucket of a track
instead. -/
theorem classify_of_other {code name : String} {previous : Option Track}
    (other : classify code name previous = .other) (track : Option Track) :
    classify code name track = .track ∨ classify code name track = .other := by
  rcases classify_eq_other_iff.mp other with ⟨family, _, keyword⟩
  rw [classify_eq, family, keyword]
  rcases trackBucket?_eq_none_or track (normalizeCode code) with absent | found
  · rw [absent]
    exact Or.inr rfl
  · rw [found]
    exact Or.inl rfl

end Classification
end DegreeAudit
