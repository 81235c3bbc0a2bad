import DegreeAudit.Proofs.Audit.Badges
import DegreeAudit.Proofs.Audit.Figures
import DegreeAudit.Proofs.Audit.Flags

namespace DegreeAudit

/-!
# One verdict in four forms

A report tells whether all requirements are met as the verdict itself, as the list of clauses that
are not met, as the truth values of its document and as the badges and the last line of its text.
The four are put together apart from each other, and they never differ.
-/

namespace Requirements

variable {κ : Type} {requirements : Requirements κ}

theorem exists_find?_id {Entry : Type} (id : Entry -> String) {entries : List Entry} {entry : Entry}
    (listed : entry ∈ entries) :
    ∃ found, found ∈ entries ∧ id found = id entry
      ∧ entries.find? (fun other => some (id other) == some (id entry)) = some found := by
  have present : (entries.find? fun other => some (id other) == some (id entry)).isSome :=
    List.find?_isSome.mpr ⟨entry, listed, beq_self_eq_true _⟩
  rcases Option.isSome_iff_exists.mp present with ⟨found, search⟩
  have same : (some (id found) == some (id entry)) = true :=
    (List.find?_eq_some_iff_append.mp search).1
  exact ⟨found, List.mem_of_find?_eq_some search, Option.some.inj (beq_iff_eq.mp same), search⟩

/-- The cohort that is found under the id of a listed one has the same id. -/
theorem cohort_of_mem {cohort : Cohort κ} (listed : cohort ∈ requirements.cohorts) :
    ∃ found, found ∈ requirements.cohorts ∧ found.id = cohort.id
      ∧ requirements.cohort (some cohort.id) = .ok found := by
  rcases exists_find?_id Cohort.id listed with ⟨found, member, same, search⟩
  rcases List.exists_cons_of_ne_nil (List.ne_nil_of_mem listed) with ⟨first, others, all⟩
  refine ⟨found, member, same, ?_⟩
  rw [all] at search
  simp only [Requirements.cohort, all, search, Option.getD_some]

/-- So has the track. -/
theorem track_of_mem {track : Track} (listed : track ∈ requirements.tracks) :
    ∃ found, found ∈ requirements.tracks ∧ found.id = track.id
      ∧ requirements.track (some track.id) = .ok found := by
  rcases exists_find?_id Track.id listed with ⟨found, member, same, search⟩
  rcases List.exists_cons_of_ne_nil (List.ne_nil_of_mem listed) with ⟨first, others, all⟩
  refine ⟨found, member, same, ?_⟩
  rw [all] at search
  simp only [Requirements.track, all, search, Option.getD_some]

end Requirements

namespace Audit

/-- A report on any courses, for a cohort and a track of any requirements, has a text, and these are
the same: the verdict; that no clause is named as not met; that its truth values are all true, but
for those of the two ways to meet theory; that every badge in the lines of the text is that of what
is met; and that the last line of the text says so.  The required codes are all held just where no
code stands beside them as missing. -/
theorem verdicts_agree {requirements : Requirements Float} {cohort : Cohort Float} {track : Track}
    (listed : cohort ∈ requirements.cohorts) (offered : track ∈ requirements.tracks)
    (trackType : TrackType) (courses : List (Course Float)) :
    let report := evaluate courses cohort track trackType
    (∃ named chosen text, (named ∈ requirements.cohorts ∧ named.id = cohort.id)
        ∧ (chosen ∈ requirements.tracks ∧ chosen.id = track.id)
        ∧ Summary.text report requirements = .ok text
        ∧ text = Text.joinStrings "\n" (Summary.lines report named.label chosen.label)
        ∧ (report.satisfied = true <-> report.unmet = [])
        ∧ (report.satisfied = true <-> AllTrue report.flags)
        ∧ (report.satisfied = true
          <-> Summary.AllOk (Summary.lines report named.label chosen.label))
        ∧ (report.satisfied = true <-> (Text.splitOn '\n' text.toList).getLast?
          = some "All graduation requirements are met.".toList))
      ∧ (report.math.requiredOk = true <-> report.math.missing = [])
      ∧ (forall area, area ∈ report.areas -> (area.requiredOk = true <-> area.missing = []))
      ∧ forall list, list ∈ report.checklist -> (list.allOk = true <-> list.missing = []) := by
  intro report
  refine ⟨?_, check_iff_missing _, ?_, ?_⟩
  · rcases Requirements.cohort_of_mem listed with ⟨named, inCohorts, cohortId, cohortFound⟩
    rcases Requirements.track_of_mem offered with ⟨chosen, inTracks, trackId, trackFound⟩
    have written : Summary.text report requirements
        = .ok (Text.joinStrings "\n" (Summary.lines report named.label chosen.label)) := by
      change (do
        let found <- requirements.cohort (some cohort.id)
        let other <- requirements.track (some track.id)
        pure (Text.joinStrings "\n" (Summary.lines report found.label other.label))) = _
      rw [cohortFound, trackFound]
      rfl
    refine ⟨named, chosen, _, ⟨inCohorts, cohortId⟩, ⟨inTracks, trackId⟩, written, rfl,
      report.unmet_eq_nil_iff.symm, (allTrue_flags_iff cohort track trackType).symm,
      (allOk_lines_iff cohort track trackType named.label chosen.label).symm, ?_⟩
    rw [Summary.getLast?_splitOn_lines, Option.some_inj, String.toList_inj,
      Summary.verdictLine_eq_iff]
  · intro area member
    rcases area_of_mem_areas member with ⟨rule, bucket, rfl⟩
    exact check_iff_missing rule.required
  · intro list member
    rcases checklist_of_mem member with ⟨rule, rfl⟩
    exact check_iff_missing rule.all

/-- Requirements with one cohort and one track. -/
def oneOfEach : Requirements Float :=
  ⟨[nineInMath], [undemandingTrack]⟩

/-- The two courses meet them, and the text on the courses ends by saying so. -/
theorem verdicts_agree_twoBasics :
    nineInMath ∈ oneOfEach.cohorts ∧ undemandingTrack ∈ oneOfEach.tracks
      ∧ ∃ text, Summary.text (evaluate twoBasics nineInMath undemandingTrack .major) oneOfEach
          = .ok text
        ∧ (Text.splitOn '\n' text.toList).getLast?
          = some "All graduation requirements are met.".toList := by
  have listed : nineInMath ∈ oneOfEach.cohorts := List.mem_singleton_self _
  have offered : undemandingTrack ∈ oneOfEach.tracks := List.mem_singleton_self _
  have satisfied : (evaluate twoBasics nineInMath undemandingTrack .major).satisfied = true := by
    decide
  rcases verdicts_agree listed offered .major twoBasics with
    ⟨⟨_, _, text, _, _, written, _, _, _, _, last⟩, _⟩
  exact ⟨listed, offered, text, written, last.mp satisfied⟩

end Audit
end DegreeAudit
