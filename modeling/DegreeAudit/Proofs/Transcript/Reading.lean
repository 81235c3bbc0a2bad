import DegreeAudit.Proofs.Transcript.Cells
import DegreeAudit.Transcript.Paste

namespace DegreeAudit
namespace Transcript

/-!
# What becomes of lines

Whether a line is recognized depends on the line alone.  What was read before matters in one way
only: the course of a line is added unless its normalized code is known.  So the codes that lines
add are, each once, those that are recognized in them and were not known, and lines are read one
part after another if the codes of the first part are known to the second.
-/

/-- The normalized code that is recognized in a line. -/
def lineKey? (line : List Char) : Option String :=
  (recognize? (cells line)).map fun row => normalizeCode row.code

/-- The normalized codes that are recognized in lines. -/
def recognizedKeys (lines : List (List Char)) : List String :=
  lines.filterMap lineKey?

/-- The normalized codes of the courses that lines add. -/
def addedKeys (readings : List Reading) : List String :=
  (courses readings).map CourseData.key

section Steps

/-! ## One line -/

variable {track : Option Track} {seen : List String} {line : List Char}
  {lines : List (List Char)} {row : Row}

/-- A row is recognized where there are a code and credits. -/
theorem recognize?_eq_some_iff {cells : List (List Char)} :
    recognize? cells = some row
      ↔ ∃ code credit, findCode? cells = some code ∧ findCredits? cells = some credit
        ∧ row = {
          code := String.ofList code
          name := String.ofList (guessName cells (some (credit.index : Int)))
          credits := credit.credits
        } := by
  unfold recognize?
  constructor
  · intro recognized
    split at recognized
    · rename_i code credit codeFound creditFound
      exact ⟨code, credit, codeFound, creditFound, (Option.some.inj recognized).symm⟩
    · cases recognized
  · rintro ⟨code, credit, codeFound, creditFound, rfl⟩
    rw [codeFound, creditFound]

theorem readLines_unrecognized (none : recognize? (cells line) = none) :
    readLines track seen (line :: lines) = .unrecognized line :: readLines track seen lines := by
  simp only [readLines, none]

theorem readLines_duplicate (found : recognize? (cells line) = some row)
    (held : normalizeCode row.code ∈ seen) :
    readLines track seen (line :: lines) = .duplicate row.code :: readLines track seen lines := by
  simp only [readLines, found, List.contains_iff_mem.mpr held, if_true]

theorem readLines_added (found : recognize? (cells line) = some row)
    (new : normalizeCode row.code ∉ seen) :
    readLines track seen (line :: lines)
      = .added (row.course track)
        :: readLines track (normalizeCode row.code :: seen) lines := by
  have absent : seen.contains (normalizeCode row.code) = false := by
    rwa [Bool.eq_false_iff, ne_eq, List.contains_iff_mem]
  simp only [readLines, found, absent, Bool.false_eq_true, if_false]

/-- The ways to read a line: it is not recognized, its code is known, or it adds a course. -/
theorem reading_cases (seen : List String) (line : List Char) :
    recognize? (cells line) = none
      ∨ (∃ row, recognize? (cells line) = some row ∧ normalizeCode row.code ∈ seen)
      ∨ ∃ row, recognize? (cells line) = some row ∧ normalizeCode row.code ∉ seen := by
  cases found : recognize? (cells line) with
  | none => exact Or.inl rfl
  | some row =>
      by_cases held : normalizeCode row.code ∈ seen
      · exact Or.inr (Or.inl ⟨row, rfl, held⟩)
      · exact Or.inr (Or.inr ⟨row, rfl, held⟩)

theorem recognizedKeys_unrecognized (none : recognize? (cells line) = none) :
    recognizedKeys (line :: lines) = recognizedKeys lines :=
  List.filterMap_cons_none (by rw [lineKey?, none]; rfl)

theorem recognizedKeys_found (found : recognize? (cells line) = some row) :
    recognizedKeys (line :: lines) = normalizeCode row.code :: recognizedKeys lines :=
  List.filterMap_cons_some (by rw [lineKey?, found]; rfl)

theorem addedKeys_added (row : Row) (readings : List Reading) :
    addedKeys (.added (row.course track) :: readings)
      = normalizeCode row.code :: addedKeys readings :=
  rfl

end Steps

section Keys

/-! ## The codes that lines add -/

variable {track : Option Track} {lines : List (List Char)}

theorem length_readLines (track : Option Track) (seen : List String) (lines : List (List Char)) :
    (readLines track seen lines).length = lines.length := by
  induction lines generalizing seen with
  | nil => rfl
  | cons line lines inductionHypothesis =>
      rcases reading_cases seen line with none | ⟨row, found, held⟩ | ⟨row, found, new⟩
      · rw [readLines_unrecognized none, List.length_cons, List.length_cons, inductionHypothesis]
      · rw [readLines_duplicate found held, List.length_cons, List.length_cons,
          inductionHypothesis]
      · rw [readLines_added found new, List.length_cons, List.length_cons, inductionHypothesis]

/-- Lines add the codes that are recognized in them and were not known. -/
theorem mem_addedKeys_iff {seen : List String} {key : String} :
    key ∈ addedKeys (readLines track seen lines) ↔ key ∈ recognizedKeys lines ∧ key ∉ seen := by
  induction lines generalizing seen with
  | nil => simp [readLines, addedKeys, courses, recognizedKeys]
  | cons line lines inductionHypothesis =>
      rcases reading_cases seen line with none | ⟨row, found, held⟩ | ⟨row, found, new⟩
      · rw [readLines_unrecognized none, recognizedKeys_unrecognized none]
        exact inductionHypothesis
      · rw [readLines_duplicate found held, recognizedKeys_found found, List.mem_cons]
        refine inductionHypothesis.trans (and_congr_left fun absent => ?_)
        constructor
        · exact Or.inr
        · rintro (rfl | later)
          · exact absurd held absent
          · exact later
      · rw [readLines_added found new, recognizedKeys_found found, addedKeys_added, List.mem_cons,
          List.mem_cons, inductionHypothesis, List.mem_cons]
        by_cases same : key = normalizeCode row.code
        · simp [same, new]
        · simp [same]

/-- No code is added twice. -/
theorem nodup_addedKeys (track : Option Track) (seen : List String) (lines : List (List Char)) :
    (addedKeys (readLines track seen lines)).Nodup := by
  induction lines generalizing seen with
  | nil => exact List.nodup_nil
  | cons line lines inductionHypothesis =>
      rcases reading_cases seen line with none | ⟨row, found, held⟩ | ⟨row, found, new⟩
      · rw [readLines_unrecognized none]
        exact inductionHypothesis seen
      · rw [readLines_duplicate found held]
        exact inductionHypothesis seen
      · rw [readLines_added found new, addedKeys_added, List.nodup_cons]
        refine ⟨?_, inductionHypothesis _⟩
        intro again
        exact (mem_addedKeys_iff.mp again).2 List.mem_cons_self

/-- What lines add depends on the codes that are recognized in them, up to its order. -/
theorem addedKeys_perm (track : Option Track) (seen : List String)
    {first second : List (List Char)}
    (same : forall key, key ∈ recognizedKeys first ↔ key ∈ recognizedKeys second) :
    (addedKeys (readLines track seen first)).Perm (addedKeys (readLines track seen second)) := by
  rw [List.perm_ext_iff_of_nodup (nodup_addedKeys track seen first)
    (nodup_addedKeys track seen second)]
  intro key
  rw [mem_addedKeys_iff, mem_addedKeys_iff, same key]

end Keys

section Parts

/-! ## Lines read in parts -/

variable {track : Option Track} {lines : List (List Char)}

/-- Known codes matter only as far as they are recognized in the lines. -/
theorem readLines_congr {seen others : List String}
    (same : forall key, key ∈ recognizedKeys lines -> (key ∈ seen ↔ key ∈ others)) :
    readLines track seen lines = readLines track others lines := by
  induction lines generalizing seen others with
  | nil => rfl
  | cons line lines inductionHypothesis =>
      rcases reading_cases seen line with none | ⟨row, found, held⟩ | ⟨row, found, new⟩
      · rw [recognizedKeys_unrecognized none] at same
        rw [readLines_unrecognized none, readLines_unrecognized none, inductionHypothesis same]
      · rw [recognizedKeys_found found] at same
        have also := (same _ List.mem_cons_self).mp held
        rw [readLines_duplicate found held, readLines_duplicate found also,
          inductionHypothesis fun key member => same key (List.mem_cons_of_mem _ member)]
      · rw [recognizedKeys_found found] at same
        have also := fun held => new ((same _ List.mem_cons_self).mpr held)
        rw [readLines_added found new, readLines_added found also, inductionHypothesis]
        intro key member
        rw [List.mem_cons, List.mem_cons, same key (List.mem_cons_of_mem _ member)]

/-- The codes that the first lines add are known to those that come after them. -/
theorem readLines_append (track : Option Track) (seen : List String)
    (first second : List (List Char)) :
    readLines track seen (first ++ second)
      = readLines track seen first
        ++ readLines track (addedKeys (readLines track seen first) ++ seen) second := by
  induction first generalizing seen with
  | nil => rfl
  | cons line first inductionHypothesis =>
      rw [List.cons_append]
      rcases reading_cases seen line with none | ⟨row, found, held⟩ | ⟨row, found, new⟩
      · rw [readLines_unrecognized none, readLines_unrecognized none, inductionHypothesis]
        rfl
      · rw [readLines_duplicate found held, readLines_duplicate found held, inductionHypothesis]
        rfl
      · rw [readLines_added found new, readLines_added found new, inductionHypothesis,
          addedKeys_added, List.cons_append]
        congr 2
        apply readLines_congr
        intro key _
        simp only [List.mem_append, List.mem_cons, or_assoc]
        exact or_left_comm

/-- Lines with no code in common are read as if they were alone. -/
theorem readLines_append_of_apart (track : Option Track) (seen : List String)
    {first second : List (List Char)}
    (apart : forall key, key ∈ recognizedKeys first -> key ∉ recognizedKeys second) :
    readLines track seen (first ++ second)
      = readLines track seen first ++ readLines track seen second := by
  rw [readLines_append]
  congr 1
  apply readLines_congr
  intro key recognized
  rw [List.mem_append, or_iff_right]
  intro added
  exact apart key (mem_addedKeys_iff.mp added).1 recognized

theorem recognizedKeys_append (first second : List (List Char)) :
    recognizedKeys (first ++ second) = recognizedKeys first ++ recognizedKeys second :=
  List.filterMap_append

theorem courses_append (first second : List Reading) :
    courses (first ++ second) = courses first ++ courses second :=
  List.filterMap_append

end Parts

section Courses

/-! ## The courses that lines add -/

/-- Whether two rows have the same normalized code. -/
def Row.sameKey (first second : Row) : Bool :=
  normalizeCode first.code == normalizeCode second.code

/-- The rows that are recognized in lines. -/
def recognizedRows (lines : List (List Char)) : List Row :=
  lines.filterMap fun line => recognize? (cells line)

theorem recognizedRows_unrecognized {line : List Char} (none : recognize? (cells line) = none)
    (lines : List (List Char)) : recognizedRows (line :: lines) = recognizedRows lines :=
  List.filterMap_cons_none (f := fun line => recognize? (cells line)) none

theorem recognizedRows_found {line : List Char} {row : Row}
    (found : recognize? (cells line) = some row) (lines : List (List Char)) :
    recognizedRows (line :: lines) = row :: recognizedRows lines :=
  List.filterMap_cons_some (f := fun line => recognize? (cells line)) found

theorem mem_recognizedKeys_iff {lines : List (List Char)} {key : String} :
    key ∈ recognizedKeys lines
      ↔ ∃ line, line ∈ lines
        ∧ ∃ row, recognize? (cells line) = some row ∧ normalizeCode row.code = key := by
  simp only [recognizedKeys, List.mem_filterMap, lineKey?, Option.map_eq_some_iff]

/-- Lines add the courses of the rows that are recognized in them, but of rows with the same
normalized code only the first, and none of a code that is known. -/
theorem courses_readLines (track : Option Track) (seen : List String) (lines : List (List Char)) :
    courses (readLines track seen lines)
      = (((recognizedRows lines).filter fun row =>
          decide (normalizeCode row.code ∉ seen)).eraseDupsBy Row.sameKey).map
        (Row.course track) := by
  induction lines generalizing seen with
  | nil => rfl
  | cons line lines inductionHypothesis =>
      rcases reading_cases seen line with none | ⟨row, found, held⟩ | ⟨row, found, new⟩
      · rw [readLines_unrecognized none, recognizedRows_unrecognized none]
        exact inductionHypothesis seen
      · rw [readLines_duplicate found held, recognizedRows_found found,
          List.filter_cons_of_neg (by simpa using held)]
        exact inductionHypothesis seen
      · rw [readLines_added found new, recognizedRows_found found,
          List.filter_cons_of_pos (by simpa using new), List.eraseDupsBy_cons, List.map_cons,
          List.filter_filter]
        have later : (recognizedRows lines).filter (fun other =>
              decide (normalizeCode other.code ∉ normalizeCode row.code :: seen))
            = (recognizedRows lines).filter fun other =>
              decide (other.sameKey row = false) && decide (normalizeCode other.code ∉ seen) := by
          apply List.filter_congr
          intro other _
          rw [← Bool.decide_and, decide_eq_decide, List.mem_cons, not_or, Row.sameKey,
            beq_eq_false_iff_ne]
        rw [← later, ← inductionHypothesis]
        rfl

/-- The first lines are read as if the others were not there. -/
theorem take_readLines (track : Option Track) (seen : List String)
    (before after : List (List Char)) :
    (readLines track seen (before ++ after)).take before.length
      = readLines track seen before := by
  rw [readLines_append, List.take_left' (length_readLines track seen before)]

/-- A line adds a course if a row is recognized in it whose code is neither known nor that of a
course that is added before. -/
theorem reading_after (track : Option Track) (seen : List String) (before : List (List Char))
    (line : List Char) (after : List (List Char)) :
    ∃ reading, (readLines track seen (before ++ line :: after))[before.length]? = some reading
      ∧ (reading.course?.isSome = true
        ↔ ∃ row, recognize? (cells line) = some row
          ∧ normalizeCode row.code ∉ addedKeys (readLines track seen before) ++ seen) := by
  have place (others : List Reading) :
      (readLines track seen before ++ others)[before.length]? = others[0]? := by
    rw [List.getElem?_append_right (length_readLines track seen before).le, length_readLines,
      Nat.sub_self]
  rw [readLines_append, place]
  rcases reading_cases (addedKeys (readLines track seen before) ++ seen) line with
    none | ⟨row, found, held⟩ | ⟨row, found, new⟩
  · rw [readLines_unrecognized none]
    refine ⟨_, rfl, iff_of_false nofun ?_⟩
    rintro ⟨row, found, _⟩
    cases none.symm.trans found
  · rw [readLines_duplicate found held]
    refine ⟨_, rfl, iff_of_false nofun ?_⟩
    rintro ⟨other, also, new⟩
    rcases Option.some.inj (found.symm.trans also) with rfl
    exact new held
  · rw [readLines_added found new]
    exact ⟨_, rfl, iff_of_true rfl ⟨row, found, new⟩⟩

/-- A line adds a course if a row is recognized in it whose code is neither known nor that of a row
that is recognized before. -/
theorem reading_at (track : Option Track) (seen : List String) (before : List (List Char))
    (line : List Char) (after : List (List Char)) :
    ∃ reading, (readLines track seen (before ++ line :: after))[before.length]? = some reading
      ∧ (reading.course?.isSome = true
        ↔ ∃ row, recognize? (cells line) = some row ∧ normalizeCode row.code ∉ seen
          ∧ normalizeCode row.code ∉ recognizedKeys before) := by
  rcases reading_after track seen before line after with ⟨reading, there, adds⟩
  refine ⟨reading, there, adds.trans (exists_congr fun row => and_congr_right fun _ => ?_)⟩
  rw [List.mem_append, mem_addedKeys_iff]
  by_cases held : normalizeCode row.code ∈ seen
  · simp [held]
  · simp [held]

/-- Courses come in the order of the lines that add them. -/
theorem exists_lines_of_courses (track : Option Track) (seen : List String)
    (lines : List (List Char)) :
    ∃ adding : List (List Char), adding.Sublist lines
      ∧ List.Forall₂ (fun line course => ∃ row, recognize? (cells line) = some row
        ∧ course = row.course track) adding (courses (readLines track seen lines)) := by
  induction lines generalizing seen with
  | nil => exact ⟨[], List.Sublist.refl [], List.Forall₂.nil⟩
  | cons line lines inductionHypothesis =>
      rcases reading_cases seen line with none | ⟨row, found, held⟩ | ⟨row, found, new⟩
      · rw [readLines_unrecognized none]
        rcases inductionHypothesis seen with ⟨adding, among, each⟩
        exact ⟨adding, among.cons line, each⟩
      · rw [readLines_duplicate found held]
        rcases inductionHypothesis seen with ⟨adding, among, each⟩
        exact ⟨adding, among.cons line, each⟩
      · rw [readLines_added found new]
        rcases inductionHypothesis (normalizeCode row.code :: seen) with ⟨adding, among, each⟩
        exact ⟨line :: adding, among.cons_cons line, each.cons ⟨row, found, rfl⟩⟩

/-- Each course comes of a line. -/
theorem exists_line_of_mem_courses {track : Option Track} {seen : List String}
    {lines : List (List Char)} {course : CourseData Float}
    (member : course ∈ courses (readLines track seen lines)) :
    ∃ line row, recognize? (cells line) = some row ∧ course = row.course track := by
  rcases exists_lines_of_courses track seen lines with ⟨adding, _, each⟩
  rcases List.forall₂_iff_get.mp each with ⟨length, same⟩
  rcases List.mem_iff_get.mp member with ⟨⟨index, bounded⟩, rfl⟩
  exact ⟨_, same index (by rwa [length]) bounded⟩

end Courses

section Counts

/-! ## Counts -/

/-- Counts of readings that come one after another. -/
theorem counts_append (first second : List Reading) :
    counts (first ++ second)
      = {
          lines := (counts first).lines + (counts second).lines
          added := (counts first).added + (counts second).added
          skipped := (counts first).skipped + (counts second).skipped
        } := by
  simp [counts, List.countP_append]

/-- A line adds a course or is skipped. -/
theorem counts_eq (readings : List Reading) :
    counts readings
      = {
          lines := readings.length
          added := (courses readings).length
          skipped := readings.length - (courses readings).length
        } := by
  have added :
      readings.countP (fun reading => reading.course?.isSome) = (courses readings).length :=
    List.length_filterMap_eq_countP.symm
  have both := List.length_eq_countP_add_countP (fun reading : Reading => reading.course?.isSome)
    (l := readings)
  have skipped : readings.countP (fun reading => reading.course?.isNone)
      = readings.countP fun reading => decide (¬ reading.course?.isSome = true) :=
    List.countP_congr fun reading _ => by simp
  simp only [counts, skipped, added] at both ⊢
  rw [Nat.eq_sub_of_add_eq' both.symm]

/-- Where no course is added, every line is skipped. -/
theorem counts_of_noCourses {readings : List Reading} (none : courses readings = []) :
    counts readings = { lines := readings.length, added := 0, skipped := readings.length } := by
  rw [counts_eq, none]
  rfl

end Counts

end Transcript
end DegreeAudit
