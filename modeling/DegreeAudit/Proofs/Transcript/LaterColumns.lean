import DegreeAudit.Proofs.Transcript.Cleaning
import DegreeAudit.Proofs.Transcript.Code
import DegreeAudit.Proofs.Transcript.Credit
import DegreeAudit.Proofs.Transcript.NameSearch

namespace DegreeAudit
namespace Transcript

/-!
# Columns after the grade

A transcript has columns that no course is made of: averages, remarks, the codes of other courses.
They come after the grade.  The first cell that is a code as a whole, the first credits with a grade
after them and the longest name before these credits are found without them, so a line with a tab
that has such cells is read as if it ended with them, whatever stands after one more tab.

Without a grade after the credits this fails, since the last number of a row is taken then; without
a cell that is a code as a whole it fails as well, since a later cell may be one.
-/

section Rows

/-! ## Rows with more cells after them -/

variable {row : List (List Char)} {code : List Char} {found other : CreditCell}

theorem findCode?_append (member : code ∈ row) (word : IsCodeWord code)
    (later : List (List Char)) : findCode? (row ++ later) = findCode? row := by
  have whole : ((row.map Text.trim).find? isCode).isSome = true := by
    rw [List.find?_isSome]
    refine ⟨Text.trim code, List.mem_map_of_mem member, ?_⟩
    rw [Text.trim_of_noBlank word.noBlank]
    exact isCode_iff.mpr word
  rcases Option.isSome_iff_exists.mp whole with ⟨first, foundFirst⟩
  unfold findCode?
  rw [List.map_append, List.find?_append, foundFirst]
  rfl

theorem exists_findCode? (member : code ∈ row) (word : IsCodeWord code) :
    ∃ first, findCode? row = some first := by
  cases absent : findCode? row with
  | none => exact absurd word.holdsCode (findCode?_eq_none_iff.mp absent code member)
  | some first => exact ⟨first, rfl⟩

/-- The grade stands in the row. -/
theorem IsGraded.next_lt (graded : IsGraded row found) : found.index + 1 < row.length := by
  by_contra beyond
  have grade := graded.grade
  rw [List.getElem?_eq_none (Nat.le_of_not_lt beyond)] at grade
  exact Bool.false_ne_true grade

/-- Inside of a row it does not matter what comes after. -/
theorem isGraded_append_iff (inside : other.index + 1 < row.length) (later : List (List Char)) :
    IsGraded (row ++ later) other ↔ IsGraded row other := by
  have here : (row ++ later)[other.index]? = row[other.index]? :=
    List.getElem?_append_left (Nat.lt_of_succ_lt inside)
  have next : (row ++ later)[other.index + 1]? = row[other.index + 1]? :=
    List.getElem?_append_left inside
  constructor
  · rintro ⟨credits, grade⟩
    exact ⟨here ▸ credits, next ▸ grade⟩
  · rintro ⟨credits, grade⟩
    exact ⟨here.symm ▸ credits, next.symm ▸ grade⟩

theorem exists_creditsBeforeGrade? (graded : IsGraded row found) :
    ∃ first, creditsBeforeGrade? row = some first := by
  rw [<- Option.isSome_iff_exists, creditsBeforeGrade?, List.find?_isSome]
  exact ⟨found, mem_plausibleCells_iff.mpr graded.credits, graded.grade⟩

/-- Credits with a grade after them are found before any that come later. -/
theorem creditsBeforeGrade?_append (graded : IsGraded row found) (later : List (List Char)) :
    creditsBeforeGrade? (row ++ later) = creditsBeforeGrade? row := by
  rcases exists_creditsBeforeGrade? graded with ⟨first, foundFirst⟩
  rw [foundFirst]
  rw [creditsBeforeGrade?_eq_some_iff] at foundFirst ⊢
  rcases foundFirst with ⟨gradedFirst, least⟩
  have inside := gradedFirst.next_lt
  refine ⟨(isGraded_append_iff inside later).mpr gradedFirst, ?_⟩
  intro other gradedOther
  by_contra earlier
  have insideOther : other.index + 1 < row.length := by omega
  exact earlier (least other ((isGraded_append_iff insideOther later).mp gradedOther))

theorem findCredits?_append (graded : IsGraded row found) (later : List (List Char)) :
    findCredits? (row ++ later) = findCredits? row := by
  rcases exists_creditsBeforeGrade? graded with ⟨first, foundFirst⟩
  rw [findCredits?, findCredits?, creditsBeforeGrade?_append graded, foundFirst]
  rfl

/-- Cells from the column of the credits on are not looked at for a name. -/
theorem guessName_append {column : Nat} (inside : column ≤ row.length)
    (later : List (List Char)) :
    guessName (row ++ later) (some (column : Int)) = guessName row (some (column : Int)) := by
  rw [guessName_column, guessName_column, List.take_append_of_le_length inside]

/-- A row with a code in a cell of its own and a grade after credits is recognized, and more cells
after it change nothing. -/
theorem recognize?_append (member : code ∈ row) (word : IsCodeWord code)
    (graded : IsGraded row found) :
    ∃ recognized, recognize? row = some recognized
      ∧ forall later, recognize? (row ++ later) = some recognized := by
  rcases exists_findCode? member word with ⟨first, codeFound⟩
  rcases exists_creditsBeforeGrade? graded with ⟨credit, creditFound⟩
  have inside := (creditsBeforeGrade?_eq_some_iff.mp creditFound).1.next_lt
  have taken : findCredits? row = some credit := by
    rw [findCredits?, creditFound]
    rfl
  refine ⟨_, recognize?_eq_some_iff.mpr ⟨first, credit, codeFound, taken, rfl⟩, ?_⟩
  intro later
  rw [recognize?_eq_some_iff]
  refine ⟨first, credit, ?_, ?_, ?_⟩
  · rw [findCode?_append member word, codeFound]
  · rw [findCredits?_append graded, taken]
  · rw [guessName_append (Nat.le_of_lt (Nat.lt_of_succ_lt inside))]

end Rows

section Lines

/-! ## Lines with more columns after them -/

variable {text : List Char}

/-- A text as it is cut into lines: with plain spaces, and without carriage returns. -/
def cleaned (text : List Char) : List Char :=
  (plainSpaces text).filter fun c => c != '\r'

theorem cleaned_append (first second : List Char) :
    cleaned (first ++ second) = cleaned first ++ cleaned second := by
  unfold cleaned
  rw [plainSpaces_append, List.filter_append]

/-- What is seen in a text is kept. -/
theorem cleaned_of_visible {c : Char} (seen : Text.isBlank c = false) : cleaned [c] = [c] := by
  have noReturn : c ≠ '\r' := by
    rintro rfl
    exact Bool.noConfusion seen
  simp [cleaned, plainSpaces_eq, plainSpace_of_visible seen, noReturn]

/-- A mark that is neither replaced nor left out stands where it stood. -/
theorem mem_cleaned_iff {mark : Char} (usual : isSpaceLike mark = false) (noSpace : mark ≠ ' ')
    (noReturn : mark ≠ '\r') : mark ∈ cleaned text ↔ mark ∈ text := by
  unfold cleaned
  rw [List.mem_filter, bne_iff_ne, and_iff_left noReturn, plainSpaces_eq, List.mem_map]
  simp [plainSpace_eq_iff usual noSpace]

theorem trim_cleaned (trimmed : Text.trim text = text) :
    Text.trim (cleaned text) = cleaned text := by
  rcases Text.trim_eq_self_iff.mp trimmed with ⟨first, last⟩
  apply Text.trim_eq_self_iff.mpr
  constructor
  · cases text with
    | nil => exact nofun
    | cons c rest =>
        rw [<- List.singleton_append, cleaned_append, cleaned_of_visible (first c rfl)]
        exact first
  · rcases List.eq_nil_or_concat' text with rfl | ⟨rest, c, rfl⟩
    · exact nofun
    · rw [List.getLast?_concat] at last
      rw [cleaned_append, cleaned_of_visible (last c rfl), List.getLast?_concat]
      exact last

/-- A text without a line feed has one line, unless it is blank. -/
theorem lines_of_noFeed (noFeed : '\n' ∉ text) (present : Text.trim (cleaned text) ≠ []) :
    lines text = [Text.trim (cleaned text)] := by
  have whole : Text.splitOn '\n' (cleaned text) = [cleaned text] := by
    apply Text.splitOn_of_not_mem
    rwa [mem_cleaned_iff (by decide) (by decide) (by decide)]
  change ((Text.splitOn '\n' (cleaned text)).map Text.trim).filter (fun line => !line.isEmpty) = _
  rw [whole]
  simp [present]

/-- A blank before a text that is cut at tabs makes no cell. -/
theorem cellsOf_splitOn_cons {c : Char} (blank : Text.isBlank c = true) (text : List Char) :
    cellsOf (Text.splitOn '\t' (c :: text)) = cellsOf (Text.splitOn '\t' text) := by
  by_cases tab : c = '\t'
  · subst tab
    rw [Text.splitOn_cons_self]
    rfl
  · rcases List.exists_cons_of_ne_nil (Text.splitOn_ne_nil '\t' text) with ⟨piece, pieces, cut⟩
    have same : Text.trim (c :: piece) = Text.trim piece :=
      @Text.trim_blanks_append [c] (by simpa using blank) piece
    rw [Text.splitOn_cons_of_ne tab cut, cut, cellsOf, cellsOf, List.map_cons, List.map_cons, same]

/-- Neither does one after it. -/
theorem cellsOf_splitOn_concat {c : Char} (blank : Text.isBlank c = true) (text : List Char) :
    cellsOf (Text.splitOn '\t' (text ++ [c])) = cellsOf (Text.splitOn '\t' text) := by
  by_cases tab : c = '\t'
  · subst tab
    rw [Text.splitOn_append, cellsOf_append]
    exact List.append_nil _
  · have free : '\t' ∉ [c] := by simpa using Ne.symm tab
    rcases Text.splitOn_append_right text free with ⟨pieces, piece, cut, cutAfter⟩
    have same : cellsOf [piece ++ [c]] = cellsOf [piece] := by
      unfold cellsOf
      rw [List.map_singleton, List.map_singleton,
        Text.trim_append_blanks (by simpa using blank)]
    rw [cut, cutAfter, cellsOf_append, cellsOf_append, same]

/-- So a line that is cut at tabs need not be trimmed before. -/
theorem cellsOf_splitOn_trim (text : List Char) :
    cellsOf (Text.splitOn '\t' (Text.trim text)) = cellsOf (Text.splitOn '\t' text) := by
  have skipBefore (before others : List Char)
      (blank : forall c, c ∈ before -> Text.isBlank c = true) :
      cellsOf (Text.splitOn '\t' (before ++ others)) = cellsOf (Text.splitOn '\t' others) := by
    induction before with
    | nil => rfl
    | cons c before inductionHypothesis =>
        rw [List.cons_append, cellsOf_splitOn_cons (blank c List.mem_cons_self)]
        exact inductionHypothesis fun d member => blank d (List.mem_cons_of_mem c member)
  have skipAfter (others after : List Char) (blank : forall c, c ∈ after -> Text.isBlank c = true) :
      cellsOf (Text.splitOn '\t' (others ++ after)) = cellsOf (Text.splitOn '\t' others) := by
    induction after generalizing others with
    | nil => rw [List.append_nil]
    | cons c after inductionHypothesis =>
        have later := inductionHypothesis (others ++ [c]) fun d member =>
          blank d (List.mem_cons_of_mem c member)
        rw [<- List.singleton_append, <- List.append_assoc, later]
        exact cellsOf_splitOn_concat (blank c List.mem_cons_self) others
  rcases Text.exists_trim text with ⟨before, after, surrounded, blankBefore, blankAfter⟩
  calc
    cellsOf (Text.splitOn '\t' (Text.trim text))
        = cellsOf (Text.splitOn '\t' (Text.trim text ++ after)) :=
      (skipAfter _ _ blankAfter).symm
    _ = cellsOf (Text.splitOn '\t' (before ++ (Text.trim text ++ after))) :=
      (skipBefore _ _ blankBefore).symm
    _ = cellsOf (Text.splitOn '\t' text) := by rw [<- surrounded]

/-- A line with a tab, whose row has a code in a cell of its own and a grade after credits.  Its
cells are those that are read: carriage returns are no part of them. -/
structure IsGradedLine (text : List Char) : Prop where
  trimmed : Text.trim text = text
  noFeed : '\n' ∉ text
  tabbed : '\t' ∈ text
  code : ∃ code, code ∈ cells (cleaned text) ∧ IsCodeWord code
  graded : ∃ found, IsGraded (cells (cleaned text)) found

namespace IsGradedLine

theorem tabbed_cleaned (line : IsGradedLine text) : '\t' ∈ cleaned text :=
  (mem_cleaned_iff (by decide) (by decide) (by decide)).mpr line.tabbed

theorem cleaned_ne_nil (line : IsGradedLine text) : cleaned text ≠ [] :=
  List.ne_nil_of_mem line.tabbed_cleaned

theorem lines_eq (line : IsGradedLine text) : lines text = [cleaned text] := by
  have trimmed := trim_cleaned line.trimmed
  have only := lines_of_noFeed line.noFeed (by rw [trimmed]; exact line.cleaned_ne_nil)
  rwa [trimmed] at only

/-- With more columns there is still one line, and its cells come first. -/
theorem lines_append_eq (line : IsGradedLine text) {later : List Char} (noFeed : '\n' ∉ later) :
    ∃ longer others, lines (text ++ '\t' :: later) = [longer]
      ∧ cells longer = cells (cleaned text) ++ others := by
  have tab : cleaned ['\t'] = ['\t'] := by decide
  have whole : cleaned (text ++ '\t' :: later) = cleaned text ++ '\t' :: cleaned later := by
    rw [cleaned_append, <- List.singleton_append, cleaned_append, tab, List.singleton_append]
  rcases Text.exists_trim_append line.cleaned_ne_nil (trim_cleaned line.trimmed)
    ('\t' :: cleaned later) with ⟨kept, trimmed⟩
  have tabbed : '\t' ∈ cleaned text ++ kept := List.mem_append_left _ line.tabbed_cleaned
  refine ⟨cleaned text ++ kept, cellsOf (Text.splitOn '\t' (cleaned later)), ?_, ?_⟩
  · rw [<- trimmed, <- whole]
    apply lines_of_noFeed
    · simpa using ⟨line.noFeed, noFeed⟩
    · rw [whole, trimmed]
      exact List.ne_nil_of_mem tabbed
  · rw [cells_eq, cells_eq, piecesOf, piecesOf, if_pos (List.contains_iff_mem.mpr tabbed),
      if_pos (List.contains_iff_mem.mpr line.tabbed_cleaned), <- trimmed, cellsOf_splitOn_trim,
      Text.splitOn_append, cellsOf_append]

end IsGradedLine

/-- A line with a code in a cell of its own and a grade after credits gives a row, and with any
columns after one more tab it is read as it is without them: whatever codes are known and whatever
the track, it adds the same course, or its code is known. -/
theorem read_append_columns {text later : List Char} (line : IsGradedLine text)
    (noFeed : '\n' ∉ later) (track : Option Track) (known : List String) :
    read track known (text ++ '\t' :: later) = read track known text
      ∧ ∃ row, recognize? (cells (cleaned text)) = some row
        ∧ read track known text
          = [if normalizeCode row.code ∈ known.map normalizeCode then .duplicate row.code
            else .added (row.course track)] := by
  rcases line.code with ⟨code, member, word⟩
  rcases line.graded with ⟨found, graded⟩
  rcases recognize?_append member word graded with ⟨row, recognized, alsoLater⟩
  rcases line.lines_append_eq noFeed with ⟨longer, others, only, cellsLonger⟩
  have reading (written : List Char) (same : recognize? (cells written) = some row) :
      readLines track (known.map normalizeCode) [written]
        = [if normalizeCode row.code ∈ known.map normalizeCode then .duplicate row.code
          else .added (row.course track)] := by
    by_cases held : normalizeCode row.code ∈ known.map normalizeCode
    · rw [readLines_duplicate same held, if_pos held]
      rfl
    · rw [readLines_added same held, if_neg held]
      rfl
  have short := reading (cleaned text) recognized
  have long := reading longer (by rw [cellsLonger]; exact alsoLater others)
  rw [<- line.lines_eq] at short
  rw [<- only] at long
  exact ⟨long.trans short.symm, row, recognized, short⟩

/-- A row with a carriage return in its credits, and columns that look like a row of their own. -/
theorem read_append_columns_average :
    IsGradedLine "CS2\tBS101\tCalculus\t3\r.0\tA+".toList
      ∧ '\n' ∉ "4.3 \tHSS201\t2.0\tB0\r\t".toList
      ∧ read none ["CS101"] ("CS2\tBS101\tCalculus\t3\r.0\tA+".toList
          ++ '\t' :: "4.3 \tHSS201\t2.0\tB0\r\t".toList)
        = read none ["CS101"] "CS2\tBS101\tCalculus\t3\r.0\tA+".toList := by
  have line : IsGradedLine "CS2\tBS101\tCalculus\t3\r.0\tA+".toList := {
    trimmed := by decide +kernel
    noFeed := by decide +kernel
    tabbed := by decide +kernel
    code := ⟨"BS101".toList, by decide +kernel, by decide +kernel⟩
    graded := ⟨⟨3, 3⟩, { credits := by decide +kernel, grade := by decide +kernel }⟩
  }
  exact ⟨line, by decide +kernel, (read_append_columns line (by decide +kernel) none ["CS101"]).1⟩

end Lines

end Transcript
end DegreeAudit
