import DegreeAudit.CommandLine.Run

namespace DegreeAudit
namespace CommandLine

/-!
The second program: it shows the rows found in a document with pages, the words in them and what
is read from each row, so that one can see why a row is imported or passed over.
-/

namespace Inspection

/-- The name of the program. -/
def inspectorName : String := "gradsim-pdf-dump"

/-- The grammar of its command line. -/
def grammar : Grammar :=
  {
    program := inspectorName
    options :=
      [helpOption, textOption "--pages", textOption "--grep", ⟨["--cell-gap"], .value .real⟩]
    slots := [textSlot "pdf"]
  }

/-- What is to be shown. -/
structure Wish where
  file : String
  pages : PageSelection
  pattern : Option String
  /-- The widest gap inside a cell; nothing if a mark was given in its place. -/
  gap : Option Float

/-- The wish of a command line. An empty pattern is none. -/
def Wish.read (arguments : List String) : Except Refusal Wish := do
  let found <- grammar.readAs arguments
  refuseExtras inspectorName found.extras
  pure {
    file := (found.text? "pdf").getD ""
    pages := PageSelection.read ((found.text? "--pages").getD "").toList
    pattern := (found.text? "--grep").filter fun pattern => pattern != ""
    gap :=
      match found.value? "--cell-gap" with
      | some (.real gap) => some gap
      | some _ => none
      | none => some WordRow.usualGap
  }

/-- A coordinate. -/
def coordinate (x : Float) : String :=
  String.ofList (Number.tenthsText x)

/-- The line of a word. -/
def wordLine (word : Word Float) : String :=
  "   - " ++ Text.quote word.text ++ " @ x0=" ++ coordinate word.left ++ ".."
    ++ coordinate word.right ++ " y=" ++ coordinate word.top

/-- A value that may be missing. -/
def optional {α : Type} (text : α -> String) : Option α -> String
  | none => "None"
  | some value => text value

/-- The line with what is read from the cells of a row. -/
def readingLine (cells : List String) : String :=
  let texts := cells.map String.toList
  match Transcript.findCode? texts, Transcript.findCredits? texts with
  | some code, some credit =>
      let name := Transcript.guessName texts (some (Int.ofNat credit.index))
      let name := if name.isEmpty then code else name
      "   => " ++ String.ofList code ++ " / " ++ String.ofList name ++ " / "
        ++ String.ofList (Number.shortText credit.credits) ++ " credits (cell "
        ++ count credit.index ++ ")"
  | code, credit =>
      "   => skipped (code=" ++ optional (fun code => Text.quote (String.ofList code)) code
        ++ ", credits="
        ++ optional (fun credit => String.ofList (Number.exactText credit.credits)) credit ++ ")"

/-- The line after each row. -/
def rule : String :=
  String.ofList (List.replicate 60 '-')

/-- The cells of a row in one line. -/
def joined (cells : List String) : String :=
  Text.joinStrings " | " cells

/-- The lines of a row with its cells. -/
def rowLines (cells : List String) (row : WordRow Float) : List String :=
  ["[page " ++ String.ofList (Text.ofInt row.page) ++ " y=" ++ coordinate row.y ++ "] "
      ++ joined cells]
    ++ row.words.map wordLine ++ [readingLine cells, rule]

/-- The cells of a row. A single word is a cell under any gap, but two cannot be told apart or put
together without one. -/
def cellsOf (row : WordRow Float) : Option Float -> Except Failure (List String)
  | some gap => .ok (row.cells gap)
  | none =>
      if row.words.length <= 1 then .ok (row.words.map fun word => word.text)
      else .error .noGap

/-- Whether a row with some cells is to be shown. -/
def isWanted (search : Option Pattern.Search) (cells : List String) : Bool :=
  match search with
  | none => true
  | some search => search.occursIn (joined cells).toList

/-- What is shown, and the failure that put an end to it, if one did. -/
structure Showing where
  lines : List String
  failure : Option Failure

/-- Shows the rows that are wanted, up to the first without cells. -/
def showRows (search : Option Pattern.Search) (gap : Option Float) :
    List (WordRow Float) -> Showing
  | [] => ⟨[], none⟩
  | row :: rows =>
      match cellsOf row gap with
      | .error failure => ⟨[], some failure⟩
      | .ok cells =>
          let others := showRows search gap rows
          let lines := if isWanted search cells then rowLines cells row else []
          { others with lines := lines ++ others.lines }

/-- The pattern of a wish; rows are searched for it in any case of letters. -/
def Wish.search? (wish : Wish) : Except Failure (Option Pattern.Search) :=
  match wish.pattern with
  | none => .ok none
  | some pattern =>
      match Pattern.read { Switches.none with ignoreCase := true } pattern.toList with
      | .ok search => .ok (some search)
      | .error fault => .error (.pattern fault)

/-- The rows of the document with pages at a path. -/
def rowsAt (files : FileTree) (path : Path) (selection : PageSelection) :
    Except Failure (List (WordRow Float)) :=
  match files.read path with
  | .error fault => .error (.file fault)
  | .ok (.bytes _) => .error (.notPages path)
  | .ok (.pages pages) =>
      (pages.rows selection WordRow.usualTolerance).mapError .pages

/-- What a wish asks for. -/
def Wish.showing (wish : Wish) (files : FileTree) : Showing :=
  let path := Path.read wish.file
  match files.hasNode path with
  | .error fault => ⟨[], some (.file fault)⟩
  | .ok false => ⟨["File not found: " ++ path.text], none⟩
  | .ok true =>
      let rows? := do
        let search <- wish.search?
        let rows <- rowsAt files path wish.pages
        pure (search, rows)
      match rows? with
      | .error failure => ⟨[], some failure⟩
      | .ok (search, rows) => showRows search wish.gap rows

/-- The line of the help. -/
def inspectorHelp : List String :=
  ["usage: gradsim-pdf-dump [--pages PAGES] [--grep PATTERN] [--cell-gap GAP] FILE"]

/-- Runs the program on a command line. -/
def run (arguments : List String) (files : FileTree) (ids : IdSupply) : Run :=
  match Wish.read arguments with
  | .error refusal => .refuse refusal inspectorHelp files ids
  | .ok wish =>
      let showing := wish.showing files
      {
        shown := showing.lines
        complaints := []
        ending :=
          match showing.failure with
          | some failure => .raised failure
          | none => .finished
        files
        ids
      }

end Inspection
end CommandLine
end DegreeAudit
