namespace DegreeAudit
namespace Text

/-!
Cutting a text at a separator and looking for one text in another.
-/

/-- The pieces of a text between the occurrences of a separator; there is always at least one. -/
def splitOn (separator : Char) : List Char -> List (List Char)
  | [] => [[]]
  | c :: rest =>
      if c = separator then [] :: splitOn separator rest
      else
        match splitOn separator rest with
        | [] => [[c]]
        | piece :: pieces => (c :: piece) :: pieces

/-- What stands before the first occurrence of a separator, and what stands after it; nothing is
after it when it does not occur. -/
def cutAt (separator : Char) (text : List Char) : List Char × Option (List Char) :=
  match text.dropWhile (fun c => c != separator) with
  | [] => (text, none)
  | _ :: rest => (text.takeWhile (fun c => c != separator), some rest)

/-- The pieces one after another with the same text between neighbours. -/
def join (between : List Char) : List (List Char) -> List Char
  | [] => []
  | [piece] => piece
  | piece :: pieces => piece ++ between ++ join between pieces

/-- Whether a text occurs in another, at any place. -/
def occursIn (needle : List Char) : List Char -> Bool
  | [] => needle.isEmpty
  | c :: rest => needle.isPrefixOf (c :: rest) || occursIn needle rest

/-- The text with the first occurrence of one character replaced by another. -/
def replaceFirst (old new : Char) : List Char -> List Char
  | [] => []
  | c :: rest => if c = old then new :: rest else c :: replaceFirst old new rest

/-- The texts of a list one after another with the same text between neighbours. -/
def joinStrings (between : String) (pieces : List String) : String :=
  String.ofList (join between.toList (pieces.map String.toList))

theorem splitOn_ne_nil (separator : Char) (text : List Char) : splitOn separator text ≠ [] := by
  cases text with
  | nil => simp [splitOn]
  | cons c rest =>
      simp only [splitOn]
      split
      · simp
      · split <;> simp

end Text
end DegreeAudit
