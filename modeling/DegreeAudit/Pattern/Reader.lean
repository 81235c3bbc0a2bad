import DegreeAudit.Json.Reader
import DegreeAudit.Number.Reader
import DegreeAudit.Pattern.Matcher
import DegreeAudit.Text.CharacterName
import DegreeAudit.Text.NameTable

namespace DegreeAudit
namespace Pattern

/-!
Reading a pattern. The text of a pattern is a row of characters, each with a backslash before it or
without. Groups are numbered in the order in which they open, and one that is still open, or has
not been opened yet, cannot be referred to. Some faults are found where they stand in the text, and
the first of these counts; others concern the pattern as a whole and count only without them.
-/

/-- Why a text is not a pattern. -/
inductive Fault where
  | malformed
  | tooManyRepeats
  | tooManyDigits (count : Nat)
  /-- Letters are asked for to be those of one script and those of all scripts. -/
  | incompatible
  | tooDeep
  deriving DecidableEq, Repr

/-- The wording of the fault. -/
def Fault.message : Fault -> String
  | .malformed => "not a pattern"
  | .tooManyRepeats => "the repetition number is too large"
  | .tooManyDigits count => Number.tooManyDigitsMessage count
  | .incompatible => "ASCII and UNICODE flags are incompatible"
  | .tooDeep => "maximum recursion depth exceeded"

/-- A character of the text of a pattern, with a backslash or without. -/
inductive Sign where
  | plain (c : Char)
  | escaped (c : Char)
  deriving DecidableEq, Repr

/-- The signs of a text, and whether a backslash is left over at its end. -/
def signs : List Char -> List Sign × Bool
  | [] => ([], false)
  | ['\\'] => ([], true)
  | '\\' :: c :: rest =>
      let (others, dangling) := signs rest
      (.escaped c :: others, dangling)
  | c :: rest =>
      let (others, dangling) := signs rest
      (.plain c :: others, dangling)

/-- How far reading has come. -/
structure Source where
  signs : List Sign
  /-- Whether a backslash is left over after the signs. -/
  dangling : Bool
  /-- How deep in groups the next sign stands. -/
  depth : Nat
  switches : Switches
  /-- The letters that have set switches for all of the pattern. -/
  letters : List Char
  /-- The widths of the groups, the first of which is the whole; an open group has none yet. -/
  widths : List (Option Width)
  names : List (String × Nat)
  /-- The first group of those that were opened after the outermost look backwards began. -/
  lookingBack : Option Nat
  /-- The greatest number of a group that is asked for by number alone. -/
  asked : Nat
  /-- Whether something without a fixed width is looked for backwards. -/
  unfixed : Bool
  deriving DecidableEq, Repr

/-- A step of reading. -/
abbrev Step := StateT Source (Except Fault)

/-- The text is not a pattern. -/
def fail {α : Type} : Step α := fun _ => .error .malformed

/-- The next sign, which is left where it is. -/
def peek : Step (Option Sign) := do
  pure (<- get).signs.head?

/-- Goes on to the signs that are left. A backslash after the last sign is noticed as soon as it
comes next. -/
def moveTo (left : List Sign) : Step Unit := do
  if left.isEmpty && (<- get).dangling then fail
  else modify fun source => { source with signs := left }

/-- Goes past the next sign. -/
def advance : Step Unit := do
  moveTo (<- get).signs.tail

/-- The next sign, which has to be there. -/
def next : Step Sign := do
  match (<- get).signs with
  | [] => fail
  | sign :: signs => do
      moveTo signs
      pure sign

/-- Goes past a character if it comes next. -/
def accept (c : Char) : Step Bool := do
  if (<- peek) = some (.plain c) then do
    advance
    pure true
  else pure false

/-- Goes past a character, which has to come next. -/
def expect (c : Char) : Step Unit := do
  if <- accept c then pure () else fail

/-- The characters that come next as long as they pass a test, up to a count. -/
def takeUpTo (count : Nat) (test : Char -> Bool) : Step (List Char) := do
  let source <- get
  let taken := ((source.signs.take count).map fun sign =>
    match sign with
    | .plain c => if test c then some c else none
    | .escaped _ => none).takeWhile Option.isSome
  moveTo (source.signs.drop taken.length)
  pure (taken.filterMap id)

/-- All characters that come next and pass a test. -/
def takeAll (test : Char -> Bool) : Step (List Char) := do
  takeUpTo (<- get).signs.length test

/-- The characters of a sign. -/
def Sign.chars : Sign -> List Char
  | .plain c => [c]
  | .escaped c => ['\\', c]

/-- The text up to a character, which is passed as well. There has to be some text. -/
def takeUntil (stop : Char) : Step (List Char) := do
  let source <- get
  let taken := source.signs.takeWhile fun sign => sign != .plain stop
  if taken.isEmpty || taken.length = source.signs.length then fail
  else do
    moveTo (source.signs.drop (taken.length + 1))
    pure (taken.flatMap Sign.chars)

/-- How deep the inside of a group may stand. As with nested containers of a document, this is what
is left of a call stack of 1000 calls where a pattern is read. -/
def callStackDepth : Nat := 984

/-- Takes a step a little deeper in groups than the steps around it. -/
def deeper {α : Type} (levels : Nat) (step : Step α) : Step α := do
  let depth := (<- get).depth + levels
  if callStackDepth < depth then fun _ => .error .tooDeep
  else do
    modify fun source => { source with depth }
    let result <- step
    modify fun source => { source with depth := depth - levels }
    pure result

/-! ### Escapes -/

/-- Whether a character is an octal digit. -/
def isOctal (c : Char) : Bool :=
  '0' <= c && c <= '7'

/-- The number that octal digits write. -/
def octalValue (digits : List Char) : Nat :=
  digits.foldl (fun value digit => 8 * value + (digit.toNat - 0x30)) 0

/-- The greatest code point that octal digits may write. -/
def mostOctal : Nat := 255

/-- The code point that a count of hexadecimal digits writes. -/
def hexEscape (count : Nat) : Step Nat := do
  let digits <- takeUpTo count fun c => (Json.hexValue? c).isSome
  let code := digits.foldl (fun value digit => 16 * value + (Json.hexValue? digit).getD 0) 0
  if digits.length = count && code <= 0x10FFFF then pure code else fail

/-- The code point of the character whose name stands in braces. -/
def namedCode : Step Nat := do
  expect '\x7b'
  match Text.codeNamed? (<- takeUntil '\x7d') with
  | some code => pure code
  | none => fail

/-- The code point of a control character that a letter stands for. -/
def controlCode? : Char -> Option Nat
  | 'a' => some 7
  | 'f' => some 12
  | 'n' => some 10
  | 'r' => some 13
  | 't' => some 9
  | 'v' => some 11
  | _ => none

/-- The class of characters that a letter stands for, and whether it stands for all others. -/
def charClass? : Char -> Option (CharClass × Bool)
  | 'd' => some (.digit, false)
  | 'D' => some (.digit, true)
  | 's' => some (.blank, false)
  | 'S' => some (.blank, true)
  | 'w' => some (.word, false)
  | 'W' => some (.word, true)
  | _ => none

/-- The place that a letter stands for. -/
def anchor? : Char -> Option Anchor
  | 'A' => some .textStart
  | 'Z' => some .textEnd
  | 'b' => some .wordEdge
  | 'B' => some .noWordEdge
  | _ => none

/-- The code point that an escaped character other than a digit writes. -/
def escapedCode (c : Char) : Step Nat :=
  match controlCode? c with
  | some code => pure code
  | none =>
      if c = 'x' then hexEscape 2
      else if c = 'u' then hexEscape 4
      else if c = 'U' then hexEscape 8
      else if c = 'N' then namedCode
      else if c.isAlpha then fail
      else pure c.toNat

/-- A part of a set that begins with an escaped character. -/
def escapedInSet (c : Char) : Step SetPart := do
  match charClass? c with
  | some (charClass, negated) => pure (.ofClass charClass negated)
  | none =>
      if c = 'b' then pure (.code 8)
      else if isOctal c then do
        let value := octalValue (c :: (<- takeUpTo 2 isOctal))
        if value <= mostOctal then pure (.code value) else fail
      else if c.isDigit then fail
      else do pure (.code (<- escapedCode c))

/-! ### Groups -/

/-- The width of a group, which has to be closed. -/
def closedWidth (number : Nat) : Step Width := do
  match (<- get).widths[number]? with
  | some (some width) => pure width
  | _ => fail

/-- A group that is referred to while looking backwards must have been closed before that began. -/
def checkLookingBack (number : Nat) : Step Unit := do
  match (<- get).lookingBack with
  | none => pure ()
  | some first => do
      let _ <- closedWidth number
      if number < first then pure () else fail

/-- The text of an earlier group once more. -/
def reference (number : Nat) : Step Pattern := do
  let _ <- closedWidth number
  checkLookingBack number
  pure (.sameAs number)

/-- What begins with a backslash and a digit other than zero: a code point of three octal digits,
or the number of a group. -/
def escapedDigit (c : Char) : Step Pattern := do
  match <- takeUpTo 1 Char.isDigit with
  | [second] =>
      let third <- if isOctal c && isOctal second then takeUpTo 1 isOctal else pure []
      if third.isEmpty then reference (Text.valueOfDigits [c, second])
      else
        let value := octalValue (c :: second :: third)
        if value <= mostOctal then pure (.one (.code value)) else fail
  | _ => reference (Text.valueOfDigits [c])

/-- What begins with an escaped character. -/
def escapedItem (c : Char) : Step Pattern :=
  match anchor? c, charClass? c with
  | some place, _ => pure (.anchor place)
  | none, some (charClass, negated) => pure (.one (.set false [.ofClass charClass negated]))
  | none, none =>
      if c = '0' then do
        pure (.one (.code (octalValue (<- takeUpTo 2 isOctal))))
      else if c.isDigit then escapedDigit c
      else do pure (.one (.code (<- escapedCode c)))

/-- Opens a group, with a name or without. -/
def openGroup (name : Option (List Char)) : Step Nat := do
  let source <- get
  let number := source.widths.length
  match name with
  | none => set { source with widths := source.widths ++ [none] }
  | some name => do
      let name := String.ofList name
      if source.names.any fun entry => entry.1 == name then fail
      else
        set { source with
          widths := source.widths ++ [none]
          names := (name, number) :: source.names }
  pure number

/-- The widths of the groups that are closed. -/
def Source.widthOf (source : Source) (number : Nat) : Width :=
  ((source.widths[number]?).getD none).getD ⟨0, some 0⟩

/-- The width of a pattern that has just been read. -/
def widthNow (body : Pattern) : Step Width := do
  pure (body.width (<- get).widthOf)

/-- Closes a group. -/
def closeGroup (number : Nat) (body : Pattern) : Step Unit := do
  let width <- widthNow body
  modify fun source => { source with widths := source.widths.set number (some width) }

/-- Whether a text may be the name of a group. -/
def isName : List Char -> Bool
  | [] => false
  | first :: others =>
      let mayBegin (c : Char) : Bool := Text.inRanges Text.nameStartRanges c.toNat
      let mayFollow (c : Char) : Bool := Text.inRanges Text.nameOnlyInsideRanges c.toNat
      mayBegin first && others.all fun c => mayBegin c || mayFollow c

/-- The number of the group of a name. -/
def groupNamed (name : List Char) : Step Nat := do
  if isName name then
    match (<- get).names.find? fun entry => entry.1 == String.ofList name with
    | some entry => pure entry.2
    | none => fail
  else fail

/-- The number that no number of a group may reach. -/
def groupLimit : Nat := 1073741823

/-- The group that a condition names or numbers. -/
def conditionGroup (name : List Char) : Step Nat := do
  if isName name then groupNamed name
  else
    match Number.readInt? name with
    | some (.ofNat (number + 1)) =>
        if number + 1 < groupLimit then do
          modify fun source => { source with asked := max source.asked (number + 1) }
          pure (number + 1)
        else fail
    | _ => fail

/-! ### Switches -/

/-- The switch of a letter. Two letters stand for no switch: one asks for the letters of all scripts,
as is usual, and one for a pattern in which nothing is repeated. -/
def switch? : Char -> Option Switches
  | 'i' => some { Switches.none with ignoreCase := true }
  | 'm' => some { Switches.none with multiline := true }
  | 's' => some { Switches.none with dotAll := true }
  | 'x' => some { Switches.none with spaced := true }
  | 'a' => some { Switches.none with ascii := true }
  | 'u' | 't' => some Switches.none
  | _ => none

/-- The switches of some letters, each of which has to be one. -/
def switchesOf (letters : List Char) : Step Switches :=
  letters.foldlM (fun switches letter =>
    match switch? letter with
    | some switch => pure (switches.or switch)
    | none => fail) Switches.none

/-- A change of switches that is written in a group: for all of the pattern, or for what is in the
group. The first letter has been read. -/
def readSwitches (first : Char) : Step (Option SwitchChange) := do
  let isLetter (c : Char) : Bool := c.isAlpha
  let on <- if first = '-' then pure [] else do pure (first :: (<- takeAll isLetter))
  let switches <- switchesOf on
  if on.contains 'a' && on.contains 'u' then fail
  else if first != '-' && (<- accept ')') then do
    modify fun source =>
      { source with switches := source.switches.or switches, letters := source.letters ++ on }
    pure none
  else do
    let negative <- if first = '-' then pure true else accept '-'
    let off <- if negative then takeAll isLetter else pure []
    expect ':'
    if negative && off.isEmpty || off.contains 'a' || off.contains 'u'
        || on.contains 't' || off.contains 't' || off.any fun letter => on.contains letter then fail
    else do
      let turnedOff <- switchesOf off
      pure (some {
        on := switches
        off := if on.contains 'u' then { turnedOff with ascii := true } else turnedOff
      })

/-! ### Sets and repetitions -/

/-- A part of a set that begins with a sign. -/
def setPart : Sign -> Step SetPart
  | .plain c => pure (.code c.toNat)
  | .escaped c => escapedInSet c

/-- The parts of a set up to its end. A closing bracket right at the start is a part. -/
def setParts : (fuel : Nat) -> (parts : List SetPart) -> Step (List SetPart)
  | 0, _ => fail
  | fuel + 1, parts => do
      let sign <- next
      if sign = .plain ']' && !parts.isEmpty then pure parts
      else do
        let first <- setPart sign
        if <- accept '-' then do
          let sign <- next
          if sign = .plain ']' then pure (parts ++ [first, .code '-'.toNat])
          else do
            let last <- setPart sign
            match first, last with
            | .code first, .code last =>
                if last < first then fail
                else setParts fuel (parts ++ [.range first last])
            | _, _ => fail
        else setParts fuel (parts ++ [first])

/-- A set, after its opening bracket. -/
def readSet : Step Pattern := do
  let negated <- accept '^'
  let parts <- setParts ((<- get).signs.length + 1) []
  pure (.one (.set negated parts.eraseDups))

/-- How often something is repeated: at least, and at most. -/
abbrev Bounds := Nat × Option Nat

/-- The number that no count of repetitions may reach. -/
def repeatLimit : Nat := 4294967295

/-- A count that digits write, if there are any. -/
def countOf (digits : List Char) : Step (Option Nat) :=
  if digits.isEmpty then pure none
  else
    let count := Text.valueOfDigits digits
    if Number.mostDigits < digits.length then fun _ => .error (.tooManyDigits digits.length)
    else if count < repeatLimit then pure (some count)
    else fun _ => .error .tooManyRepeats

/-- The bounds within braces, after the opening one; nothing if the braces hold something else,
and then nothing is passed. -/
def readBounds : Step (Option Bounds) := do
  let start <- get
  if (<- peek) = some (.plain '\x7d') then pure none
  else do
    let low <- takeAll Char.isDigit
    let two <- accept ','
    let high <- if two then takeAll Char.isDigit else pure low
    if <- accept '\x7d' then do
      let least := (<- countOf low).getD 0
      let most <- countOf high
      if (most.map fun most => decide (most < least)).getD false then fail
      else pure (some (least, most))
    else do
      set start
      pure none

/-- The bounds that a character writes, if it is one that repeats. -/
def boundsOf (c : Char) : Step (Option Bounds) :=
  match c with
  | '?' => pure (some (0, some 1))
  | '*' => pure (some (0, none))
  | '+' => pure (some (1, none))
  | '\x7b' => readBounds
  | _ => pure none

/-- How greedy a repetition is, by what follows it. -/
def readGreed : Step Greed := do
  if <- accept '?' then pure .reluctant
  else if <- accept '+' then pure .possessive
  else pure .greedy

/-- A part of a sequence, and whether it can be repeated. -/
structure Item where
  pattern : Pattern
  repeatable : Bool
  deriving DecidableEq, Repr

/-- Parts of a pattern one after another; the latest stands first. -/
def sequenceOf (items : List Item) : Pattern :=
  items.foldl (fun following item => .both item.pattern following) .empty

/-- The last part of a sequence, repeated. -/
def repeatLast (bounds : Bounds) : List Item -> Step (List Item)
  | [] => fail
  | item :: items => do
      if item.repeatable then do
        let greed <- readGreed
        pure (⟨.repeated bounds.1 bounds.2 greed item.pattern, false⟩ :: items)
      else fail

/-- Whether a place, which cannot be repeated, is what was read. -/
def itemOf : Pattern -> Item
  | .anchor place => ⟨.anchor place, false⟩
  | pattern => ⟨pattern, true⟩

/-- Whether a character is passed over where a pattern is spaced out. -/
def isFiller (c : Char) : Bool :=
  c = ' ' || (0x9 <= c.toNat && c.toNat <= 0xD)

/-- What is looked for around a spot, with the width of it if it is behind. -/
def lookOf (backward negated : Bool) (body : Pattern) : Step Pattern := do
  if backward then
    let fixed := (<- widthNow body).fixed?.filter fun width => decide (width < repeatLimit)
    modify fun source => { source with unfixed := source.unfixed || fixed.isNone }
    pure (.look (some (fixed.getD 0)) negated body)
  else pure (.look none negated body)

mutual

/-- Reads choices between sequences. -/
def readChoices : (fuel : Nat) -> (spaced nested first : Bool) -> Step Pattern
  | 0, _, _, _ => fail
  | fuel + 1, spaced, nested, first => do
      let sequence <- readSequence fuel spaced (!nested && first) []
      if <- accept '|' then do
        let spaced <- if nested then pure spaced else do pure (<- get).switches.spaced
        let others <- readChoices fuel spaced nested false
        pure (.either sequence others)
      else pure sequence

/-- Reads the rest of a sequence after some of its parts. Switches for all of the pattern can only
be set before the first part. -/
def readSequence : (fuel : Nat) -> (spaced first : Bool) -> List Item -> Step Pattern
  | 0, _, _, _ => fail
  | fuel + 1, spaced, first, items => do
      match <- peek with
      | none | some (.plain '|') | some (.plain ')') => pure (sequenceOf items)
      | some (.escaped c) => do
          advance
          readSequence fuel spaced first (itemOf (<- escapedItem c) :: items)
      | some (.plain c) => do
          advance
          if spaced && isFiller c then readSequence fuel spaced first items
          else if spaced && c = '#' then do
            moveTo ((<- get).signs.dropWhile fun sign => sign != .plain '\n').tail
            readSequence fuel spaced first items
          else if c = '(' then
            match <- readGroup fuel spaced (first && items.isEmpty) with
            | some item => readSequence fuel spaced first (item :: items)
            | none => do
                let spaced <- if first then do pure (spaced || (<- get).switches.spaced)
                  else pure spaced
                readSequence fuel spaced first items
          else
            match <- boundsOf c with
            | some bounds => do
                readSequence fuel spaced first (<- repeatLast bounds items)
            | none => do
                let pattern <-
                  match c with
                  | '[' => readSet
                  | '.' => pure (.one .any)
                  | '^' => pure (.anchor .lineStart)
                  | '$' => pure (.anchor .lineEnd)
                  | c => pure (.one (.code c.toNat))
                readSequence fuel spaced first (itemOf pattern :: items)

/-- Reads the inside of a group and its end. -/
def readInside : (fuel : Nat) -> (spaced : Bool) -> Step Pattern
  | 0, _ => fail
  | fuel + 1, spaced => do
      let body <- deeper 2 (readChoices fuel spaced true true)
      expect ')'
      pure body

/-- Reads a group that is numbered. -/
def readNumbered : (fuel : Nat) -> (spaced : Bool) -> (name : Option (List Char)) -> Step Item
  | 0, _, _ => fail
  | fuel + 1, spaced, name => do
      let number <- openGroup name
      let body <- readInside fuel spaced
      closeGroup number body
      pure ⟨.group number body, true⟩

/-- Reads a look forward or backward. -/
def readLook : (fuel : Nat) -> (spaced backward negated : Bool) -> Step Item
  | 0, _, _, _ => fail
  | fuel + 1, spaced, backward, negated => do
      let outer := (<- get).lookingBack
      if backward && outer.isNone then
        modify fun source => { source with lookingBack := some source.widths.length }
      else pure ()
      let body <- deeper 2 (readChoices fuel spaced true true)
      modify fun source => { source with lookingBack := outer }
      expect ')'
      pure ⟨<- lookOf backward negated body, true⟩

/-- Reads a choice that depends on a group. -/
def readCondition : (fuel : Nat) -> (spaced : Bool) -> Step Item
  | 0, _ => fail
  | fuel + 1, spaced => do
      let number <- conditionGroup (<- takeUntil ')')
      checkLookingBack number
      let first <- deeper 1 (readSequence fuel spaced false [])
      let second <-
        if <- accept '|' then deeper 1 (readSequence fuel spaced false []) else pure .empty
      expect ')'
      pure ⟨.ifGroup number first second, true⟩

/-- Reads a group after its opening parenthesis. Comments and switches for all of the pattern are
written as groups but are no part of a sequence. -/
def readGroup : (fuel : Nat) -> (spaced first : Bool) -> Step (Option Item)
  | 0, _, _ => fail
  | fuel + 1, spaced, first => do
      if <- accept '?' then
        match <- next with
        | .escaped _ => fail
        | .plain ':' => do pure (some ⟨<- readInside fuel spaced, true⟩)
        | .plain '>' => do pure (some ⟨.atomic (<- readInside fuel spaced), true⟩)
        | .plain '#' => do
            let source <- get
            let left := source.signs.dropWhile fun sign => sign != .plain ')'
            if left.isEmpty then fail
            else do
              moveTo left.tail
              pure none
        | .plain '=' => some <$> readLook fuel spaced false false
        | .plain '!' => some <$> readLook fuel spaced false true
        | .plain '<' =>
            match <- next with
            | .plain '=' => some <$> readLook fuel spaced true false
            | .plain '!' => some <$> readLook fuel spaced true true
            | _ => fail
        | .plain '(' => some <$> readCondition fuel spaced
        | .plain 'P' =>
            match <- next with
            | .plain '<' => do
                let name <- takeUntil '>'
                if isName name then some <$> readNumbered fuel spaced (some name) else fail
            | .plain '=' => do
                let number <- groupNamed (<- takeUntil ')')
                pure (some ⟨<- reference number, true⟩)
            | _ => fail
        | .plain c =>
            match <- readSwitches c with
            | none => if first then pure none else fail
            | some change => do
                let spaced := (spaced || change.on.spaced) && !change.off.spaced
                pure (some ⟨.switched change (<- readInside fuel spaced), true⟩)
      else some <$> readNumbered fuel spaced none

end

/-- A pattern together with the switches that hold for all of it. -/
structure Search where
  switches : Switches
  pattern : Pattern
  deriving DecidableEq, Repr

/-- Whether a pattern that was read is one as a whole: all of its text belongs to it, the groups asked
for by number are there, what is looked for backwards has a fixed width, and nothing is repeated in
it if its letters say so. -/
def Source.isComplete (source : Source) (pattern : Pattern) : Bool :=
  source.signs.isEmpty && source.asked < source.widths.length && !source.unfixed
    && !(source.letters.contains 't' && pattern.hasRepeat)

/-- Reads the text of a pattern; it is searched for under some switches and those it sets itself. -/
def read (switches : Switches) (text : List Char) : Except Fault Search := do
  let (signs, dangling) := signs text
  let source : Source :=
    {
      signs
      dangling
      depth := 0
      switches
      letters := []
      widths := [none]
      names := []
      lookingBack := none
      asked := 0
      unfixed := false
    }
  let whole : Step Pattern := do
    moveTo signs
    readChoices (6 * signs.length + 6) switches.spaced false true
  let (pattern, source) <- whole.run source
  if source.letters.contains 'a' && source.letters.contains 'u' then .error .incompatible
  else if source.isComplete pattern then pure { switches := source.switches, pattern }
  else .error .malformed

/-- Whether the pattern occurs in a text. -/
def Search.occursIn (search : Search) (text : List Char) : Bool :=
  search.pattern.fitsFrom search.switches [] text

end Pattern
end DegreeAudit
