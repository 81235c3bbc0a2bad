import DegreeAudit.Encoding.Detect
import DegreeAudit.Json.Basic
import DegreeAudit.Json.Fault
import DegreeAudit.Number.Reader

namespace DegreeAudit
namespace Json

/-!
Reading a document. Besides the values of the standard, `NaN`, `Infinity` and `-Infinity` are
read. Of several entries with one key the last gives the value and the first the place. A whole
number may have 4300 digits, and containers may be nested as long as the call stack lasts.

Every reader takes the text that is left and returns a value with the text after it. A reader that
stops says how much text was left where it stopped, from which the place is found at the end.
-/

/-- Why a reader stops, and the text that was left there. -/
inductive Stop where
  | at (reason : Reason) (left : List Char)
  | tooManyDigits (count : Nat)
  | tooDeep (container : Container)

/-- What a reader returns: a value and the text after it. -/
abbrev Read (α : Type) := Except Stop (α × List Char)

/-- The characters that may stand between the parts of a document. -/
def isGap (c : Char) : Bool :=
  c = ' ' || c = '\t' || c = '\n' || c = '\r'

/-- The text after the gap it begins with. -/
def skipGap (text : List Char) : List Char :=
  text.dropWhile isGap

/-- The text after a word, if it begins with that word. -/
def afterWord? : (word text : List Char) -> Option (List Char)
  | [], text => some text
  | _ :: _, [] => none
  | c :: word, d :: text => if c = d then afterWord? word text else none

/-- The value of a digit in hexadecimal notation. -/
def hexValue? (c : Char) : Option Nat :=
  let code := c.toNat
  if 0x30 <= code && code <= 0x39 then some (code - 0x30)
  else if 0x61 <= code && code <= 0x66 then some (code - 0x61 + 10)
  else if 0x41 <= code && code <= 0x46 then some (code - 0x41 + 10)
  else none

/-- The code that four hexadecimal digits write, and the text after them. -/
def hexCode? : List Char -> Option (Nat × List Char)
  | a :: b :: c :: d :: rest => do
      let first <- hexValue? a
      let second <- hexValue? b
      let third <- hexValue? c
      let fourth <- hexValue? d
      pure (((first * 16 + second) * 16 + third) * 16 + fourth, rest)
  | _ => none

/-- The character an escape of one letter stands for. -/
def escaped? : Char -> Option Char
  | '"' => some '"'
  | '\\' => some '\\'
  | '/' => some '/'
  | 'b' => some (Char.ofNat 8)
  | 'f' => some (Char.ofNat 12)
  | 'n' => some '\n'
  | 'r' => some '\r'
  | 't' => some '\t'
  | _ => none

/-- The second code of a surrogate pair in an escape that follows the first directly; nothing if
none follows, and a stop if its digits are not digits. At least one character has to be left. -/
def secondHalf (text : List Char) : Except Stop (Option (Nat × List Char)) :=
  match text with
  | '\\' :: 'u' :: digits =>
      if (digits.drop 4).isEmpty then .ok none
      else
        match hexCode? digits with
        | none => .error (.at .codeEscape ('u' :: digits))
        | some (code, rest) =>
            .ok (if Encoding.Utf16.isLow code then some (code, rest) else none)
  | _ => .ok none

/-- The character that an escape by code stands for, after its letter. -/
def codeEscaped (digits : List Char) : Read Char :=
  if (digits.drop 4).isEmpty then .error (.at .codeEscape ('u' :: digits))
  else
    match hexCode? digits with
    | none => .error (.at .codeEscape ('u' :: digits))
    | some (code, rest) =>
        if Encoding.Utf16.isHigh code then
          match secondHalf rest with
          | .error stop => .error stop
          | .ok (some (low, rest)) =>
              .ok (Encoding.charOf (Encoding.Utf16.pairCode code low), rest)
          | .ok none => .ok (Encoding.charOf code, rest)
        else .ok (Encoding.charOf code, rest)

/-- The rest of a string up to its closing mark. The text from its opening mark on is given for
the case that it does not end. -/
def readString (opening : List Char) : (fuel : Nat) -> List Char -> Read (List Char)
  | 0, _ => .error (.at .stringEnd opening)
  | _ + 1, [] => .error (.at .stringEnd opening)
  | fuel + 1, c :: rest =>
      if c = '"' then .ok ([], rest)
      else if c = '\\' then
        match rest with
        | [] => .error (.at .stringEnd opening)
        | letter :: rest =>
            match
              if letter = 'u' then codeEscaped rest
              else
                match escaped? letter with
                | some character => .ok (character, rest)
                | none => .error (.at .escape (c :: letter :: rest))
            with
            | .error stop => .error stop
            | .ok (character, rest) =>
                match readString opening fuel rest with
                | .error stop => .error stop
                | .ok (text, rest) => .ok (character :: text, rest)
      else if c.toNat < 0x20 then .error (.at .controlCharacter (c :: rest))
      else
        match readString opening fuel rest with
        | .error stop => .error stop
        | .ok (text, rest) => .ok (c :: text, rest)

/-- The digits at the start of a text, and the text after them. -/
def spanDigits (text : List Char) : List Char × List Char :=
  (text.takeWhile Char.isDigit, text.dropWhile Char.isDigit)

/-- The fraction of a number: a point and at least one digit, or nothing. -/
def readFraction (text : List Char) : List Char × List Char :=
  match text with
  | '.' :: after =>
      let (digits, rest) := spanDigits after
      if digits.isEmpty then ([], text) else (digits, rest)
  | _ => ([], text)

/-- The exponent of a number: a letter, perhaps a sign, and at least one digit, or nothing. -/
def readExponent (text : List Char) : Option Int × List Char :=
  match text with
  | mark :: after =>
      if mark = 'e' || mark = 'E' then
        let (negative, unsigned) := Number.cutSign after
        let (digits, rest) := spanDigits unsigned
        if digits.isEmpty then (none, text)
        else
          let size := Int.ofNat (Text.valueOfDigits digits)
          (some (if negative then -size else size), rest)
      else (none, text)
  | [] => (none, text)

/-- The whole part of a number: a zero, or digits that do not begin with one. -/
def readWhole (text : List Char) : List Char × List Char :=
  match text with
  | '0' :: rest => (['0'], rest)
  | _ => spanDigits text

/-- A number without its sign, which is given. -/
def readUnsigned (negative : Bool) (start text : List Char) : Read Json :=
  let (whole, afterWhole) := readWhole text
  if whole.isEmpty then .error (.at .value start)
  else
    let (fraction, afterFraction) := readFraction afterWhole
    let (exponent, rest) := readExponent afterFraction
    if fraction.isEmpty && exponent.isNone then
      if Number.mostDigits < whole.length then .error (.tooManyDigits whole.length)
      else
        let size := Int.ofNat (Text.valueOfDigits whole)
        .ok (.int (if negative then -size else size), rest)
    else
      let scale := exponent.getD 0 - Int.ofNat fraction.length
      let size := Number.realOfDecimal (Text.valueOfDigits (whole ++ fraction)) scale
      .ok (.real (if negative then -size else size), rest)

/-- A number. -/
def readNumber (text : List Char) : Read Json :=
  match text with
  | '-' :: rest => readUnsigned true text rest
  | _ => readUnsigned false text text

/-- The values that are written as a word. -/
def words : List (List Char × Json) :=
  [
    ("null".toList, .null), ("true".toList, .bool true), ("false".toList, .bool false),
    ("NaN".toList, .real Number.notANumber), ("Infinity".toList, .real Number.infinity),
    ("-Infinity".toList, .real (-Number.infinity))
  ]

/-- The value of the word that a text begins with, if it begins with one. -/
def readWord? (text : List Char) : Option (Json × List Char) :=
  words.findSome? fun (word, value) => (afterWord? word text).map fun rest => (value, rest)

/-- The items of a list from the first on, up to its closing bracket. -/
def readItems (value : List Char -> Read Json) : (fuel : Nat) -> List Char -> Read (List Json)
  | 0, text => .error (.at .value text)
  | fuel + 1, text =>
      match value text with
      | .error stop => .error stop
      | .ok (item, rest) =>
          match skipGap rest with
          | ']' :: rest => .ok ([item], rest)
          | ',' :: rest =>
              match readItems value fuel (skipGap rest) with
              | .error stop => .error stop
              | .ok (items, rest) => .ok (item :: items, rest)
          | rest => .error (.at .comma rest)

/-- The entries of an object from the first on, up to its closing brace, after those already
read. -/
def readEntries (value : List Char -> Read Json) :
    (fuel : Nat) -> List (String × Json) -> List Char -> Read (List (String × Json))
  | 0, _, text => .error (.at .name text)
  | fuel + 1, entries, text =>
      match text with
      | '"' :: inside =>
          match readString text (fuel + 1) inside with
          | .error stop => .error stop
          | .ok (key, rest) =>
              match skipGap rest with
              | ':' :: rest =>
                  match value (skipGap rest) with
                  | .error stop => .error stop
                  | .ok (item, rest) =>
                      let entries := put (String.ofList key) item entries
                      match skipGap rest with
                      | c :: rest =>
                          if c.toNat = 0x7D then .ok (entries, rest)
                          else if c = ',' then readEntries value fuel entries (skipGap rest)
                          else .error (.at .comma (c :: rest))
                      | [] => .error (.at .comma [])
              | rest => .error (.at .colon rest)
      | _ => .error (.at .name text)

/-- A list, after its opening bracket. -/
def readList (value : List Char -> Read Json) (fuel : Nat) (text : List Char) : Read Json :=
  match skipGap text with
  | ']' :: rest => .ok (.list [], rest)
  | rest => (readItems value fuel rest).map fun (items, rest) => (.list items, rest)

/-- An object, after its opening brace. -/
def readObject (value : List Char -> Read Json) (fuel : Nat) (text : List Char) : Read Json :=
  let inside := skipGap text
  let closed := (inside.head?.map Char.toNat) == some 0x7D
  if closed then .ok (.object [], inside.drop 1)
  else (readEntries value fuel [] inside).map fun (entries, rest) => (.object entries, rest)

/-- A value in which containers may be nested to a depth. The fuel is for the longest string,
list or object and never runs out when it is the length of the text. -/
def readValue (fuel : Nat) : (depth : Nat) -> List Char -> Read Json
  | depth, text =>
      match text with
      | [] => .error (.at .value [])
      | c :: rest =>
          if c = '"' then
            (readString text fuel rest).map fun (value, rest) =>
              (.string (String.ofList value), rest)
          else if c = '[' then
            match depth with
            | 0 => .error (.tooDeep .list)
            | depth + 1 => readList (readValue fuel depth) fuel rest
          else if c.toNat = 0x7B then
            match depth with
            | 0 => .error (.tooDeep .object)
            | depth + 1 => readObject (readValue fuel depth) fuel rest
          else
            match readWord? text with
            | some read => .ok read
            | none => readNumber text

/-- How deep containers may be nested. The reader of a container calls that of the containers in it,
so this is no limit of the notation but what is left of a call stack of 1000 calls where a command
reads a file. A stack of another size, or a longer chain of calls to the reader, leaves another
depth. -/
def callStackDepth : Nat := 990

/-- The fault of a reader that stopped in a text. -/
def Stop.fault (text : List Char) : Stop -> Fault
  | .at reason left => .malformed reason (placeOf text (text.length - left.length))
  | .tooManyDigits count => .tooManyDigits count
  | .tooDeep container => .tooDeep container

/-- The value of the document that a text is, whatever it begins with. -/
def readDocument (text : List Char) : Except Fault Json :=
  match readValue (text.length + 1) callStackDepth (skipGap text) with
  | .error stop => .error (stop.fault text)
  | .ok (value, rest) =>
      match skipGap rest with
      | [] => .ok value
      | left => .error ((Stop.at .extraData left).fault text)

/-- The value of the document that a text is. A byte order mark has no place in a text, and is
reported as such. -/
def read (text : List Char) : Except Fault Json :=
  if text.head? = some (Char.ofNat 0xFEFF) then
    .error (.malformed .byteOrderMark (placeOf text 0))
  else readDocument text

/-- The value of the document that some bytes are, in whatever encoding they are found to be. The
mark that bytes may begin with is taken off with the encoding; a second one is a character as any
other. -/
def readBytes (bytes : List UInt8) : Except Fault Json :=
  match Encoding.decodeAny bytes with
  | .error fault => .error (.notText fault)
  | .ok text => readDocument text

end Json
end DegreeAudit
