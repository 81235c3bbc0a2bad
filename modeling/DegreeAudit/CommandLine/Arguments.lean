import DegreeAudit.CommandLine.Grammar
import DegreeAudit.Text.Digit

namespace DegreeAudit
namespace CommandLine

/-!
Reading a command line by a grammar. Options are told from other arguments first; then slots and
options are filled in turn from the left. Between two options as many slots are filled as the
arguments there allow, and what no slot takes is left over. Two dashes by themselves end the
options: what follows is for slots only.
-/

/-- How an option was written: in full or by its beginning, by itself or with a value attached. -/
structure Mention where
  rule : OptionRule
  name : String
  attached : Option (List Char)
  deriving DecidableEq, Repr

/-- An argument as it is told from others. -/
inductive Token where
  | mark
  | plain (text : String)
  | option (text : String) (mention : Option Mention)
  deriving DecidableEq, Repr

/-- The text of an argument. -/
def Token.text : Token -> String
  | .mark => "--"
  | .plain text => text
  | .option text _ => text

/-- Whether an argument is an option, known or not. -/
def Token.isOption : Token -> Bool
  | .option .. => true
  | _ => false

/-- Whether a text is digits with at most one point, before which there need not be any. -/
def isUnsignedNumber (text : List Char) : Bool :=
  let digits := text.takeWhile Text.isDecimalDigit
  match text.dropWhile Text.isDecimalDigit with
  | [] => !digits.isEmpty
  | '.' :: fraction => !fraction.isEmpty && fraction.all Text.isDecimalDigit
  | _ => false

/-- Whether what follows a dash makes it a negative number; a line feed at the end is allowed. -/
def isNegativeNumber (afterDash : List Char) : Bool :=
  isUnsignedNumber afterDash
    || (afterDash.getLast? == some '\n' && isUnsignedNumber afterDash.dropLast)

/-- The options that an argument with two dashes in front may mean, by the beginning of a name. -/
def Grammar.longMentions (grammar : Grammar) (text : List Char) : List Mention :=
  let (start, attached) := Text.cutAt '=' text
  grammar.names.filterMap fun (name, rule) =>
    if start.isPrefixOf name.toList then some ⟨rule, name, attached⟩ else none

/-- The options that an argument with one dash in front may mean: one of a single letter with a
value attached, or one whose name begins like this. -/
def Grammar.shortMentions (grammar : Grammar) (text : List Char) : List Mention :=
  grammar.names.filterMap fun (name, rule) =>
    if name.toList = text.take 2 then some ⟨rule, name, some (text.drop 2)⟩
    else if text.isPrefixOf name.toList then some ⟨rule, name, none⟩
    else none

/-- An option named in full before an equals sign. -/
def Grammar.assigned? (grammar : Grammar) (text : List Char) : Option Mention :=
  match Text.cutAt '=' text with
  | (name, some value) =>
      (grammar.option? (String.ofList name)).map fun rule =>
        ⟨rule, String.ofList name, some value⟩
  | (_, none) => none

/-- An argument that begins with a dash and something after it. -/
def Grammar.dashed (grammar : Grammar) (argument : String) (next : Char) (rest : List Char) :
    Except UsageStop Token :=
  let whole := '-' :: next :: rest
  let mentions :=
    if next = '-' then grammar.longMentions whole else grammar.shortMentions whole
  match grammar.option? argument, grammar.assigned? whole, mentions with
  | some rule, _, _ => .ok (.option argument (some ⟨rule, argument, none⟩))
  | none, some mention, _ => .ok (.option argument (some mention))
  | none, none, [mention] => .ok (.option argument (some mention))
  | none, none, _ :: _ :: _ =>
      .error (.fault (.ambiguous argument (mentions.map fun mention => mention.name)))
  | none, none, [] =>
      if isNegativeNumber (next :: rest) || whole.contains ' ' then .ok (.plain argument)
      else .ok (.option argument none)

/-- An argument told from others. -/
def Grammar.token (grammar : Grammar) (argument : String) : Except UsageStop Token :=
  match argument.toList with
  | '-' :: next :: rest => grammar.dashed argument next rest
  | _ => .ok (.plain argument)

/-- All arguments told from each other. -/
def Grammar.tokens (grammar : Grammar) : List String -> Except UsageStop (List Token)
  | [] => .ok []
  | argument :: arguments =>
      if argument = "--" then .ok (.mark :: arguments.map .plain)
      else do
        let token <- grammar.token argument
        let tokens <- grammar.tokens arguments
        pure (token :: tokens)

/-- Splits off the mark at the start, if there is one. -/
def cutMark : List Token -> List String × List Token
  | .mark :: tokens => (["--"], tokens)
  | tokens => ([], tokens)

/-- The arguments that a slot takes, and those it leaves. -/
def SlotSize.take? (tokens : List Token) : SlotSize -> Option (List String × List Token)
  | .one =>
      match cutMark tokens with
      | (before, .plain text :: tokens) =>
          let (after, tokens) := cutMark tokens
          some (before ++ [text] ++ after, tokens)
      | _ => none
  | .optional =>
      match cutMark tokens with
      | (before, .plain text :: tokens) =>
          let (after, tokens) := cutMark tokens
          some (before ++ [text] ++ after, tokens)
      | (before, tokens) => some (before, tokens)
  | .rest =>
      match cutMark tokens with
      | (before, .plain text :: tokens) =>
          some (before ++ [text] ++ tokens.map Token.text, [])
      | _ => none

/-- The value that a slot has by its arguments. A mark among them is dropped, unless the slot takes
all that follows. -/
def Slot.value (slot : Slot) (arguments : List String) : Except UsageStop Value :=
  match slot.size, arguments with
  | .rest, first :: others => do
      let _ <- slot.kind.read slot.name first
      pure (.rest first others)
  | .rest, [] => .ok .nothing
  | _, arguments =>
      match arguments.erase "--" with
      | [] => .ok .nothing
      | argument :: _ => slot.kind.read slot.name argument

/-- How far reading has come: the slots to fill, the values found, the latest first, and the
arguments that nothing took. -/
structure Progress where
  slots : List Slot
  values : List (String × Value)
  extras : List String
  deriving DecidableEq, Repr

/-- Fills slots as long as the arguments allow it. -/
def fillSlots : List Slot -> List (String × Value) -> List Token ->
    Except UsageStop (List Slot × List (String × Value) × List Token)
  | [], values, tokens => .ok ([], values, tokens)
  | slot :: slots, values, tokens =>
      match slot.size.take? tokens with
      | none => .ok (slot :: slots, values, tokens)
      | some (arguments, tokens) => do
          let value <- slot.value arguments
          fillSlots slots ((slot.name, value) :: values) tokens

/-- What an option does that takes no value of its own: it is noted, or the help is shown. -/
def OptionRule.note (rule : OptionRule) (progress : Progress) : Except UsageStop Progress :=
  match rule.takes with
  | .help => .error .help
  | _ => .ok { progress with values := (rule.key, .present) :: progress.values }

/-- Options of single letters written together after one dash, the first of which is known. Every
letter has to name one. -/
def Grammar.bundle (grammar : Grammar) (rule : OptionRule) :
    List Char -> Except UsageStop (List OptionRule)
  | [] => .ok [rule]
  | letter :: text =>
      match grammar.option? (String.ofList ['-', letter]) with
      | none => .error (.fault (.needlessValue rule.label (String.ofList (letter :: text))))
      | some next => do
          let rules <- grammar.bundle next text
          pure (rule :: rules)

/-- The value attached to an option. A mark in its place gives no value. -/
def ValueKind.readAttached (kind : ValueKind) (argument : String) (value : List Char) :
    Except UsageStop Value :=
  if value = ['-', '-'] then .ok .nothing else kind.read argument (String.ofList value)

/-- Reads an option with a value attached to it. -/
def Grammar.attached (grammar : Grammar) (mention : Mention) (value : List Char)
    (progress : Progress) : Except UsageStop Progress :=
  let rule := mention.rule
  match rule.takes with
  | .value kind => do
      let value <- kind.readAttached rule.label value
      pure { progress with values := (rule.key, value) :: progress.values }
  | _ =>
      if mention.name.length = 2 && !value.isEmpty then do
        let rules <- grammar.bundle rule value
        rules.foldlM (fun progress rule => rule.note progress) progress
      else .error (.fault (.needlessValue rule.label (String.ofList value)))

/-- Reads an option. The result has the number of arguments after it that it takes. -/
def Grammar.readOption (grammar : Grammar) (option : Token) (following : List Token)
    (progress : Progress) : Except UsageStop (Progress × Nat) :=
  match option with
  | .option _ (some ⟨rule, name, some value⟩) => do
      let progress <- grammar.attached ⟨rule, name, some value⟩ value progress
      pure (progress, 0)
  | .option _ (some ⟨rule, _, none⟩) =>
      match rule.takes, following with
      | .value kind, .plain text :: _ => do
          let value <- kind.read rule.label text
          pure ({ progress with values := (rule.key, value) :: progress.values }, 1)
      | .value _, _ => .error (.fault (.expectedArgument rule.label))
      | _, _ => do
          let progress <- rule.note progress
          pure (progress, 0)
  | option => .ok ({ progress with extras := progress.extras ++ [option.text] }, 0)

/-- Reads all arguments from the left. -/
def Grammar.consume (grammar : Grammar) (progress : Progress) (tokens : List Token) :
    Except UsageStop Progress :=
  match _split : tokens.dropWhile (fun token => !token.isOption) with
  | [] => do
      let (slots, values, left) <- fillSlots progress.slots progress.values tokens
      pure { slots, values, extras := progress.extras ++ left.map Token.text }
  | option :: following => do
      let front := tokens.takeWhile fun token => !token.isOption
      let (slots, values, left) <-
        if front.isEmpty then pure (progress.slots, progress.values, tokens)
        else fillSlots progress.slots progress.values tokens
      if _filled : left.length < tokens.length then
        grammar.consume { progress with slots, values } left
      else
        let (progress, taken) <- grammar.readOption option following
          { slots, values, extras := progress.extras ++ front.map Token.text }
        grammar.consume progress (following.drop taken)
termination_by tokens.length
decreasing_by
  · exact _filled
  · have shorter :=
      (List.dropWhile_suffix (fun token => !Token.isOption token) (l := tokens)).length_le
    simp only [_split, List.length_cons] at shorter
    simp only [List.length_drop]
    omega

/-- The values found on a command line, and the arguments that nothing took. -/
structure Found where
  values : List (String × Value)
  extras : List String
  deriving DecidableEq, Repr

/-- The value found for an option or a slot. -/
def Found.value? (found : Found) (name : String) : Option Value :=
  (found.values.find? fun entry => entry.1 == name).map fun entry => entry.2

/-- The text found for an option or a slot. -/
def Found.text? (found : Found) (name : String) : Option String :=
  match found.value? name with
  | some (.text value) => some value
  | _ => none

/-- Reads a command line. Every slot that needs an argument has to be filled. -/
def Grammar.read (grammar : Grammar) (arguments : List String) : Except UsageStop Found := do
  let tokens <- grammar.tokens arguments
  let progress <- grammar.consume { slots := grammar.slots, values := [], extras := [] } tokens
  let missing := progress.slots.filter fun slot => slot.size != .optional
  if missing.isEmpty then pure { values := progress.values, extras := progress.extras }
  else .error (.fault (.missing (missing.map fun slot => slot.name)))

end CommandLine
end DegreeAudit
