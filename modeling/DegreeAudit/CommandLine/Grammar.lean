import DegreeAudit.Number.Reader
import DegreeAudit.Text.Quoted
import DegreeAudit.Text.Split

namespace DegreeAudit
namespace CommandLine

/-!
What a command line may hold, and what can be wrong with one. A grammar has options, which are
named and may stand anywhere, and slots, which take the remaining arguments in order.
-/

/-- What values an argument may have. -/
inductive ValueKind where
  | text
  | real
  | oneOf (choices : List String)
  deriving DecidableEq, Repr

/-- What an option takes. -/
inductive Takes where
  /-- Nothing, and shows the help. -/
  | help
  /-- Nothing. -/
  | nothing
  /-- One value. -/
  | value (kind : ValueKind)
  deriving DecidableEq, Repr

/-- An option with all its names. -/
structure OptionRule where
  names : List String
  takes : Takes
  deriving DecidableEq, Repr

/-- How many arguments a slot takes. -/
inductive SlotSize where
  /-- Exactly one. -/
  | one
  /-- One or none. -/
  | optional
  /-- One and all that follow it. -/
  | rest
  deriving DecidableEq, Repr

/-- A place for arguments that are no options. -/
structure Slot where
  name : String
  size : SlotSize
  kind : ValueKind
  deriving DecidableEq, Repr

/-- What may follow the name of a program or of one of its commands. -/
structure Grammar where
  program : String
  options : List OptionRule
  slots : List Slot
  deriving DecidableEq, Repr

/-- What is wrong with a command line. -/
inductive UsageFault where
  | expectedArgument (argument : String)
  | notReal (argument value : String)
  | notChoice (argument value : String) (choices : List String)
  | needlessValue (argument value : String)
  | ambiguous (option : String) (names : List String)
  | missing (arguments : List String)
  | unrecognized (arguments : List String)
  deriving DecidableEq, Repr

/-- Several texts with a comma between them. -/
def withCommas (texts : List String) : String :=
  Text.joinStrings ", " texts

/-- The wording of the fault. -/
def UsageFault.message : UsageFault -> String
  | .expectedArgument argument => "argument " ++ argument ++ ": expected one argument"
  | .notReal argument value =>
      "argument " ++ argument ++ ": invalid float value: " ++ Text.quote value
  | .notChoice argument value choices =>
      "argument " ++ argument ++ ": invalid choice: " ++ Text.quote value ++ " (choose from "
        ++ withCommas (choices.map Text.quote) ++ ")"
  | .needlessValue argument value =>
      "argument " ++ argument ++ ": ignored explicit argument " ++ Text.quote value
  | .ambiguous option names =>
      "ambiguous option: " ++ option ++ " could match " ++ withCommas names
  | .missing arguments => "the following arguments are required: " ++ withCommas arguments
  | .unrecognized arguments => "unrecognized arguments: " ++ Text.joinStrings " " arguments

/-- Why a command line is not carried out. -/
inductive UsageStop where
  | help
  | fault (fault : UsageFault)
  deriving DecidableEq, Repr

/-- A value that was given for an option or a slot. -/
inductive Value where
  /-- An option that takes nothing was given. -/
  | present
  /-- A slot was filled by nothing, or an option was given a mark in place of a value. -/
  | nothing
  | text (value : String)
  | real (value : Float)
  | rest (first : String) (others : List String)
  deriving DecidableEq, Repr

/-- The value that a text is for an argument. -/
def ValueKind.read (argument value : String) : ValueKind -> Except UsageStop Value
  | .text => .ok (.text value)
  | .real =>
      match Number.readReal? value.toList with
      | some number => .ok (.real number)
      | none => .error (.fault (.notReal argument value))
  | .oneOf choices =>
      if choices.contains value then .ok (.text value)
      else .error (.fault (.notChoice argument value choices))

/-- What an option is called in a message. -/
def OptionRule.label (rule : OptionRule) : String :=
  Text.joinStrings "/" rule.names

/-- What an option is known by in the result: its longest way of being called, the last one. -/
def OptionRule.key (rule : OptionRule) : String :=
  rule.names.getLast?.getD ""

/-- All names of options with the options they name, in order. -/
def Grammar.names (grammar : Grammar) : List (String × OptionRule) :=
  grammar.options.flatMap fun rule => rule.names.map fun name => (name, rule)

/-- The option of a name. -/
def Grammar.option? (grammar : Grammar) (name : String) : Option OptionRule :=
  (grammar.names.find? fun entry => entry.1 == name).map fun entry => entry.2

end CommandLine
end DegreeAudit
