namespace DegreeAudit

/-!
Patterns that rows of text are searched for: characters and classes of them, places between
characters, choices, repetitions, and groups whose text can be asked for again. Code points are
numbers here, since a pattern may name one that no character has.
-/

/-- A class of characters. -/
inductive CharClass where
  | digit
  | blank
  | word
  deriving DecidableEq, Repr

/-- A part of a set of characters. -/
inductive SetPart where
  | code (code : Nat)
  | range (first last : Nat)
  | ofClass (charClass : CharClass) (negated : Bool)
  deriving DecidableEq, Repr

/-- What is asked of one character. -/
inductive CharTest where
  | code (code : Nat)
  /-- Any character, a line feed under a switch only. -/
  | any
  | set (negated : Bool) (parts : List SetPart)
  deriving DecidableEq, Repr

/-- A place between two characters or at an end of the text. -/
inductive Anchor where
  | lineStart
  | lineEnd
  | textStart
  | textEnd
  | wordEdge
  | noWordEdge
  deriving DecidableEq, Repr

/-- The switches that change what a pattern means. -/
structure Switches where
  ignoreCase : Bool
  multiline : Bool
  dotAll : Bool
  spaced : Bool
  ascii : Bool
  deriving DecidableEq, Repr

/-- The switches that a part of a pattern turns on and off. -/
structure SwitchChange where
  on : Switches
  off : Switches
  deriving DecidableEq, Repr

/-- How often a repetition is tried first: as often as possible or as seldom, or as often as
possible and then never less. -/
inductive Greed where
  | greedy
  | reluctant
  | possessive
  deriving DecidableEq, Repr

/-- A pattern. -/
inductive Pattern where
  | empty
  | one (test : CharTest)
  | anchor (place : Anchor)
  | both (first second : Pattern)
  | either (first second : Pattern)
  | repeated (least : Nat) (most : Option Nat) (greed : Greed) (body : Pattern)
  | group (number : Nat) (body : Pattern)
  | switched (change : SwitchChange) (body : Pattern)
  | sameAs (number : Nat)
  /-- What follows here; or what precedes, if a width is given. -/
  | look (back : Option Nat) (negated : Bool) (body : Pattern)
  | atomic (body : Pattern)
  | ifGroup (number : Nat) (first second : Pattern)
  deriving DecidableEq, Repr

namespace Switches

/-- No switch. -/
def none : Switches := ⟨false, false, false, false, false⟩

/-- The switches of either. -/
def or (a b : Switches) : Switches :=
  ⟨a.ignoreCase || b.ignoreCase, a.multiline || b.multiline, a.dotAll || b.dotAll,
    a.spaced || b.spaced, a.ascii || b.ascii⟩

/-- The switches of the first without those of the second. -/
def without (a b : Switches) : Switches :=
  ⟨a.ignoreCase && !b.ignoreCase, a.multiline && !b.multiline, a.dotAll && !b.dotAll,
    a.spaced && !b.spaced, a.ascii && !b.ascii⟩

/-- The switches after a change. -/
def change (switches : Switches) (change : SwitchChange) : Switches :=
  (switches.or change.on).without change.off

end Switches

/-- How many characters a text that fits a pattern may have. -/
structure Width where
  least : Nat
  /-- Nothing stands for any number. -/
  most : Option Nat
  deriving DecidableEq, Repr

namespace Width

/-- The width of one text after another. -/
def add (a b : Width) : Width :=
  ⟨a.least + b.least, do pure ((<- a.most) + (<- b.most))⟩

/-- The width of one text or another. -/
def join (a b : Width) : Width :=
  ⟨min a.least b.least, do pure (max (<- a.most) (<- b.most))⟩

/-- The width of a text repeated. -/
def times (least : Nat) (most : Option Nat) (width : Width) : Width :=
  {
    least := least * width.least
    most :=
      if width.most = some 0 || most = some 0 then some 0
      else do pure ((<- most) * (<- width.most))
  }

/-- The one width that a text can have, if there is only one. -/
def fixed? (width : Width) : Option Nat :=
  if width.most = some width.least then some width.least else none

end Width

namespace Pattern

/-- The width of a pattern, given the widths of groups. -/
def width (groupWidth : Nat -> Width) : Pattern -> Width
  | empty | anchor _ | look .. => ⟨0, some 0⟩
  | one _ => ⟨1, some 1⟩
  | both first second => (first.width groupWidth).add (second.width groupWidth)
  | either first second => (first.width groupWidth).join (second.width groupWidth)
  | repeated least most _ body => (body.width groupWidth).times least most
  | group _ body | switched _ body | atomic body => body.width groupWidth
  | sameAs number => groupWidth number
  | ifGroup _ first second => (first.width groupWidth).join (second.width groupWidth)

/-- Whether something is repeated in a pattern. -/
def hasRepeat : Pattern -> Bool
  | repeated .. => true
  | empty | one _ | anchor _ | sameAs _ => false
  | both first second | either first second | ifGroup _ first second =>
      first.hasRepeat || second.hasRepeat
  | group _ body | switched _ body | look _ _ body | atomic body => body.hasRepeat

end Pattern
end DegreeAudit
