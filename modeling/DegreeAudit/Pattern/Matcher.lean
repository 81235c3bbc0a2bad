import DegreeAudit.Pattern.Syntax
import DegreeAudit.Text.Blank
import DegreeAudit.Text.CaseVariants
import DegreeAudit.Text.Digit
import DegreeAudit.Text.WordTable

namespace DegreeAudit

/-!
Searching a text for a pattern. The search tries the ways in which a pattern can fit one after
another, in the order the pattern gives; each part is handed what is to fit after it, and takes
its next way when that does not fit.
-/

/-- Whether a character is one that words are made of. -/
def isWordChar (switches : Switches) (c : Char) : Bool :=
  if switches.ascii then c.isAlphanum || c = '_'
  else c = '_' || Text.inRanges Text.alphanumericRanges c.toNat

namespace CharClass

/-- Whether a character is of a class. -/
def holds (switches : Switches) (charClass : CharClass) (c : Char) : Bool :=
  match charClass with
  | digit => if switches.ascii then c.isDigit else Text.isDecimalDigit c
  | blank =>
      if switches.ascii then c = ' ' || (0x9 <= c.toNat && c.toNat <= 0xD) else Text.isBlank c
  | word => isWordChar switches c

end CharClass

/-- The code points that a character counts as. -/
def spellings (switches : Switches) (c : Char) : List Nat :=
  if switches.ignoreCase then
    if switches.ascii then [c.toLower.toNat, c.toUpper.toNat] else Text.caseVariants c
  else [c.toNat]

/-- The form of a character that is compared when the text of a group is asked for again. -/
def plainCase (switches : Switches) (c : Char) : Char :=
  if switches.ignoreCase then if switches.ascii then c.toLower else Text.lowerLetter c
  else c

/-- The greatest code point of the basic plane. -/
def basicPlane : Nat := 0xFFFF

/-- Whether a character is in a part of a set with several parts. There a capital letter beyond the
basic plane counts as the small one, and one in the set has no other spelling. A range that ends
beyond the basic plane takes a letter by its capital too, whatever else the switches say. -/
def SetPart.holds (switches : Switches) (c : Char) : SetPart -> Bool
  | .code wanted =>
      if basicPlane < wanted then (plainCase switches c).toNat == wanted
      else (spellings switches c).contains wanted
  | .range first last =>
      let codes :=
        if switches.ignoreCase && basicPlane < last then
          (Text.upperCodes (plainCase switches c).toNat).take 1 ++ spellings switches c
        else spellings switches c
      codes.any fun code => first <= code && code <= last
  | .ofClass charClass negated => charClass.holds switches c != negated

/-- Whether a character is what is asked for. -/
def CharTest.holds (switches : Switches) (c : Char) : CharTest -> Bool
  | .code wanted => (spellings switches c).contains wanted
  | .any => switches.dotAll || c != '\n'
  | .set negated [.code wanted] => (spellings switches c).contains wanted != negated
  | .set negated parts => (parts.any fun part => part.holds switches c) != negated

/-- How far a search has come: the text before, read backwards, the text after, and the texts of
the groups, the latest first. -/
structure Spot where
  before : List Char
  after : List Char
  groups : List (Nat × List Char)
  deriving DecidableEq, Repr

namespace Spot

/-- The text of a group that has taken part. -/
def group? (spot : Spot) (number : Nat) : Option (List Char) :=
  (spot.groups.find? fun entry => entry.1 == number).map fun entry => entry.2

/-- The spot after some characters more. -/
def forward : Nat -> Spot -> Option Spot
  | 0, spot => some spot
  | count + 1, spot =>
      match spot.after with
      | [] => none
      | c :: rest => forward count { spot with before := c :: spot.before, after := rest }

/-- The spot some characters earlier. -/
def backward : Nat -> Spot -> Option Spot
  | 0, spot => some spot
  | count + 1, spot =>
      match spot.before with
      | [] => none
      | c :: rest => backward count { spot with before := rest, after := c :: spot.after }

end Spot

/-- Whether a word begins or ends at a spot; in an empty text neither holds nor its opposite. -/
def wordChangesAt (switches : Switches) (spot : Spot) : Option Bool :=
  let isWord (text : List Char) : Bool :=
    (text.head?.map fun c => isWordChar switches c).getD false
  if spot.before.isEmpty && spot.after.isEmpty then none
  else some (isWord spot.before != isWord spot.after)

/-- Whether a spot is a place that is asked for. -/
def Anchor.holds (switches : Switches) (spot : Spot) : Anchor -> Bool
  | .textStart => spot.before.isEmpty
  | .textEnd => spot.after.isEmpty
  | .lineStart =>
      spot.before.isEmpty || (switches.multiline && spot.before.head? == some '\n')
  | .lineEnd =>
      spot.after.isEmpty || spot.after == ['\n']
        || (switches.multiline && spot.after.head? == some '\n')
  | .wordEdge => wordChangesAt switches spot == some true
  | .noWordEdge => wordChangesAt switches spot == some false

/-- What is to fit after a part of a pattern. -/
abbrev Following := Spot -> Option Spot

/-- The ways of a part of a pattern, each tried with what follows. -/
abbrev Ways := Spot -> Following -> Option Spot

/-- The repetition that goes on as long as it can. A round that began where the last one did would
go on for ever and is not tried. -/
def repeatGreedily (body : Ways) (least : Nat) (most : Option Nat) :
    (fuel count : Nat) -> (last : Option Nat) -> Ways
  | 0, _, _, spot, follow => follow spot
  | fuel + 1, count, last, spot, follow =>
      let again (last : Option Nat) : Option Spot :=
        body spot fun spot => repeatGreedily body least most fuel (count + 1) last spot follow
      if count < least then again last
      else if (most.map fun most => decide (count < most)).getD true
          && last != some spot.after.length then
        match again (some spot.after.length) with
        | some found => some found
        | none => follow spot
      else follow spot

/-- The repetition that goes on only if what follows does not fit. -/
def repeatReluctantly (body : Ways) (least : Nat) (most : Option Nat) :
    (fuel count : Nat) -> (last : Option Nat) -> Ways
  | 0, _, _, spot, follow => follow spot
  | fuel + 1, count, last, spot, follow =>
      let again (last : Option Nat) : Option Spot :=
        body spot fun spot => repeatReluctantly body least most fuel (count + 1) last spot follow
      if count < least then again last
      else
        match follow spot with
        | some found => some found
        | none =>
            if (most.map fun most => decide (count < most)).getD true
                && last != some spot.after.length then
              again (some spot.after.length)
            else none

/-- The repetition that goes on as long as it can and is never taken back. -/
def repeatPossessively (body : Ways) (least : Nat) (most : Option Nat) :
    (fuel count : Nat) -> Spot -> Option Spot
  | 0, _, spot => some spot
  | fuel + 1, count, spot =>
      if (most.map fun most => decide (count < most)).getD true then
        match body spot some with
        | none => if count < least then none else some spot
        | some next =>
            if least <= count && next.after.length = spot.after.length then some next
            else repeatPossessively body least most fuel (count + 1) next
      else some spot

namespace Pattern

/-- The ways in which a pattern fits at a spot. -/
def ways (switches : Switches) : Pattern -> Ways
  | empty, spot, follow => follow spot
  | one test, spot, follow =>
      match spot.after with
      | [] => none
      | c :: rest =>
          if test.holds switches c then
            follow { spot with before := c :: spot.before, after := rest }
          else none
  | anchor place, spot, follow => if place.holds switches spot then follow spot else none
  | both first second, spot, follow =>
      first.ways switches spot fun spot => second.ways switches spot follow
  | either first second, spot, follow =>
      match first.ways switches spot follow with
      | some found => some found
      | none => second.ways switches spot follow
  | repeated least most greed body, spot, follow =>
      let fuel := least + spot.after.length + 3
      match greed with
      | .greedy => repeatGreedily (body.ways switches) least most fuel 0 none spot follow
      | .reluctant => repeatReluctantly (body.ways switches) least most fuel 0 none spot follow
      | .possessive =>
          (repeatPossessively (body.ways switches) least most fuel 0 spot).bind follow
  | group number body, spot, follow =>
      body.ways switches spot fun reached =>
        let text := spot.after.take (spot.after.length - reached.after.length)
        follow { reached with groups := (number, text) :: reached.groups }
  | switched change body, spot, follow => body.ways (switches.change change) spot follow
  | sameAs number, spot, follow =>
      match spot.group? number with
      | none => none
      | some text =>
          let found := spot.after.take text.length
          if (text.map (plainCase switches)) == found.map (plainCase switches) then
            (spot.forward text.length).bind follow
          else none
  | look back negated body, spot, follow =>
      let start :=
        match back with
        | none => some spot
        | some width => spot.backward width
      let found := start.bind fun start => body.ways switches start some
      if negated then
        if found.isSome then none else follow spot
      else
        match found with
        | none => none
        | some found => follow { spot with groups := found.groups }
  | atomic body, spot, follow => (body.ways switches spot some).bind follow
  | ifGroup number first second, spot, follow =>
      if (spot.group? number).isSome then first.ways switches spot follow
      else second.ways switches spot follow

/-- Whether a pattern fits somewhere in the text from a spot on. -/
def fitsFrom (switches : Switches) (pattern : Pattern) : (before after : List Char) -> Bool
  | before, after =>
      (pattern.ways switches ⟨before, after, []⟩ some).isSome
        || match after with
          | [] => false
          | c :: rest => fitsFrom switches pattern (c :: before) rest
termination_by _ after => after.length

end Pattern
end DegreeAudit
