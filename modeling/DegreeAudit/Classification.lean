import DegreeAudit.Requirement.Basic

namespace DegreeAudit

/-!
The bucket suggested for a course. Three strategies are tried in turn and the first with an answer
wins: the family of the code, the code starts of the track, and words in the name of the course. A
course that none of them knows is suggested for the bucket of all others.
-/

namespace Classification

/-- A way to find the bucket of a course. -/
inductive Strategy where
  | codeFamily
  | trackStart
  | nameKeyword
  deriving DecidableEq, Repr

/-- The strategies in the order in which they are tried. -/
def Strategy.all : List Strategy := [.codeFamily, .trackStart, .nameKeyword]

/-- The name of a strategy. -/
def Strategy.label : Strategy -> String
  | .codeFamily => "code-family"
  | .trackStart => "track-prefix"
  | .nameKeyword => "name-keyword"

/-- The codes of mathematics courses. -/
def mathCodes : List String := ["BS102A", "BS101", "BS201A", "BS203", "BS202"]

/-- The codes of physics courses. -/
def physicsCodes : List String := ["BS103A", "BS104A", "BS105A", "BS106A"]

/-- The codes of chemistry courses. -/
def chemistryCodes : List String := ["BS118", "BS113", "BS119", "CHEM206"]

/-- The codes of biology courses. -/
def biologyCodes : List String := ["BS114", "BS115", "BS116", "BS117"]

/-- The codes of all science courses. -/
def scienceCodes : List String := physicsCodes ++ chemistryCodes ++ biologyCodes

/-- The codes of the engineering core. -/
def engineeringCoreCodes : List String := ["BE101A", "BE202", "BE201"]

/-- The codes of arts and sports courses that do not begin as the others do. -/
def artsAndSportsCodes : List String := ["PE1", "PE2"]

/-- Whether a code begins with a text. -/
def startsWith (code start : String) : Bool :=
  start.toList.isPrefixOf code.toList

/-- The bucket of a basic science code; an unknown one counts as physics. -/
def scienceBucket (code : String) : Bucket :=
  if mathCodes.contains code then .math
  else if physicsCodes.contains code then .physics
  else if chemistryCodes.contains code then .chemistry
  else if biologyCodes.contains code then .biology
  else .physics

/-- The bucket of the family that a normalized code belongs to. -/
def familyBucket? (code : String) : Option Bucket :=
  if startsWith code "BS" || scienceCodes.contains code then some (scienceBucket code)
  else if startsWith code "BE" then
    some (if engineeringCoreCodes.contains code then .engineeringCore else .engineeringSelect)
  else if startsWith code "HSS" then some .humanities
  else if startsWith code "ENG_" then some .english
  else if startsWith code "ART_" || artsAndSportsCodes.contains code then some .artsAndSports
  else if startsWith code "UGRP" then some .ugrp
  else if startsWith code "INT" then some .internship
  else none

/-- The bucket of the track, if a normalized code begins as the codes of the track do. -/
def trackBucket? (track : Option Track) (code : String) : Option Bucket :=
  match track with
  | none => none
  | some track =>
      if track.codeStarts.any fun start => !start.isEmpty && startsWith code start then some .track
      else none

/-- The words for an internship in the name of a course. -/
def internshipWords : List String := ["인턴", "intern"]

/-- The word for a research programme in the name of a course. -/
def ugrpWord : String := "UGRP"

/-- The bucket that a word in the name of a course stands for. -/
def keywordBucket? (name : String) : Option Bucket :=
  let name := Text.trim name.toList
  if internshipWords.any fun word => Text.occursIn word.toList (Text.lower name) then
    some .internship
  else if Text.occursIn ugrpWord.toList (Text.upper name) then some .ugrp
  else none

/-- What a strategy answers for a course. -/
def Strategy.bucket? (strategy : Strategy) (code name : String) (track : Option Track) :
    Option Bucket :=
  match strategy with
  | .codeFamily => familyBucket? (normalizeCode code)
  | .trackStart => trackBucket? track (normalizeCode code)
  | .nameKeyword => keywordBucket? name

/-- A bucket, and the strategy that found it unless it is the bucket of all others. -/
structure Suggestion where
  bucket : Bucket
  strategy : Option Strategy
  deriving DecidableEq, Repr

/-- The name of the strategy of a suggestion. -/
def Suggestion.strategyLabel (suggestion : Suggestion) : String :=
  match suggestion.strategy with
  | some strategy => strategy.label
  | none => "default"

/-- The answer of the first strategy that has one. -/
def suggest (code name : String) (track : Option Track) : Suggestion :=
  let answers := Strategy.all.filterMap fun strategy =>
    (strategy.bucket? code name track).map fun bucket => (bucket, strategy)
  match answers with
  | (bucket, strategy) :: _ => ⟨bucket, some strategy⟩
  | [] => ⟨.other, none⟩

end Classification

/-- The bucket suggested for a course. -/
def classify (code name : String) (track : Option Track) : Bucket :=
  (Classification.suggest code name track).bucket

end DegreeAudit
