import DegreeAudit.Compound
import DegreeAudit.Holdings

namespace DegreeAudit

/-!
The four kinds of clauses that requirements are made of, each with the test of the held courses
that decides it.
-/

variable {κ : Type}

/-- Every code of a list is to be held. -/
structure AllOf where
  codes : List String
  deriving DecidableEq, Repr

namespace AllOf

/-- Whether every code is held. -/
def check (clause : AllOf) (courses : List (Course κ)) : Bool :=
  Holdings.hasAll courses clause.codes

/-- The codes that are not held. -/
def missing (clause : AllOf) (courses : List (Course κ)) : List String :=
  Holdings.missing courses clause.codes

end AllOf

/-- One of several options is to be held. An option is a list of codes that are needed together. -/
structure AnyOf where
  options : List (List String)
  deriving DecidableEq, Repr

namespace AnyOf

/-- The options that texts write, each as a code or a compound code; blank ones are left out. -/
def ofTexts (texts : List String) : AnyOf :=
  ⟨(texts.map splitCompound).filter fun option => !option.isEmpty⟩

/-- The options as texts. -/
def labels (clause : AnyOf) : List String :=
  clause.options.map joinCompound

/-- Whether an option is held: all its codes are, or if there are several, one course stands for
them under their compound code. -/
def optionHeld (courses : List (Course κ)) (option : List String) : Bool :=
  (1 < option.length && Holdings.has courses (joinCompound (option.map normalizeCode)))
    || Holdings.hasAll courses option

/-- Whether some option is held. -/
def check (clause : AnyOf) (courses : List (Course κ)) : Bool :=
  clause.options.any (optionHeld courses)

end AnyOf

/-- The credits of the courses on a list are to reach a minimum. -/
structure CreditsFrom (κ : Type) where
  codes : List String
  minimum : κ
  deriving DecidableEq, Repr

namespace CreditsFrom

variable [OfNat κ 0] [Add κ]

/-- The credits of the held courses on the list. -/
def credits (clause : CreditsFrom κ) (courses : List (Course κ)) : Tally κ :=
  Holdings.creditsFor courses clause.codes

/-- Whether the credits reach the minimum. -/
def check [LE κ] [DecidableLE κ] (clause : CreditsFrom κ) (courses : List (Course κ)) : Bool :=
  clause.minimum <= (clause.credits courses).value

end CreditsFrom

/-- A theory course and a laboratory course are to be held. The theory is met by all courses of
one list, if there is such a list, or by any course of another. -/
structure TheoryLab where
  theoryAll : Option (List String)
  theoryAny : List String
  labAny : List String
  deriving DecidableEq, Repr

namespace TheoryLab

/-- Whether there is a list of theory courses needed together and all of them are held. -/
def theoryAllOk (clause : TheoryLab) (courses : List (Course κ)) : Bool :=
  match clause.theoryAll with
  | some codes => Holdings.hasAll courses codes
  | none => false

/-- Whether some other theory course is held. -/
def theoryAnyOk (clause : TheoryLab) (courses : List (Course κ)) : Bool :=
  Holdings.hasAny courses clause.theoryAny

/-- Whether some laboratory course is held. -/
def labOk (clause : TheoryLab) (courses : List (Course κ)) : Bool :=
  Holdings.hasAny courses clause.labAny

/-- Whether theory and laboratory are both met. -/
def check (clause : TheoryLab) (courses : List (Course κ)) : Bool :=
  (clause.theoryAllOk courses || clause.theoryAnyOk courses) && clause.labOk courses

end TheoryLab
end DegreeAudit
