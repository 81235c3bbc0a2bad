namespace DegreeAudit

/-!
Sums of credits, taken one course after another from zero. A sum over no course at all is kept
apart from a sum that comes to zero, since reports in JSON write the one as a whole number and the
other as a real one.
-/

/-- A sum of credits. -/
inductive Tally (κ : Type) where
  /-- No course was counted. -/
  | nothing
  /-- The courses counted come to this amount. -/
  | amount (value : κ)
  deriving DecidableEq, Repr

namespace Tally

variable {κ : Type} [OfNat κ 0] [Add κ]

/-- The amount of a sum. -/
def value : Tally κ -> κ
  | nothing => 0
  | amount value => value

/-- The sum with one more course. -/
def plus (tally : Tally κ) (credits : κ) : Tally κ :=
  amount (tally.value + credits)

/-- The sum of the credits of a list. -/
def sum (credits : List κ) : Tally κ :=
  credits.foldl plus nothing

@[simp]
theorem sum_nil : sum ([] : List κ) = nothing := rfl

theorem value_foldl_plus (tally : Tally κ) (credits : List κ) :
    (credits.foldl plus tally).value = credits.foldl (fun total next => total + next) tally.value := by
  induction credits generalizing tally with
  | nil => rfl
  | cons first rest ih => simpa [plus, value] using ih (tally.plus first)

/-- The amount of a sum is the sum from the left, beginning with zero. -/
theorem value_sum (credits : List κ) :
    (sum credits).value = credits.foldl (fun total next => total + next) 0 :=
  value_foldl_plus nothing credits

end Tally
end DegreeAudit
