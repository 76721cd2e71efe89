/-!
# Rounding a quotient

All number text in this library is computed with natural numbers: a decimal
digit is the outcome of one rounded division.  `roundDiv` is that division.
It never moves a quotient by more than half a unit, and `Tie` says where an
exact half goes.
-/

namespace Trendline.Decimal

/-- Where the exact half between two neighbours goes. -/
inductive Tie where
  /-- The neighbour that is even. -/
  | toEven
  /-- The neighbour that is larger. -/
  | upward
  deriving DecidableEq, Repr

/-- The natural number nearest to `num / den`. -/
def roundDiv (tie : Tie) (num den : Nat) : Nat :=
  let q := num / den
  let r := num % den
  if 2 * r < den then q
  else if den < 2 * r then q + 1
  else match tie with
    | .toEven => q + q % 2
    | .upward => q + 1

/-- A rounded quotient is the quotient or its successor. -/
theorem roundDiv_eq_or (tie : Tie) (num den : Nat) :
    roundDiv tie num den = num / den ∨ roundDiv tie num den = num / den + 1 := by
  unfold roundDiv
  dsimp only
  split
  · exact Or.inl rfl
  · split
    · exact Or.inr rfl
    · cases tie
      · rcases Nat.mod_two_eq_zero_or_one (num / den) with h | h <;> simp [h]
      · exact Or.inr rfl

/-- How many decimal digits a natural number has; zero has one. -/
def digitCount (n : Nat) : Nat :=
  (Nat.toDigits 10 n).length

end Trendline.Decimal
