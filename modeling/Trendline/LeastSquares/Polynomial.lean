import Trendline.LeastSquares.Line
import Trendline.LeastSquares.Solver
import Trendline.Polynomial

/-!
# The least-squares polynomial

Degree one has its closed form.  A higher degree is a linear system with one
row of powers for each point, handed to a solver.  The solver is a parameter:
what is decided here is when it may be called.  A polynomial of degree `d` is
determined by `d + 1` distinct abscissae and by no fewer, so the abscissae are
counted first.
-/

namespace Trendline.LeastSquares

variable {α : Type} [Scalar α]

/-- Puts a value into a descending list, after everything that is larger. -/
def insertDescending (x : α) : List α → List α
  | [] => [x]
  | y :: rest => if x < y then y :: insertDescending x rest else x :: y :: rest

/-- How many neighbours of a list differ, its first element included. -/
def countRuns : List α → Nat
  | [] => 0
  | [_] => 1
  | x :: y :: rest => (if x == y then 0 else 1) + countRuns (y :: rest)

/-- The number of distinct values. -/
def countDistinct (u : List α) : Nat :=
  countRuns (u.foldl (fun sorted x => insertDescending x sorted) [])

/-- The coefficients of a polynomial of degree two or more, so many of them. -/
def solvePolynomial (solve : Solver α) (u y : List α) (needed : Nat) :
    Except (FitError α) (List α) :=
  let distinct := countDistinct u
  if distinct < needed then
    match u with
    | first :: _ =>
      if distinct ≤ 1 then .error (.degenerate first)
      else .error (.insufficientData needed distinct)
    | [] => .error (.insufficientData needed distinct)
  else
    match solve needed (u.map (Polynomial.designRow needed)) y with
    | some coefficients => .ok coefficients
    | none => .error .illConditioned

/-- The coefficients of the least-squares polynomial through the points `(u i, y i)`. -/
def fitPolynomial (solve : Solver α) (u y : List α) (degree : UInt64) :
    Except (Stop (FitError α)) (List α) :=
  if degree = 0 then .error (.refused .zeroDegree)
  else do
    let needed ← Stop.checked (Polynomial.coefficientCount? degree)
    if u.length < needed then .error (.refused (.insufficientData needed u.length))
    else if degree = 1 then
      (fitLine u y).mapError .refused >>= fun line => return [line.intercept, line.slope]
    else (solvePolynomial solve u y needed).mapError .refused

/-- Counting the coefficients is the only step that can overflow. -/
theorem fitPolynomial_ne_overflow {degree : UInt64} {needed : Nat}
    (h : Polynomial.coefficientCount? degree = some needed) (solve : Solver α) (u y : List α) :
    fitPolynomial solve u y degree ≠ .error .overflow := by
  rw [fitPolynomial, h]
  split
  · exact nofun
  · refine Stop.bind_ne nofun fun needed => ?_
    split
    · exact nofun
    · split
      · exact Stop.bind_ne (Stop.mapError_refused_ne _) fun _ => nofun
      · exact Stop.mapError_refused_ne _

end Trendline.LeastSquares
