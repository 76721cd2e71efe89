/-!
# Axes and fit spaces

A curve is fitted in a space in which it is a polynomial: of the data
themselves, of both logarithms, or of the logarithm of `x` alone.
-/

namespace Trendline

/-- Which coordinate a value belongs to. -/
inductive Axis where
  | x
  | y
  deriving DecidableEq, Repr

/-- The name of the axis in messages. -/
def Axis.name : Axis → String
  | x => "x"
  | y => "y"

/-- The axis of that name. -/
def Axis.ofName? (s : String) : Option Axis :=
  [x, y].find? (·.name == s)

/-- The space a least-squares fit is computed in. -/
inductive Space where
  /-- `y` against `x`. -/
  | linear
  /-- `ln y` against `ln x`: power laws. -/
  | logLog
  /-- `y` against `ln x`: logarithmic growth. -/
  | semiLogX
  deriving DecidableEq, Repr, Inhabited

namespace Space

/-- All spaces, in the order of the help text. -/
def all : List Space :=
  [linear, logLog, semiLogX]

/-- The name of the space, on the command line and in tables. -/
def name : Space → String
  | linear => "linear"
  | logLog => "log-log"
  | semiLogX => "semi-log-x"

/-- Whether the space takes the logarithm of `x`. -/
def logsX : Space → Bool
  | linear => false
  | logLog | semiLogX => true

/-- Whether the space takes the logarithm of `y`. -/
def logsY : Space → Bool
  | linear | semiLogX => false
  | logLog => true

/-- The space of that name. -/
def ofName? (s : String) : Option Space :=
  all.find? (·.name == s)

end Space

end Trendline
