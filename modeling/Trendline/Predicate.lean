import Trendline.Value

/-!
# Row predicates

A predicate compares a column with a value, `COL=VALUE`, or with another
column, `COL==OTHER_COL`.  The first `==` of a text decides that it is of the
second form; only a text without one is cut at its first `=`.
-/

namespace Trendline

/-- A condition on the cells of a row. -/
inductive Predicate where
  /-- The cell of `column` agrees with `value`. -/
  | equals (column : String) (value : Value)
  /-- The cells of the two columns agree. -/
  | columnsEqual (left right : String)
  deriving Inhabited

namespace Predicate

/-- Equal columns and equal values. -/
instance : BEq Predicate where
  beq
    | equals c v, equals d w => c == d && v == w
    | columnsEqual l r, columnsEqual m s => l == m && r == s
    | _, _ => false

/-- Why a text is no predicate. -/
inductive Fault where
  /-- There is a `==` with nothing on one of its sides. -/
  | missingColumn (source : String)
  /-- There is no `=`. -/
  | missingValue (source : String)
  /-- There is nothing before the `=`. -/
  | emptyColumn (source : String)
  deriving DecidableEq, Repr

/-- What the user is told. -/
def Fault.message : Fault → String
  | missingColumn source => s!"Invalid predicate '{source}': expected COL==OTHER_COL"
  | missingValue source => s!"Invalid predicate '{source}': expected COL=VALUE"
  | emptyColumn source => s!"Invalid predicate '{source}': empty column name"

/-- The columns the predicate reads, in its own order. -/
def columns : Predicate → List String
  | equals column _ => [column]
  | columnsEqual left right => [left, right]

/-- The predicate in the form it is written in. -/
def display : Predicate → String
  | equals column value => column ++ "=" ++ value.display
  | columnsEqual left right => left ++ "==" ++ right

/-- The text between two cuts, without the blanks around it. -/
def piece (cs : List Char) : String :=
  Text.trim (String.ofList cs)

/-- The predicate that a text denotes. -/
def parse (source : String) : Except Fault Predicate :=
  match Text.splitOnce ['=', '='] source.toList with
  | some (left, right) =>
    if piece left = "" ∨ piece right = "" then .error (.missingColumn source)
    else .ok (columnsEqual (piece left) (piece right))
  | none =>
    match Text.splitOnce ['='] source.toList with
    | none => .error (.missingValue source)
    | some (column, value) =>
      if piece column = "" then .error (.emptyColumn source)
      else .ok (equals (piece column) (Value.parse (String.ofList value)))

end Predicate

end Trendline
