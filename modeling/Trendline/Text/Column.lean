/-!
# Columns of text

Tables are laid out in columns of a least width, counted in characters.  A
text that is too long keeps its length; where that must not be, `shorten` cuts
it and ends it with a point.
-/

namespace Trendline.Text

/-- The text followed by enough of a filling to reach a width. -/
def padEnd (width : Nat) (filling : Char) (s : String) : String :=
  s ++ String.ofList (List.replicate (width - s.length) filling)

/-- The text preceded by enough blanks to reach a width. -/
def padStart (width : Nat) (s : String) : String :=
  String.ofList (List.replicate (width - s.length) ' ') ++ s

/-- The text if it is no longer than `width`, and else its beginning and a point. -/
def shorten (width : Nat) (s : String) : String :=
  if s.length ≤ width then s else String.ofList (s.toList.take (width - 1)) ++ "."

/-- The lines of a text.  A line feed ends a line, also with a carriage return before it. -/
def lines (s : String) : List String :=
  let pieces := s.toList.splitOn '\n'
  let ended := pieces.dropLast.map fun cs =>
    if cs.getLast? = some '\r' then cs.dropLast else cs
  let last := pieces.getLast?.toList.filter (!·.isEmpty)
  (ended ++ last).map String.ofList

end Trendline.Text
