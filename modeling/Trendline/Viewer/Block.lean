import Trendline.Text.Grid
import Trendline.Text.Width
import Trendline.Viewer.Area

/-!
# Blocks

What is drawn into an area of the screen: a border with a title, and lines of
text.  Text is cut at the edge of its area and never wrapped.  A wide character
is written into the first of its cells; what the others hold is not seen.
-/

namespace Trendline.Viewer

open Text (Cell Grid)

/-- The cells of a terminal. -/
abbrev Screen :=
  Grid Cell

/-- The characters of a row with corners. -/
def rowChars (left middle right : Char) (width : Nat) : List Char :=
  match width with
  | 0 => []
  | 1 => [left]
  | n + 2 => left :: List.replicate n middle ++ [right]

/-- Writes characters of one cell each from a cell on to the right. -/
def putLine (x y : Nat) (cs : List Char) (g : Screen) : Screen :=
  match cs with
  | [] => g
  | c :: rest => putLine (x + 1) y rest (g.put [c] x y)

/-- Writes a line of text into a row of an area; line feeds are not shown. -/
def writeLine (a : Area) (row : Nat) (cs : List Char) (g : Screen) : Screen :=
  if row < a.height.toNat then
    (Cell.place a.width.toNat 0 (Cell.ofText (cs.filter (· != '\n')))).foldl
      (fun g (c, x) => g.put c (a.x.toNat + x) (a.y.toNat + row)) g
  else g

/-- Writes lines of text into an area. -/
def writeLines (a : Area) (lines : List String) (g : Screen) : Screen :=
  lines.zipIdx.foldl (fun g (s, row) => writeLine a row s.toList g) g

/-- Draws the left and the right side of a border in a row. -/
def drawSides (a : Area) (row : Nat) (g : Screen) : Screen :=
  let y := a.y.toNat + row
  (g.put ['│'] a.x.toNat y).put ['│'] (a.right - 1) y

/-- Draws a border. -/
def drawBorder (a : Area) (g : Screen) : Screen :=
  if a.isEmpty then g
  else
    let width := a.width.toNat
    let last := a.height.toNat - 1
    let g := (List.range last).foldl (fun g row => drawSides a row g) g
    let g := writeLine a last (rowChars '└' '─' '┘' width) g
    writeLine a 0 (rowChars '┌' '─' '┐' width) g

/-- Draws a border with a title, which leaves the corners free. -/
def drawBlock (a : Area) (title : String) (g : Screen) : Screen :=
  let titleArea : Area := { a with x := a.x + min 1 a.width, width := monus a.width 2 }
  writeLine titleArea 0 title.toList (drawBorder a g)

end Trendline.Viewer
