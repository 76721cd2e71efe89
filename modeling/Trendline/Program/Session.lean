import Trendline.Chart.Drawing
import Trendline.Failure
import Trendline.Figure.Basic
import Trendline.Files.Tree
import Trendline.Log.Note

/-!
# Sessions

A command runs in a session, which has a working directory, what was printed
and what was noted.  A failure ends the command, and so does an overflow; what was
done before is kept.
-/

namespace Trendline

/-- What a command has done so far. -/
structure Transcript where
  files : FileTree
  /-- What was printed. -/
  output : String := ""
  notes : List Note := []

/-- A computation in a session. -/
abbrev Session :=
  ExceptT (Stop Failure) (StateM Transcript)

namespace Session

variable {α : Type}

/-- Prints a text. -/
def print (s : String) : Session Unit :=
  modify fun t => { t with output := t.output ++ s }

/-- Takes a note. -/
def note (n : Note) : Session Unit :=
  modify fun t => { t with notes := t.notes ++ [n] }

/-- Goes on with a result, if there is one. -/
def ofExcept : Except (Stop Failure) α → Session α
  | .ok a => pure a
  | .error stop => throw stop

/-- Runs a computation on the files and takes its notes. -/
def ofNoted (m : FileTree → Noted (Stop Failure) α) : Session α := do
  let m := m (← get).files
  modify fun t => { t with notes := t.notes ++ m.notes }
  ofExcept m.result

/-- Changes the files. -/
def change (f : FileTree → Except Failure FileTree) : Session Unit := do
  let files ← ofExcept ((f (← get).files).mapError .refused)
  modify fun t => { t with files }

end Session

/-! ## Saving -/

/-- A name in quotes, as messages about files have it. -/
def fileName (kind path : String) : String :=
  kind ++ "'" ++ path ++ "'"

/-- Saves a text. -/
def FileTree.saveText (t : FileTree) (kind path text : String) : Except Failure FileTree :=
  (t.write path (.bytes text.toUTF8.toList)).mapError fun e => .writing (fileName kind path) e.message

/-- The size of a saved drawing. -/
def drawingSize : Nat × Nat :=
  (960, 640)

/-- Saves a figure as a drawing. -/
def FileTree.saveDrawing (t : FileTree) (f : Figure Float) (path : String) :
    Except Failure FileTree :=
  let drawing := Chart.drawing f drawingSize.1 drawingSize.2
  (t.write path (.drawing drawing)).mapError fun e =>
    .writing (fileName "SVG " path) ("backend error: Drawing backend error: " ++ e.message)

/-- The note about a saved figure. -/
def Figure.savedNote (f : Figure Float) (path : String) : Note :=
  let name := f.kind.displayName
  ⟨.info, "size_curves::plot::svg", s!"wrote {name} to {path}"⟩

end Trendline
