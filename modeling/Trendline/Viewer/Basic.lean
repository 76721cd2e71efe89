import Trendline.Figure.Catalogue
import Trendline.Program.Session

/-!
# The viewer

The viewer has a list of all figures, one of which is selected, and a status
line.  Figures are built when the viewer starts and whenever the user wants
them built again.  A figure that could not be built stays in the list, with the
reason in its place.
-/

namespace Trendline

/-- What the viewer shows. -/
structure Viewer where
  settings : FigureSettings
  entries : List CatalogueEntry := []
  /-- The place of the selected figure in the list. -/
  selected : Nat := 0
  status : String := ""

namespace Viewer

/-- A key, as far as the viewer tells keys apart. -/
inductive KeyCode where
  | char (c : Char)
  | esc
  | up
  | down
  /-- Any other key. -/
  | other
  deriving DecidableEq, Repr

/-- The status after the figures were built. -/
def loadedStatus (dataDir : String) (entries : List CatalogueEntry) : String :=
  let total := entries.length
  let failed := (entries.filter fun e => !e.figure.isOk).length
  if failed = 0 then s!"Loaded {total} figures from {dataDir}"
  else s!"{failed} of {total} figures failed to load from {dataDir}"

/-- Builds all figures again. -/
def reload (v : Viewer) (t : Transcript) : Viewer × Transcript :=
  let entries := buildAll t.files v.settings
  ({ v with entries, status := loadedStatus v.settings.dataDir entries },
    { t with notes := t.notes ++ entries.flatMap (·.notes) })

/-- The viewer as it starts. -/
def start (settings : FigureSettings) (t : Transcript) : Viewer × Transcript :=
  reload { settings } t

/-- The selected figure. -/
def current? (v : Viewer) : Option CatalogueEntry :=
  v.entries[v.selected]?

/-- Saves a figure under its own name, and reports on it. -/
def saveCurrent (kind : FigureKind) (f : Figure Float) (v : Viewer) (t : Transcript) :
    Viewer × Transcript :=
  let path := kind.slug ++ ".svg"
  match t.files.saveDrawing f path with
  | .ok files =>
    ({ v with status := "Wrote " ++ path }, { t with files, notes := t.notes ++ [f.savedNote path] })
  | .error e => ({ v with status := "SVG export failed: " ++ e.message }, t)

/-- Saves the selected figure, if it was built. -/
def save (v : Viewer) (t : Transcript) : Viewer × Transcript :=
  match v.current? with
  | none => (v, t)
  | some entry =>
    match entry.figure with
    | .ok f => v.saveCurrent entry.kind f t
    | .error _ => ({ v with status := entry.kind.displayName ++ " has no data to save." }, t)

/-- What a key does; there is no result when the viewer ends. -/
def press (v : Viewer) (t : Transcript) : KeyCode → Option (Viewer × Transcript)
  | .char 'q' | .esc => none
  | .up => some (if 0 < v.selected then { v with selected := v.selected - 1 } else v, t)
  | .down =>
    some (if v.selected + 1 < v.entries.length then { v with selected := v.selected + 1 } else v, t)
  | .char 'r' => some (v.reload t)
  | .char 's' => some (v.save t)
  | _ => some (v, t)

/-- What the terminal reports. -/
inductive Event where
  | key (k : KeyCode)
  | resize (width height : UInt16)
  /-- Something that changes nothing on the screen. -/
  | focus
  deriving DecidableEq, Repr

end Viewer

/-- A viewer on a terminal of a size. -/
structure Stage where
  viewer : Viewer
  transcript : Transcript
  width : UInt16
  height : UInt16

namespace Stage

/-- The viewer as it starts on a terminal. -/
def start (settings : FigureSettings) (t : Transcript) (width height : UInt16) : Stage :=
  let (viewer, transcript) := Viewer.start settings t
  { viewer, transcript, width, height }

/-- What an event does, and whether the screen is drawn again; there is no result at the end. -/
def handle (s : Stage) : Viewer.Event → Option (Stage × Bool)
  | .key k => (s.viewer.press s.transcript k).map fun (viewer, transcript) =>
    ({ s with viewer, transcript }, true)
  | .resize width height => some ({ s with width, height }, true)
  | .focus => some (s, false)

end Stage

end Trendline
