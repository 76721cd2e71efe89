import Trendline.Log.Filter
import Trendline.Program.Uses
import Trendline.Viewer.Screen

/-!
# The program

The outer layer.  It looks at the files that a run may use, runs the program on
them as a value, and carries out what has changed.  The viewer is run event by
event; the terminal is expected to hand over keys as they are pressed.
-/

namespace Trendline.Main

/-- What there is at a path: a file, a directory, or nothing. -/
def look (path : String) : IO (Option (Option Content)) := do
  try
    return some (some (.bytes (← IO.FS.readBinFile path).toList))
  catch
    | .inappropriateType .. => return some none
    | _ => return none

/-- Adds what there is at a path and at those that lead to it. -/
def load (t : FileTree) (path : String) : IO FileTree :=
  (Path.leadingTo [] path.toList).foldlM (fun t path => do
    match ← look path with
    | some content => return t.found path content
    | none => return t) t

/-- Carries out what has changed. -/
def store (t before : FileTree) : IO Unit := do
  for path in t.madeSince before do
    IO.FS.createDirAll path
  for (path, content) in t.changedSince before do
    IO.FS.writeBinFile path ⟨content.toBytes.toArray⟩

/-- The variables that are looked at, where an environment file may refer to the last ones. -/
def variableNames : List String :=
  [dataDirVariable, "HOME", "PWD", "USER"]

/-- The environment of the program. -/
def environment : IO Environment := do
  let mut bindings := []
  for name in variableNames do
    if let some value ← IO.getEnv name then
      bindings := bindings ++ [(name, value)]
  return ⟨bindings⟩

/-- Writes notes to the log. -/
def log (filter : LogFilter) (notes : List Note) : IO Unit := do
  for entry in filter.entries notes do
    IO.eprint entry

/-- Shows the screen of a viewer. -/
def draw (s : Stage) : IO Unit := do
  IO.print ("\x1b[2J\x1b[H" ++ String.intercalate "\r\n" s.lines)
  (← IO.getStdout).flush

/-- The key of the last character of a sequence. -/
def keyOfSequence (c : Char) : Viewer.KeyCode :=
  if c = 'A' then .up else if c = 'B' then .down else .other

/-- The key of a single character; what is pressed with the control key counts as the letter. -/
def keyOfChar (c : Char) : Viewer.KeyCode :=
  if c.toNat < 27 then .char (Char.ofNat (c.toNat + 96)) else .char c

/--
The keys behind what a terminal sends at once.  A sequence begins with the escape character, which
alone is a key of its own and before any other character says nothing.  Line ends are no keys.
-/
def keysOf : List Char → List Viewer.KeyCode
  | [] => []
  | ['\x1b'] => [.esc]
  | '\x1b' :: '[' :: c :: rest => keyOfSequence c :: keysOf rest
  | '\x1b' :: 'O' :: c :: rest => keyOfSequence c :: keysOf rest
  | '\x1b' :: c :: rest => (if c = '\x1b' then .esc else keyOfChar c) :: keysOf rest
  | c :: rest => if c = '\n' ∨ c = '\r' then keysOf rest else keyOfChar c :: keysOf rest

/-- Handles the keys that were pressed. -/
def press (filter : LogFilter) (s : Stage) : List Viewer.KeyCode → IO (Option Stage)
  | [] => return some s
  | key :: rest => do
    match s.handle (.key key) with
    | none => return none
    | some (next, _) =>
      store next.transcript.files s.transcript.files
      log filter (next.transcript.notes.drop s.transcript.notes.length)
      press filter next rest

/-- Runs the viewer until it ends. -/
partial def view (filter : LogFilter) (s : Stage) : IO Unit := do
  draw s
  let bytes ← (← IO.getStdin).read 64
  if bytes.isEmpty then return
  match ← press filter s (keysOf (bytes.toList.map fun b => Char.ofNat b.toNat)) with
  | some next =>
    let files ← (uses {} {} ["--data-dir", next.viewer.settings.dataDir]).foldlM load {}
    view filter { next with transcript := { next.transcript with files } }
  | none => return

/-- A size that the environment may tell. -/
def sizeOr (name : String) (usual : UInt16) : IO UInt16 := do
  match (← IO.getEnv name).bind String.toNat? with
  | some n => return n.toUInt16
  | none => return usual

/-- The variable that holds the filter of the log. -/
def logVariable : String :=
  "RUST_LOG"

/-- Runs the program and returns its exit code. -/
def run (words : List String) : IO UInt32 := do
  let (filter, warnings) := LogFilter.read ((← IO.getEnv logVariable).getD "warn")
  for warning in warnings do
    IO.eprintln ("warning: " ++ warning ++ ", ignoring it")
  let env ← environment
  let files ← load {} environmentFile
  let files ← (uses files env words).foldlM load files
  match launch files env words with
  | .finished o =>
    store o.transcript.files files
    log filter o.transcript.notes
    IO.print o.transcript.output
    IO.eprint o.complaint
    return o.exitCode.toUInt32
  | .viewer settings t =>
    log filter t.notes
    view filter (Stage.start settings t (← sizeOr "COLUMNS" 80) (← sizeOr "LINES" 24))
    return 0

end Trendline.Main

/-- The entry of the program. -/
def main (words : List String) : IO UInt32 :=
  Trendline.Main.run words
