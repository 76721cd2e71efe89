import Trendline.Dataset.Csv
import Trendline.Files.Tree
import Trendline.Log.Note

/-!
# Loading a dataset from a file
-/

namespace Trendline.Dataset

/-- The dataset of a file; its path names it in messages. -/
def ofFile (files : FileTree) (path : String) : Except DataError Dataset :=
  match files.read path with
  | .error .notFound => .error (.fileNotFound path)
  | .error e => .error (.unreadable path (.path e))
  | .ok content => ofBytes path content.toBytes

/-- The note about a dataset that was loaded. -/
def loadNote (d : Dataset) (path : String) : Note :=
  let rows := d.size
  let columns := d.columns.length
  ⟨.info, "size_curves::io::ingest", s!"loaded {rows} rows x {columns} columns from '{path}'"⟩

/-- The dataset of a file, with a note. -/
def load (files : FileTree) (path : String) : Noted DataError Dataset := do
  let d ← .ofExcept (ofFile files path)
  .note (d.loadNote path)
  return d

end Trendline.Dataset
