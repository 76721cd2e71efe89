import Trendline.Csv.Writer
import Trendline.Failure

/-!
# Tables to be written

A table under the name of its file.
-/

namespace Trendline.Csv

/-- A header, the records below it, and the file they go to. -/
structure Table where
  fileName : String
  headers : List String
  rows : List (List String)
  deriving DecidableEq, Repr

/-- The text of the table; its records have to be as long as its header. -/
def Table.text (t : Table) : Except Failure String :=
  (write t.headers t.rows).mapError fun m => .writing t.fileName m.message

end Trendline.Csv
