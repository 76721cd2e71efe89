import Trendline.Program.Run

/-!
# What a run uses

The paths that a run of the program may read or write, known before it is run.
Whoever runs the program on a real file system looks at these and no others.
-/

namespace Trendline

open CommandLine

/-- The tables that figures are built from. -/
def figureTables : List String :=
  ["record_aggregation_size.csv", "record_and_record_aggregation_size.csv",
    "full_history_tree_size.csv", "pruned_history_tree_size.csv", "query_proof_size.csv",
    "query_proof_unsorted_size.csv"]

/-- The paths of the tables in a directory. -/
def tablePaths (dir : String) : List String :=
  figureTables.map (Path.join dir)

/-- The drawings that the viewer saves. -/
def savedDrawings : List String :=
  FigureKind.all.map fun kind => kind.slug ++ ".svg"

/-- The paths that a command may use. -/
def CommandLine.Command.uses (dataDir : String) : Command → List String
  | .fit c =>
    [c.request.file, Path.join dataDir c.request.file] ++ c.exportPath.toList
  | .plot c => tablePaths dataDir ++ c.svgPath.toList
  | .tui _ => tablePaths dataDir ++ savedDrawings
  | .sample c => tablePaths (c.out.getD dataDir)

/-- The file that adds to the environment. -/
def environmentFile : String :=
  ".env"

/-- The paths that a command line may use, once the environment file is known. -/
def uses (files : FileTree) (env : Environment) (words : List String) : List String :=
  match Invocation.read (withDefault words) with
  | .error _ => []
  | .ok i =>
    i.command.uses (dataDirectory i.dataDir ((env.withFile files).get? dataDirVariable))

end Trendline
