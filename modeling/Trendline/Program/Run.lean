import Trendline.CommandLine.Help
import Trendline.Environment.File
import Trendline.Program.Commands

/-!
# Running the program

From the words of the command line, the environment and the files to what the
program prints, how it ends, and the files it leaves.  Only the viewer goes on
from there.

The directory of the data is named on the command line, or else in the
environment, or else it is the usual one.  An environment file in the working
directory adds to the environment first.
-/

namespace Trendline

open CommandLine

/-- The variable that names the directory of the data. -/
def dataDirVariable : String :=
  "SIZE_CURVES_DATA_DIR"

/-- The directory of the data if none is named. -/
def usualDataDir : String :=
  "analysis/benchmarking"

/-- The directory of the data; a blank variable names none. -/
def dataDirectory (named inEnvironment : Option String) : String :=
  (named <|> inEnvironment.filter (!Text.isAllBlank ·)).getD usualDataDir

/-- The environment with what the file in the working directory adds. -/
def Environment.withFile (env : Environment) (files : FileTree) : Environment :=
  match files.read ".env" with
  | .ok content => env.offerFile content.toBytes
  | .error _ => env

/-- How a run of the program ends. -/
structure Outcome where
  exitCode : Nat
  /-- What is told to the user about a failure. -/
  complaint : String := ""
  transcript : Transcript

/-- What the words of the command line come to. -/
inductive Launch where
  | finished (o : Outcome)
  /-- The viewer takes over. -/
  | viewer (s : FigureSettings) (t : Transcript)

/-- The exit code of a command line that is refused. -/
def misuseCode : Nat :=
  2

/-- The outcome when no command is run. -/
def Outcome.ofEnding (files : FileTree) : Ending → Outcome
  | .help => { exitCode := 0, transcript := { files, output := helpText } }
  | .version => { exitCode := 0, transcript := { files, output := versionText } }
  | .nothing => { exitCode := misuseCode, complaint := helpText, transcript := { files } }
  | .misuse m =>
    { exitCode := misuseCode
      complaint := "error: " ++ m.message ++ "\n\nFor more information, try '--help'.\n"
      transcript := { files } }

/-- The note about a failure. -/
def Failure.exitNote (f : Failure) : Note :=
  ⟨.debug, "sizes", "exiting with " ++ f.debugText⟩

/-- The exit code of a program that an overflow has stopped. -/
def overflowCode : Nat :=
  101

/-- Runs a session to its end.  On an overflow the program has no words of its own. -/
def Outcome.ofSession (s : Session Unit) (t : Transcript) : Outcome :=
  match s.run.run t with
  | (.ok (), t) => { exitCode := 0, transcript := t }
  | (.error (.refused f), t) =>
    { exitCode := f.exitCode
      complaint := f.message ++ "\n"
      transcript := { t with notes := t.notes ++ [f.exitNote] } }
  | (.error .overflow, t) => { exitCode := overflowCode, transcript := t }

/-- The note about the directory of the data. -/
def dataDirNote (dataDir : String) : Note :=
  ⟨.debug, "size_curves::app", "data directory: " ++ dataDir⟩

/-- Runs a command. -/
def runCommand (t : Transcript) (dataDir : String) : Command → Launch
  | .fit c => .finished (.ofSession (c.run dataDir) t)
  | .plot c => .finished (.ofSession (c.run dataDir) t)
  | .sample c => .finished (.ofSession (c.run dataDir) t)
  | .tui c => .viewer (figureSettings dataDir c.groups none) t

/-- Runs the program. -/
def launch (files : FileTree) (env : Environment) (words : List String) : Launch :=
  match Invocation.read (withDefault words) with
  | .error ending => .finished (.ofEnding files ending)
  | .ok i =>
    let dataDir := dataDirectory i.dataDir ((env.withFile files).get? dataDirVariable)
    runCommand { files, notes := [dataDirNote dataDir] } dataDir i.command

end Trendline
