import Trendline.CommandLine.Command
import Trendline.Text.Column

/-!
# Help

The commands and their arguments, as the user sees them.
-/

namespace Trendline.CommandLine

/-- The name and the version of the program. -/
def versionText : String :=
  "sizes 0.1.0\n"

/-- The line about an argument. -/
def Argument.helpLine {σ : Type} (a : Argument σ) : String :=
  "    " ++ Text.padEnd 34 ' ' a.shown ++ a.purpose ++ "\n"

/-- The lines about a command. -/
def Grammar.helpLines {σ : Type} (g : Grammar σ) (name purpose : String) : String :=
  "  " ++ Text.padEnd 8 ' ' name ++ purpose ++ "\n" ++
    String.join ((g.positional ++ g.options).map Argument.helpLine)

/-- The help. -/
def helpText : String :=
  "Fit and plot serialized-size benchmark curves\n\n" ++
    "Usage: sizes [OPTIONS] <COMMAND>\n\nOptions:\n" ++
    String.join (topGrammar.options.map Argument.helpLine) ++ "\nCommands:\n" ++
    fitGrammar.helpLines "fit" "Fit a curve to two columns of a table" ++
    plotGrammar.helpLines "plot" "Build one of the figures, print its fits and plot it" ++
    viewGrammar.helpLines "tui" "Show the figures in the terminal" ++
    sampleGrammar.helpLines "sample" "Write synthetic tables"

end Trendline.CommandLine
