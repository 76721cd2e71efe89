import Trendline.CommandLine.Grammar
import Trendline.Decimal.Reader
import Trendline.Decimal.Whole
import Trendline.FitRequest
import Trendline.Figure.Kind
import Trendline.Sample.Tables

/-!
# Commands

The four commands and their arguments.  The directory of the data may be given
before the name of the command or among its arguments, where it counts more.

Without a command the viewer is meant: `withDefault` puts its name in front of
the words.  It looks at the words as such, so a directory that is called like a
command is taken for one.
-/

namespace Trendline.CommandLine

/-- Which figure to build, and where to show it. -/
structure PlotCommand where
  kind : FigureKind
  groups : List Value := []
  window : Option Value := none
  svgPath : Option String := none
  width : Nat := 100
  height : Nat := 25
  /-- Whether the picture in characters is left out. -/
  noPicture : Bool := false

/-- What to fit, and where the fits go. -/
structure FitCommand where
  request : FitRequest
  exportPath : Option String := none
  json : Bool := false

/-- What the viewer overlays. -/
structure ViewCommand where
  groups : List Value := []

/-- What to generate, and where the tables go. -/
structure SampleCommand where
  out : Option String := none
  settings : Sample.Settings := {}

/-- A command with its arguments. -/
inductive Command where
  | fit (c : FitCommand)
  | plot (c : PlotCommand)
  | tui (c : ViewCommand)
  | sample (c : SampleCommand)

/-- A command line that was understood. -/
structure Invocation where
  dataDir : Option String
  command : Command

/-! ## Values -/

/-- A degree, which is at least one; blanks around it do not matter. -/
def readDegree (s : String) : Except String UInt64 :=
  match Decimal.readWord (Text.trim s).toList with
  | .error fault =>
    let reason := fault.message
    .error s!"invalid degree '{s}': {reason}"
  | .ok degree => if degree = 0 then .error "degree must be at least 1" else .ok degree

/-- A value of a column, which is not blank. -/
def readCell (s : String) : Except String Value :=
  if Text.isAllBlank s then .error "empty value" else .ok (.parse s)

/-- A word. -/
def readWord (s : String) : Except String UInt64 :=
  (Decimal.readWord s.toList).mapError Decimal.WordFault.message

/-- A count. -/
def readCount (s : String) : Except String Nat :=
  (readWord s).map UInt64.toNat

/-- A number. -/
def readNumber (s : String) : Except String Float :=
  match Decimal.read? s.toList with
  | some x => .ok x
  | none =>
    .error (if s.isEmpty then "cannot parse float from empty string" else "invalid float literal")

/-- A condition on rows. -/
def readPredicate (s : String) : Except String Predicate :=
  (Predicate.parse s).mapError Predicate.Fault.message

open ValueReader

/-- The argument that names groups. -/
def groupsArgument {σ : Type} (purpose : String) (add : List Value → σ → σ) : Argument σ :=
  .many "groups" "<V,...>" purpose (separated (reasoned readCell)) add

/-! ## Grammars -/

/-- The directory of the data. -/
def dataDirArgument : Argument (Option String) :=
  .once "data-dir" "<DIR>" "Directory holding the tables" path fun dir _ => some dir

/-- A grammar with the directory of the data among its options. -/
def Grammar.withDataDir {σ : Type} (g : Grammar σ) : Grammar (Option String × σ) :=
  { options := dataDirArgument.within (·.1) (fun dir p => (dir, p.2)) ::
      g.options.map (·.within (·.2) fun s p => (p.1, s))
    positional := g.positional.map (·.within (·.2) fun s p => (p.1, s))
    required := g.required
    needs := g.needs
    commands := g.commands
    hasVersion := g.hasVersion }

/-- The words before the name of a command. -/
def topGrammar : Grammar (Option String) :=
  { options := [dataDirArgument]
    commands := ["fit", "plot", "tui", "sample", "help"]
    hasVersion := true }

/-- The arguments of a fit. -/
def fitGrammar : Grammar FitCommand :=
  { options := [
      .once "file" "<CSV>" "Table; looked up in the data directory when not found as given" path
        fun v c => { c with request := { c.request with file := v } },
      .once "x" "<COL>" "Column used as x" text
        fun v c => { c with request := { c.request with x := v } },
      .once "y" "<COL>" "Column used as y" text
        fun v c => { c with request := { c.request with y := v } },
      .many "where" "<PRED>" "Rows to keep, COL=VALUE or COL==OTHER (repeatable)"
        (reasoned readPredicate)
        fun v c => { c with
          request := { c.request with predicates := c.request.predicates ++ [v] } },
      .once "group-by" "<COL>" "One series for each value of this column" text
        fun v c => { c with request := { c.request with groupBy := some v } },
      groupsArgument "Groups for --group-by; every value when omitted"
        fun v c => { c with request := { c.request with groups := c.request.groups ++ v } },
      .once "space" "<SPACE>" "Space of the fit: linear, log-log or semi-log-x"
        (choice Space.ofName?)
        fun v c => { c with request := { c.request with space := v } },
      .once "degree" "<DEGREE>" "Degree of the polynomial, at least 1" (reasoned readDegree)
        fun v c => { c with request := { c.request with degree := v } },
      .once "export" "<CSV>" "Export the fits as a table" path
        fun v c => { c with exportPath := some v },
      .flag "json" "Print the fits as a document" fun c => { c with json := true }]
    required := ["file", "x", "y"]
    needs := [("groups", "group-by")] }

/-- The arguments of a plot. -/
def plotGrammar : Grammar PlotCommand :=
  { options := [
      groupsArgument "Groups of the history trees" fun v c => { c with groups := c.groups ++ v },
      .once "window" "<W>" "Sorting window of the query proofs" (reasoned readCell)
        fun v c => { c with window := some v },
      .once "svg" "<SVG>" "Also write the figure as a drawing" path
        fun v c => { c with svgPath := some v },
      .once "width" "<WIDTH>" "Columns of the picture" (reasoned readCount)
        fun v c => { c with width := v },
      .once "height" "<HEIGHT>" "Rows of the picture" (reasoned readCount)
        fun v c => { c with height := v },
      .flag "no-ascii" "Leave the picture out" fun c => { c with noPicture := true }]
    positional := [
      .place "<FIGURE>" "Figure to build" (choice FigureKind.ofName?)
        fun v c => { c with kind := v }] }

/-- The arguments of the viewer. -/
def viewGrammar : Grammar ViewCommand :=
  { options := [
      groupsArgument "Groups of the history trees" fun v c => { c with groups := c.groups ++ v }] }

/-- The arguments of a sample. -/
def sampleGrammar : Grammar SampleCommand :=
  { options := [
      .once "out" "<DIR>" "Directory for the tables; the data directory when omitted" path
        fun v c => { c with out := some v },
      .once "seed" "<SEED>" "Seed of the noise" (reasoned readWord)
        fun v c => { c with settings := { c.settings with seed := v } },
      .once "records" "<RECORDS>" "Largest number of records" (reasoned readWord)
        fun v c => { c with settings := { c.settings with maxRecords := v } },
      .once "attributes" "<ATTRIBUTES>" "Largest number of attributes" (reasoned readWord)
        fun v c => { c with settings := { c.settings with maxAttributes := v } },
      .once "query-records" "<QUERY_RECORDS>" "Records behind a query proof" (reasoned readWord)
        fun v c => { c with settings := { c.settings with queryRecords := v } },
      .once "noise" "<NOISE>" "Relative noise of the sizes" (reasoned readNumber)
        fun v c => { c with settings := { c.settings with noise := v } }] }

/-- Reads the words after `help`, which may name a command. -/
def readHelp : List String → Ending
  | [] => .help
  | word :: rest =>
    if topGrammar.commands.contains word then
      match rest with
      | [] => .help
      | next :: _ => .misuse (.unknownCommand next)
    else .misuse (.unknownCommand word)

/-- Reads the words after the name of a command. -/
def readCommand (name : String) (words : List String) :
    Except Ending (Option String × Command) := do
  match name with
  | "fit" => do
    let request : FitRequest := { file := "", x := "", y := "" }
    return (← fitGrammar.withDataDir.read (none, { request }) words).map id .fit
  | "plot" => do
    return (← plotGrammar.withDataDir.read (none, { kind := default }) words).map id .plot
  | "tui" => do
    return (← viewGrammar.withDataDir.read (none, {}) words).map id .tui
  | "sample" => do
    return (← sampleGrammar.withDataDir.read (none, {}) words).map id .sample
  | _ => .error (readHelp words)

/-- Reads a command line, without the name of the program. -/
def Invocation.read (words : List String) : Except Ending Invocation := do
  match ← topGrammar.readWords (topGrammar.start none) words with
  | (top, none) => do
    let top ← top.settle
    .error (if top.given.isEmpty then .nothing else .misuse .missingCommand)
  | (top, some (name, rest)) => do
    let (dataDir, command) ← readCommand name rest
    let top ← top.settle
    return { dataDir := dataDir <|> top.settings, command }

/-! ## The default command -/

/-- The first words that ask about the program as a whole. -/
def questions : List String :=
  ["-h", "--help", "-V", "--version", "help"]

/-- The names of commands. -/
def commandNames : List String :=
  ["fit", "plot", "tui", "sample"]

/-- Puts the name of the viewer in front of words that name no command and begin with an option. -/
def withDefault : List String → List String
  | [] => ["tui"]
  | first :: rest =>
    if first ∈ questions then first :: rest
    else if (first :: rest).any fun word => commandNames.contains word then first :: rest
    else if first.toList.head? = some '-' then "tui" :: first :: rest
    else first :: rest

end Trendline.CommandLine
