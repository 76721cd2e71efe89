import Trendline.CommandLine.Misuse

/-!
# Grammars of command lines

A grammar tells which arguments there are, and what the value of each does to a
record `σ` of settings.  Words are read from the left.  A word with two dashes
names an option, whose value follows after an equals sign or as the next word.
Other words go to the positional arguments in turn.  After the word `--` all
words do, whatever they look like.

The value of an argument is kept aside until the next known argument or the end
is reached, and only then looked at.  So of a bad value and an unknown argument
right after it, the unknown argument is reported.
-/

namespace Trendline.CommandLine

/-- How often an argument may be given, and with what. -/
inductive Arity where
  /-- Once, without a value. -/
  | flag
  /-- Once, with a value. -/
  | once
  /-- Any number of times, with a value each time. -/
  | many
  deriving DecidableEq, Repr

/-- An argument that sets something in a record. -/
structure Argument (σ : Type) where
  /-- The name after the two dashes; a positional argument has none. -/
  name : String
  /-- What stands for the value in messages; a flag has none. -/
  placeholder : String
  arity : Arity
  /-- What the argument is for. -/
  purpose : String
  /-- Puts a value into the record; a flag has the empty one. -/
  store : String → σ → Except ValueFault σ

namespace Argument

variable {σ τ : Type}

/-- The argument as messages show it. -/
def shown (a : Argument σ) : String :=
  if a.name.isEmpty then a.placeholder
  else if a.placeholder.isEmpty then "--" ++ a.name
  else "--" ++ a.name ++ " " ++ a.placeholder

/-- The same argument where the record is part of another one. -/
def within (get : τ → σ) (set : σ → τ → τ) (a : Argument σ) : Argument τ :=
  { name := a.name
    placeholder := a.placeholder
    arity := a.arity
    purpose := a.purpose
    store := fun value t => (a.store value (get t)).map fun s => set s t }

end Argument

/-- The arguments of a command. -/
structure Grammar (σ : Type) where
  options : List (Argument σ)
  positional : List (Argument σ) := []
  /-- The names of options that have to be given. -/
  required : List String := []
  /-- Pairs of options of which the first needs the second. -/
  needs : List (String × String) := []
  /-- Words that end the arguments and name a command. -/
  commands : List String := []
  /-- Whether the version can be asked for. -/
  hasVersion : Bool := false

/-- A word of the command line by its form. -/
inductive Word where
  /-- The word `--`. -/
  | separator
  /-- Two dashes and a name, perhaps with a value after an equals sign. -/
  | long (name : String) (value : Option String)
  /-- One dash and a letter, perhaps with more after it. -/
  | short (letter : Char)
  | plain (text : String)
  deriving DecidableEq, Repr

/-- The form of a word. -/
def Word.ofString (s : String) : Word :=
  match s.toList with
  | ['-', '-'] => .separator
  | '-' :: '-' :: rest =>
    let name := String.ofList (rest.takeWhile (· != '='))
    match rest.dropWhile (· != '=') with
    | [] => .long name none
    | _ :: value => .long name (some (String.ofList value))
  | ['-'] => .plain s
  | '-' :: c :: _ => .short c
  | _ => .plain s

/-- What was read so far. -/
structure Reading (σ : Type) where
  settings : σ
  /-- The names of the options that were given. -/
  given : List String := []
  /-- The last argument, if its value was not looked at, or has yet to come. -/
  pending : Option (Argument σ × Option String) := none
  /-- The positional arguments that were not given yet. -/
  positional : List (Argument σ)
  /-- Whether `--` was read. -/
  separated : Bool := false

namespace Reading

variable {σ : Type}

/-- Whether the next word has to be a value. -/
def isAwaiting (r : Reading σ) : Bool :=
  match r.pending with
  | some (_, none) => true
  | _ => false

/-- Gives a value to an argument. -/
def take (r : Reading σ) (a : Argument σ) (value : String) : Except Ending (Reading σ) :=
  if a.arity ≠ .many ∧ a.name ∈ r.given then .error (.misuse (.repeated a.shown))
  else
    match a.store value r.settings with
    | .ok settings => .ok { r with settings, given := a.name :: r.given }
    | .error fault => .error (.misuse (.badValue a.shown fault))

/-- Looks at the value that was kept aside. -/
def settle (r : Reading σ) : Except Ending (Reading σ) :=
  match r.pending with
  | none => .ok r
  | some (a, none) => .error (.misuse (.badValue a.shown .absent))
  | some (a, some value) => { r with pending := none }.take a value

end Reading

namespace Grammar

variable {σ : Type}

/-- Reads a word as a positional argument. -/
def readPositional (g : Grammar σ) (r : Reading σ) (word : String) : Except Ending (Reading σ) :=
  match r.positional with
  | a :: rest => do
    let r ← r.settle
    return { r with pending := some (a, some word), positional := rest }
  | [] =>
    if g.commands.isEmpty || (r.separated && g.commands.contains word) then
      .error (.misuse (.unknownArgument word))
    else .error (.misuse (.unknownCommand word))

/-- Ends the reading in a way that the user asked for, if the value kept aside is good. -/
def finishWith (r : Reading σ) (ending : Ending) (name : String) (value : Option String) :
    Except Ending (Reading σ) :=
  match value with
  | some v => .error (.misuse (.surplusValue ("--" ++ name) v))
  | none => do
    let _ ← r.settle
    .error ending

/-- Reads an option by its name. -/
def readLong (g : Grammar σ) (r : Reading σ) (name : String) (value : Option String) :
    Except Ending (Reading σ) :=
  match g.options.find? (·.name == name) with
  | some a =>
    match a.arity, value with
    | .flag, some v => .error (.misuse (.surplusValue a.shown v))
    | .flag, none => do (← r.settle).take a ""
    | _, some v => do (← r.settle).take a v
    | _, none => do return { ← r.settle with pending := some (a, none) }
  | none =>
    if name = "help" then finishWith r .help name value
    else if name = "version" ∧ g.hasVersion then finishWith r .version name value
    else .error (.misuse (.unknownArgument ("--" ++ name)))

/-- Reads an option by its letter. -/
def readShort (g : Grammar σ) (r : Reading σ) (letter : Char) : Except Ending (Reading σ) :=
  if letter = 'h' then finishWith r .help "help" none
  else if letter = 'V' ∧ g.hasVersion then finishWith r .version "version" none
  else .error (.misuse (.unknownArgument (String.ofList ['-', letter])))

/-- Reads a word. -/
def readWord (g : Grammar σ) (r : Reading σ) (word : String) : Except Ending (Reading σ) :=
  if r.separated then g.readPositional r word
  else
    match Word.ofString word with
    | .separator => .ok { r with separated := true }
    | .long name value => g.readLong r name value
    | .short letter => g.readShort r letter
    | .plain text =>
      match r.pending with
      | some (a, none) => .ok { r with pending := some (a, some text) }
      | _ => g.readPositional r text

/-- The reading before the first word. -/
def start (g : Grammar σ) (settings : σ) : Reading σ :=
  { settings, positional := g.positional }

/-- Reads words up to the name of a command, which is returned with the words after it. -/
def readWords (g : Grammar σ) :
    Reading σ → List String → Except Ending (Reading σ × Option (String × List String))
  | r, [] => .ok (r, none)
  | r, word :: rest =>
    if !r.separated && !r.isAwaiting && g.commands.contains word then .ok (r, some (word, rest))
    else do g.readWords (← g.readWord r word) rest

/-- Whether everything is given that has to be. -/
def isComplete (g : Grammar σ) (r : Reading σ) : Bool :=
  r.positional.isEmpty && g.required.all r.given.contains &&
    g.needs.all fun (a, b) => !r.given.contains a || r.given.contains b

/-- Reads all words and returns the settings. -/
def read (g : Grammar σ) (settings : σ) (words : List String) : Except Ending σ := do
  let (r, _) ← g.readWords (g.start settings) words
  let r ← r.settle
  if g.isComplete r then return r.settings else .error (.misuse .missingArguments)

end Grammar

/-! ## Values -/

/-- How a value is read. -/
abbrev ValueReader (α : Type) :=
  String → Except ValueFault α

namespace ValueReader

variable {α : Type}

/-- Any text. -/
def text : ValueReader String :=
  .ok

/-- A path, which has at least one character. -/
def path : ValueReader String := fun s =>
  if s.isEmpty then .error .absent else .ok s

/-- One of several names. -/
def choice (ofName? : String → Option α) : ValueReader α := fun s =>
  match ofName? s with
  | some a => .ok a
  | none => .error (if s.isEmpty then .absent else .notAmong s)

/-- A value that is refused with a reason. -/
def reasoned (read : String → Except String α) : ValueReader α := fun s =>
  (read s).mapError (.rejected s)

/-- Several values with commas between them. -/
def separated (read : ValueReader α) : ValueReader (List α) := fun s =>
  (s.toList.splitOn ',').mapM fun piece => read (String.ofList piece)

end ValueReader

namespace Argument

variable {σ α : Type}

/-- An option with a value. -/
def once (name placeholder purpose : String) (read : ValueReader α) (set : α → σ → σ) :
    Argument σ :=
  { name, placeholder, arity := .once, purpose
    store := fun value s => (read value).map (set · s) }

/-- An option with a value that may be repeated. -/
def many (name placeholder purpose : String) (read : ValueReader α) (add : α → σ → σ) :
    Argument σ :=
  { once name placeholder purpose read add with arity := .many }

/-- An option without a value. -/
def flag (name purpose : String) (set : σ → σ) : Argument σ :=
  { name, placeholder := "", arity := .flag, purpose, store := fun _ s => .ok (set s) }

/-- An argument without a name. -/
def place (placeholder purpose : String) (read : ValueReader α) (set : α → σ → σ) : Argument σ :=
  once "" placeholder purpose read set

end Argument

end Trendline.CommandLine
