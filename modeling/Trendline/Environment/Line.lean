import Trendline.Environment.Basic
import Trendline.Text.Alphanumeric
import Trendline.Text.Blank

/-!
# Assignments of an environment file

One logical line of an environment file: blank, a comment, or `NAME=value`,
perhaps with `export` in front.  A value may be quoted.  Between single quotes
all characters stand for themselves.  Elsewhere a backslash protects the next
character, and `$NAME` or `${NAME}` stands for the value of a variable.  Blanks
end a value without quotes, and only a comment may follow.
-/

namespace Trendline.Environment

/-- A line that is no assignment. -/
structure LineFault where
  deriving DecidableEq, Repr

/-- What the next character of a value is part of. -/
inductive ValuePart where
  | plain
  /-- The blanks after a value, and a comment. -/
  | ended
  /-- The character after a backslash. -/
  | escaped
  | singleQuoted
  /-- A name after `$`. -/
  | name (read : List Char)
  /-- A name between braces. -/
  | braced (read : List Char)
  deriving DecidableEq, Repr

/-- What was read of a value. -/
structure ValueScan where
  value : List Char := []
  part : ValuePart := .plain
  /-- Whether a double quote is open. -/
  doubleQuoted : Bool := false

namespace ValueScan

/-- Appends a character. -/
def push (s : ValueScan) (c : Char) : ValueScan :=
  { s with value := s.value ++ [c], part := .plain }

/-- Appends the value of a variable, which is empty if it has none. -/
def pushVariable (env : Environment) (s : ValueScan) (name : List Char) : ValueScan :=
  let value := (env.get? (String.ofList name)).getD ""
  { s with value := s.value ++ value.toList, part := .plain }

/-- Reads a character that nothing before it gives a meaning to. -/
def readPlain (s : ValueScan) (c : Char) : ValueScan :=
  if c = '$' then { s with part := .name [] }
  else if c = '\\' then { s with part := .escaped }
  else if c = '"' then { s with doubleQuoted := !s.doubleQuoted }
  else if s.doubleQuoted then s.push c
  else if c = '\'' then { s with part := .singleQuoted }
  else if c = ' ' ∨ c = '\t' then { s with part := .ended }
  else s.push c

/-- Reads the character after a backslash. -/
def readEscaped (s : ValueScan) (c : Char) : Except LineFault ValueScan :=
  if c ∈ ['\\', '\'', '"', '$', ' '] then .ok (s.push c)
  else if c = 'n' then .ok (s.push '\n')
  else .error {}

/-- Reads a character after `$` and the beginning of a name. -/
def readName (env : Environment) (s : ValueScan) (name : List Char) (c : Char) : ValueScan :=
  if Text.isAlphanumeric c then { s with part := .name (name ++ [c]) }
  else if c = '\x7b' ∧ name = [] then { s with part := .braced [] }
  else
    let s := s.pushVariable env name
    if c = '$' then { s with part := .name [] } else s.push c

/-- Reads the rest of a value. -/
def readAll (env : Environment) (s : ValueScan) : List Char → Except LineFault ValueScan
  | [] => .ok s
  | c :: rest =>
    match s.part with
    | .plain => (s.readPlain c).readAll env rest
    | .ended =>
      if c = ' ' ∨ c = '\t' then s.readAll env rest
      else if c = '#' then .ok s
      else .error {}
    | .escaped => do (← s.readEscaped c).readAll env rest
    | .singleQuoted =>
      if c = '\'' then { s with part := .plain }.readAll env rest
      else { s with value := s.value ++ [c] }.readAll env rest
    | .name name => (s.readName env name c).readAll env rest
    | .braced name =>
      if c = '\x7d' then (s.pushVariable env name).readAll env rest
      else { s with part := .braced (name ++ [c]) }.readAll env rest

/-- The value, if it has an end. -/
def finish (env : Environment) (s : ValueScan) : Except LineFault String :=
  if s.doubleQuoted then .error {}
  else
    match s.part with
    | .singleQuoted | .braced _ => .error {}
    | .name name => .ok (String.ofList (s.pushVariable env name).value)
    | _ => .ok (String.ofList s.value)

end ValueScan

/-- The value that a text denotes. -/
def readValue (env : Environment) (cs : List Char) : Except LineFault String := do
  (← ValueScan.readAll env {} cs).finish env

/-- The name at the beginning of a text, and what follows it. -/
def readKey (cs : List Char) : Except LineFault (String × List Char) :=
  match cs with
  | [] => .error {}
  | c :: _ =>
    if c.isAlpha ∨ c = '_' then
      let inName := fun c : Char => c.isAlphanum || c == '_' || c == '.'
      .ok (String.ofList (cs.takeWhile inName), (cs.dropWhile inName).dropWhile Text.isBlank)
    else .error {}

/-- What follows an equals sign and the blanks after it. -/
def afterEquals (cs : List Char) : Except LineFault (List Char) :=
  match cs with
  | '=' :: rest => .ok (rest.dropWhile Text.isBlank)
  | _ => .error {}

/-- Reads a line, which need not have an assignment. -/
def readLine (env : Environment) (line : List Char) :
    Except LineFault (Option (String × String)) := do
  let cs := Text.trimBy Text.isBlank line
  if cs.isEmpty || cs.head? == some '#' then return none
  let (key, rest) ← readKey cs
  let (key, rest) ←
    if key = "export" ∧ rest.head? ≠ some '=' then readKey rest else .ok (key, rest)
  let value ← afterEquals rest
  if value.isEmpty || value.head? == some '#' then return some (key, "")
  return some (key, ← readValue env value)

end Trendline.Environment
