import Trendline.Environment.Line
import Trendline.Text.Utf8

/-!
# Environment files

A file of assignments, one on each line; a quoted value may go over several
lines.  The variables are offered to the environment in turn, up to the first
line that is no assignment or no text.
-/

namespace Trendline.Environment

/-- What the next character of a line is part of. -/
inductive LinePart where
  | plain
  /-- The character after a blank, where a comment may begin. -/
  | afterBlank
  | escaped
  | singleQuoted
  | singleEscaped
  | doubleQuoted
  | doubleEscaped
  deriving DecidableEq, Repr

namespace LinePart

/-- The part after a character outside of quotes. -/
def opening (c : Char) : LinePart :=
  if c = '\\' then .escaped
  else if c = '"' then .doubleQuoted
  else if c = '\'' then .singleQuoted
  else .plain

/-- The part after a character. -/
def next (c : Char) : LinePart → LinePart
  | plain => if Text.isBlank c && c != '\n' && c != '\r' then afterBlank else opening c
  | afterBlank => opening c
  | escaped => plain
  | singleQuoted => if c = '\\' then singleEscaped else if c = '\'' then plain else singleQuoted
  | singleEscaped => singleQuoted
  | doubleQuoted => if c = '\\' then doubleEscaped else if c = '"' then plain else doubleQuoted
  | doubleEscaped => doubleQuoted

end LinePart

/-- A line up to a comment in it, and the part at its end if there is no comment. -/
def uncomment (part : LinePart) : List Char → List Char × Option LinePart
  | [] => ([], some part)
  | c :: rest =>
    if part = .afterBlank ∧ c = '#' then ([], none)
    else
      let (kept, last) := uncomment (part.next c) rest
      (c :: kept, last)

/-- The lines of bytes, each with the line feed at its end. -/
def byteLines (bytes : List UInt8) : List (List UInt8) :=
  let pieces := bytes.splitOn 0x0a
  pieces.dropLast.map (· ++ [0x0a]) ++ pieces.getLast?.toList.filter (!·.isEmpty)

/--
Offers the assignments of lines to an environment.  `before` has the lines in front that belong to
the same assignment, and `part` is the part at their end.
-/
def offerLines (env : Environment) (part : LinePart) (before : List Char) :
    List (List UInt8) → Environment
  | [] => env
  | bytes :: rest =>
    match Text.decode? bytes with
    | none => env
    | some line =>
      let joined := before ++ line.toList
      if (joined.dropWhile Text.isBlank).head? = some '#' then offerLines env .plain [] rest
      else
        let (kept, last) := uncomment part line.toList
        match last with
        | none => offerLine env (before ++ kept) rest
        | some .plain => offerLine env joined rest
        | some part => offerLines env part joined rest
where
  /-- Offers one assignment, and then the lines after it. -/
  offerLine (env : Environment) (line : List Char) (rest : List (List UInt8)) : Environment :=
    match readLine env line with
    | .error _ => env
    | .ok none => offerLines env .plain [] rest
    | .ok (some (name, value)) => offerLines (env.offer name value) .plain [] rest

/-- The mark that a file may begin with. -/
def byteOrderMark : List UInt8 :=
  [0xef, 0xbb, 0xbf]

/-- Offers the assignments of a file to an environment. -/
def offerFile (env : Environment) (bytes : List UInt8) : Environment :=
  let bytes := if byteOrderMark.isPrefixOf bytes then bytes.drop 3 else bytes
  offerLines env .plain [] (byteLines bytes)

end Trendline.Environment
