import Trendline.Text.Column

/-!
# Faults of patterns

Why a text is no pattern, and where.  The message shows the text with marks
below the faulty part; the lines of a text of several lines are numbered.
-/

namespace Trendline.Pattern

/-- A part of a text, by the numbers of the characters before its start and before its end. -/
structure Span where
  start : Nat
  stop : Nat
  deriving DecidableEq, Repr

/-- Why a text is no pattern. -/
inductive Cause where
  | classEscape
  | classRangeOrder
  | classRangeBound
  | classUnclosed
  | decimalInvalid
  | hexEmpty
  | hexInvalid
  | hexDigit
  | escapeUnfinished
  | escapeUnknown
  | flagDangling
  | flagRepeated
  | flagNegatedTwice
  | flagMissing
  | flagUnknown
  | nameRepeated
  | nameEmpty
  | nameInvalid
  | nameUnclosed
  | groupUnclosed
  | groupUnopened
  | nesting (limit : Nat)
  | countOrder
  | countMissing
  | countUnclosed
  | repetitionOfNothing
  | wordEdgeUnclosed
  | wordEdgeUnknown
  | wordEdgeUnfinished
  | propertyInvalid
  | backReference
  | lookAround
  /-- Characters beyond ASCII where only bytes may stand. -/
  | unicodeForbidden
  /-- A part that could be in the middle of a character. -/
  | notUtf8
  /-- A property of characters that no table tells. -/
  | propertyUnknown
  /-- One of the short classes for the characters of all scripts. -/
  | shortClassUnknown
  /-- Letters of either case, in all scripts. -/
  | caseUnknown
  deriving DecidableEq, Repr

/-- The cause as a message. -/
def Cause.message : Cause → String
  | classEscape => "invalid escape sequence found in character class"
  | classRangeOrder => "invalid character class range, the start must be <= the end"
  | classRangeBound => "invalid range boundary, must be a literal"
  | classUnclosed => "unclosed character class"
  | decimalInvalid => "decimal literal invalid"
  | hexEmpty => "hexadecimal literal empty"
  | hexInvalid => "hexadecimal literal is not a Unicode scalar value"
  | hexDigit => "invalid hexadecimal digit"
  | escapeUnfinished => "incomplete escape sequence, reached end of pattern prematurely"
  | escapeUnknown => "unrecognized escape sequence"
  | flagDangling => "dangling flag negation operator"
  | flagRepeated => "duplicate flag"
  | flagNegatedTwice => "flag negation operator repeated"
  | flagMissing => "expected flag but got end of regex"
  | flagUnknown => "unrecognized flag"
  | nameRepeated => "duplicate capture group name"
  | nameEmpty => "empty capture group name"
  | nameInvalid => "invalid capture group character"
  | nameUnclosed => "unclosed capture group name"
  | groupUnclosed => "unclosed group"
  | groupUnopened => "unopened group"
  | nesting limit => s!"exceed the maximum number of nested parentheses/brackets ({limit})"
  | countOrder => "invalid repetition count range, the start must be <= the end"
  | countMissing => "repetition quantifier expects a valid decimal"
  | countUnclosed => "unclosed counted repetition"
  | repetitionOfNothing => "repetition operator missing expression"
  | wordEdgeUnclosed =>
    "special word boundary assertion is either unclosed or contains an invalid character"
  | wordEdgeUnknown =>
    "unrecognized special word boundary assertion, valid choices are: " ++
      "start, end, start-half or end-half"
  | wordEdgeUnfinished =>
    "found either the beginning of a special word boundary or a bounded repetition on a \\b " ++
      "with an opening brace, but no closing brace"
  | propertyInvalid => "invalid Unicode character class"
  | backReference => "backreferences are not supported"
  | lookAround => "look-around, including look-ahead and look-behind, is not supported"
  | unicodeForbidden => "Unicode not allowed here"
  | notUtf8 => "pattern can match invalid UTF-8"
  | propertyUnknown => "Unicode property not found"
  | shortClassUnknown =>
    "Unicode-aware Perl class not found (make sure the unicode-perl feature is enabled)"
  | caseUnknown =>
    "Unicode-aware case insensitivity matching is not available " ++
      "(make sure the unicode-case feature is enabled)"

/-- A reason that a text is no pattern. -/
structure Fault where
  cause : Cause
  span : Span
  /-- Where the thing was first that may not be repeated. -/
  earlier : Option Span := none
  deriving DecidableEq, Repr

/-! ## Marks below lines -/

/-- A place by the number of its line and the one of its column. -/
structure Spot where
  line : Nat
  column : Nat
  deriving DecidableEq, Repr

/-- The place that a number of characters of a text leads to. -/
def spotAfter (text : List Char) (n : Nat) : Spot :=
  let before := text.take n
  ⟨before.count '\n' + 1, (before.reverse.takeWhile (· != '\n')).length + 1⟩

/-- The marks for spans within a line, from a column on; the spans are in order. -/
def marksFrom (column : Nat) : List (Nat × Nat) → List Char
  | [] => []
  | (start, stop) :: rest =>
    let marks := max 1 (stop - start)
    List.replicate (start - column) ' ' ++ List.replicate marks '^' ++
      marksFrom (max start column + marks) rest

/-- A text with marks below the parts that do not go beyond a line. -/
def notated (text : List Char) (spots : List (Spot × Spot)) : List String :=
  let lines := Text.lines (String.ofList text)
  let count := lines.length + (if text.getLast? = some '\n' then 1 else 0)
  let digits := if count ≤ 1 then 0 else (toString count).length
  let margin := if digits = 0 then 4 else digits + 2
  lines.zipIdx.flatMap fun (line, i) =>
    let number := if digits = 0 then "    " else Text.padStart digits (toString (i + 1)) ++ ": "
    let here := spots.filter fun (a, b) => a.line == i + 1 && b.line == i + 1
    let columns := here.map fun (a, b) => (a.column, b.column)
    if columns.isEmpty then [number ++ line]
    else [number ++ line, String.ofList (List.replicate margin ' ' ++ marksFrom 1 columns)]

/-- Tells of a span that it goes over several lines. -/
def acrossLines (a b : Spot) : String :=
  "on line " ++ toString a.line ++ " (column " ++ toString a.column ++ ") through line " ++
    toString b.line ++ " (column " ++ toString (b.column - 1) ++ ")"

/-- The message about a fault of a text. -/
def Fault.message (text : String) (f : Fault) : String :=
  let cs := text.toList
  let spans := (f.span :: f.earlier.toList).mergeSort fun a b => a.start ≤ b.start
  let spots := spans.map fun s => (spotAfter cs s.start, spotAfter cs s.stop)
  let across := (spots.filter fun (a, b) => a.line != b.line).map fun (a, b) => acrossLines a b
  let rule := if cs.contains '\n' then [String.ofList (List.replicate 79 '~')] else []
  let notes := if across.isEmpty then [] else [String.intercalate "\n" across ++ "."]
  String.intercalate "\n"
    (["regex parse error:"] ++ rule ++ notated cs spots ++ rule ++ notes ++
      ["error: " ++ f.cause.message])

end Trendline.Pattern
