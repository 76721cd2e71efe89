import Trendline.Pattern.Cursor
import Trendline.Pattern.Expression
import Trendline.Text.Hexadecimal

/-!
# Escapes

What a backslash begins: a character by its code, a sign that would mean
something else without the backslash, a class with a name of one letter, or a
condition on a place.
-/

namespace Trendline.Pattern

open Reading
open Text (hexDigit?)

/-- The character of a code in base sixteen, if it has one. -/
def charOfHex? (digits : List Char) : Option Char :=
  let code := (digits.filterMap hexDigit?).foldl (fun n d => n * 16 + d) 0
  if code.isValidChar then some (.ofNat code) else none

/-- How many digits a code has after the letter that begins it. -/
def hexCount (c : Char) : Nat :=
  if c = 'x' then 2 else if c = 'u' then 4 else 8

/-- Reads a number of digits of a code. -/
def readHexDigits : Nat → Reading (List Char)
  | 0 => return []
  | n + 1 => do
    match ← peek? with
    | none => failHere .escapeUnfinished
    | some c =>
      if (hexDigit? c).isNone then failNext .hexDigit
      else do
        next
        return c :: (← readHexDigits n)

/-- Reads a code between braces. -/
def readHexBraces (start : Nat) : Reading Expression := do
  let brace ← here
  next
  let digits ← takeWhile fun c => (hexDigit? c).isSome
  match ← peek? with
  | none => failFrom .escapeUnfinished brace
  | some '\x7d' => do
    let stop ← here
    next
    if digits.isEmpty then failFrom .hexEmpty brace
    else
      match charOfHex? digits with
      | none => failAt .hexInvalid (brace + 1) stop
      | some char => return .literal { char, span := ⟨start, ← here⟩ }
  | some _ => failNext .hexDigit

/-- Reads a character by its code, from the letter on. -/
def readHex (start : Nat) (letter : Char) : Reading Expression := do
  next
  match ← peek? with
  | none => failHere .escapeUnfinished
  | some '\x7b' => readHexBraces start
  | some _ => do
    let first ← here
    let digits ← readHexDigits (hexCount letter)
    match charOfHex? digits with
    | none => failFrom .hexInvalid first
    | some char => return .literal { char, asByte := letter == 'x', span := ⟨start, ← here⟩ }

/-- Reads a class of characters with a property, from the letter on. -/
def readProperty (start : Nat) : Reading Expression := do
  next
  match ← peek? with
  | none => failHere .escapeUnfinished
  | some '\x7b' => do
    next
    let _ ← takeWhile (· != '\x7d')
    match ← peek? with
    | none => failHere .escapeUnfinished
    | some _ => do
      skip 1
      return .property ⟨start, ← here⟩
  | some '\\' => failNext .propertyInvalid
  | some _ => do
    next
    return .property ⟨start, ← here⟩

/-- Whether a character may be in the name of an edge of a word. -/
def isEdgeNameChar (c : Char) : Bool :=
  c.isAlpha || c == '-'

/-- The edge of a word with a name. -/
def WordEdge.ofName? (name : String) : Option WordEdge :=
  match name with
  | "start" => some .start
  | "end" => some .stop
  | "start-half" => some .startHalf
  | "end-half" => some .stopHalf
  | _ => none

/-- Reads the name of an edge between braces; anything else there is left for a repetition. -/
def readEdgeName? (start : Nat) : Reading (Option WordEdge) := do
  let before ← get
  let brace ← here
  let c ← nextOrFail .wordEdgeUnfinished start
  if !isEdgeNameChar c then do
    set before
    return none
  else do
    let first ← here
    let name ← takeWhile isEdgeNameChar
    if (← peek?) != some '\x7d' then failFrom .wordEdgeUnclosed brace
    else do
      let stop ← here
      skip 1
      match WordEdge.ofName? (String.ofList name) with
      | some e => return some e
      | none => failAt .wordEdgeUnknown first stop

/-- Reads what follows the letter for an edge of a word. -/
def readWordEdge (start : Nat) : Reading Expression := do
  if (← peek?) == some '\x7b' then do
    let e ← readEdgeName? start
    return .anchor (.word (e.getD .anyEdge)) ⟨start, ← here⟩
  else return .anchor (.word .anyEdge) ⟨start, ← here⟩

/-- The class with a name of one letter, which is negated if the letter is a capital. -/
def ShortClass.ofChar? (c : Char) : Option (ShortClass × Bool) :=
  if c = 'd' then some (digit, false)
  else if c = 'D' then some (digit, true)
  else if c = 's' then some (space, false)
  else if c = 'S' then some (space, true)
  else if c = 'w' then some (word, false)
  else if c = 'W' then some (word, true)
  else none

/-- Whether a character stands for itself after a backslash. -/
def isEscapable (c : Char) : Bool :=
  c.toNat < 0x80 && !c.isAlphanum && c != '<' && c != '>'

/-- The character of an escape of one letter. -/
def letterEscape? (c : Char) : Option Char :=
  if c = 'a' then some '\x07'
  else if c = 'f' then some '\x0c'
  else if c = 't' then some '\t'
  else if c = 'n' then some '\n'
  else if c = 'r' then some '\r'
  else if c = 'v' then some '\x0b'
  else none

/-- The condition on a place with a sign. -/
def AnchorSign.ofEscape? (c : Char) : Option AnchorSign :=
  if c = 'A' then some textStart
  else if c = 'z' then some textEnd
  else if c = 'B' then some (word .noEdge)
  else if c = '<' then some (word .start)
  else if c = '>' then some (word .stop)
  else none

/-- Reads an escape of one character, which has been passed over. -/
def readShortEscape (start : Nat) (c : Char) : Reading Expression := do
  let span : Span := ⟨start, ← here⟩
  if isEscapable c then return .literal { char := c, span }
  else if c = 'b' then readWordEdge start
  else
    match letterEscape? c, AnchorSign.ofEscape? c with
    | some char, _ => return .literal { char, span }
    | none, some sign => return .anchor sign span
    | none, none => throw { cause := .escapeUnknown, span }

/-- Reads an escape, from the backslash on. -/
def readEscape : Reading Expression := do
  let start ← here
  skip 1
  match ← peek? with
  | none => failFrom .escapeUnfinished start
  | some c =>
    if c.isDigit then failAt .backReference start (start + 2)
    else if c = 'x' ∨ c = 'u' ∨ c = 'U' then readHex start c
    else if c = 'p' ∨ c = 'P' then readProperty start
    else do
      match ShortClass.ofChar? c with
      | some (short, negated) => do
        skip 1
        return .short short negated ⟨start, ← here⟩
      | none => do
        skip 1
        readShortEscape start c

end Trendline.Pattern
