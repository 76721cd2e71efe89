import Trendline.Pattern.Fault
import Trendline.Text.Blank

/-!
# Reading a pattern

A cursor stands in the text of a pattern.  Where blanks and comments are
ignored, which a flag can ask for, the steps that say so pass over them.
-/

namespace Trendline.Pattern

/-- A place in the text of a pattern. -/
structure Cursor where
  /-- What is yet to be read. -/
  rest : List Char
  /-- How many characters were read. -/
  offset : Nat := 0
  /-- Whether blanks and comments are ignored. -/
  verbose : Bool := false
  /-- The names of groups so far. -/
  names : List (List Char × Span) := []

/-- How many blanks and characters of comments the text begins with. -/
def ignored (inComment : Bool) : List Char → Nat
  | [] => 0
  | c :: rest =>
    if inComment then ignored (c != '\n') rest + 1
    else if Text.isBlank c then ignored false rest + 1
    else if c = '#' then ignored true rest + 1
    else 0

namespace Cursor

/-- Passes over characters. -/
def skip (n : Nat) (c : Cursor) : Cursor :=
  { c with rest := c.rest.drop n, offset := c.offset + min n c.rest.length }

/-- Passes over what is ignored. -/
def skipIgnored (c : Cursor) : Cursor :=
  if c.verbose then c.skip (ignored false c.rest) else c

/-- Passes over a character and what is ignored after it. -/
def next (c : Cursor) : Cursor :=
  (c.skip 1).skipIgnored

/-- Reads characters that satisfy the test, at most `n` of them. -/
def takeWhile (p : Char → Bool) : Nat → Cursor → List Char × Cursor
  | 0, c => ([], c)
  | n + 1, c =>
    match c.rest with
    | [] => ([], c)
    | x :: _ =>
      if p x then
        let (xs, after) := takeWhile p n c.next
        (x :: xs, after)
      else ([], c)

/-- The character after the next one; of a comment only the mark is passed over. -/
def afterNext? (c : Cursor) : Option Char :=
  let rest := c.rest.drop 1
  if !c.verbose then rest.head?
  else
    match rest.dropWhile Text.isBlank with
    | '#' :: more => (more.dropWhile Text.isBlank).head? <|> rest.head?
    | [] => rest.head?
    | x :: _ => some x

end Cursor

/-- A step that reads something, or finds a fault. -/
abbrev Reading :=
  StateT Cursor (Except Fault)

namespace Reading

variable {α : Type}

/-- The place in the text. -/
def here : Reading Nat :=
  return (← get).offset

/-- The next character, if there is one. -/
def peek? : Reading (Option Char) :=
  return (← get).rest.head?

/-- Finds a fault from one place to another. -/
def failAt (cause : Cause) (start stop : Nat) : Reading α :=
  throw { cause, span := ⟨start, stop⟩ }

/-- Finds a fault from a place on. -/
def failFrom (cause : Cause) (start : Nat) : Reading α := do
  failAt cause start (← here)

/-- Finds a fault at this place. -/
def failHere (cause : Cause) : Reading α := do
  failFrom cause (← here)

/-- Finds a fault in the next character. -/
def failNext (cause : Cause) : Reading α := do
  let start ← here
  failAt cause start (start + 1)

/-- Passes over characters. -/
def skip (n : Nat) : Reading Unit :=
  modify (·.skip n)

/-- Passes over what is ignored. -/
def skipIgnored : Reading Unit :=
  modify (·.skipIgnored)

/-- Passes over a character and what is ignored after it. -/
def next : Reading Unit :=
  modify (·.next)

/-- Passes over a character and what is ignored after it, and finds a fault if nothing is left. -/
def nextOrFail (cause : Cause) (start : Nat) : Reading Char := do
  next
  match ← peek? with
  | some c => return c
  | none => failFrom cause start

/-- Reads characters that satisfy the test. -/
def takeWhile (p : Char → Bool) : Reading (List Char) :=
  modifyGet fun c => c.takeWhile p c.rest.length

end Reading

end Trendline.Pattern
