import Trendline.Json.Basic
import Trendline.Text.Hexadecimal

/-!
# Reading JSON

`Json.read?` accepts one document with blanks around its tokens and nothing
after it.  Every step of the reader uses up a character, so the length of the
text bounds the depth of the recursion; `read?` supplies that bound itself.
-/

namespace Trendline.Json

/-- Whether a character may stand between tokens. -/
def isSpace (c : Char) : Bool :=
  c = ' ' || c = '\n' || c = '\r' || c = '\t'

/-- The text from its next token on. -/
def skipSpace (cs : List Char) : List Char :=
  cs.dropWhile isSpace

/-- The code written by four digits in base sixteen. -/
def hexCode? (a b c d : Char) : Option Nat := do
  let a ← Text.hexDigit? a
  let b ← Text.hexDigit? b
  let c ← Text.hexDigit? c
  let d ← Text.hexDigit? d
  return ((a * 16 + b) * 16 + c) * 16 + d

/-- The character of a one-letter escape. -/
def shortEscape? (c : Char) : Option Char :=
  if c = '"' ∨ c = '\\' ∨ c = '/' then some c
  else if c = 'n' then some '\n'
  else if c = 'r' then some '\r'
  else if c = 't' then some '\t'
  else if c = 'b' then some '\x08'
  else if c = 'f' then some '\x0c'
  else none

/-- The text up to the closing quote, and what follows it.  A pair of surrogates is one character. -/
def readText? : List Char → Option (List Char × List Char)
  | '"' :: rest => some ([], rest)
  | '\\' :: 'u' :: a :: b :: c :: d :: rest => do
    let code ← hexCode? a b c d
    if 0xd800 ≤ code ∧ code < 0xdc00 then
      match rest with
      | '\\' :: 'u' :: a :: b :: c :: d :: rest =>
        let low ← hexCode? a b c d
        if 0xdc00 ≤ low ∧ low < 0xe000 then
          let (text, after) ← readText? rest
          return (Char.ofNat (0x10000 + (code - 0xd800) * 0x400 + (low - 0xdc00)) :: text, after)
        else none
      | _ => none
    else if 0xdc00 ≤ code ∧ code < 0xe000 then none
    else
      let (text, after) ← readText? rest
      return (Char.ofNat code :: text, after)
  | '\\' :: e :: rest => do
    let c ← shortEscape? e
    let (text, after) ← readText? rest
    return (c :: text, after)
  | c :: rest =>
    if c.toNat < 0x20 then none
    else (readText? rest).map fun (text, after) => (c :: text, after)
  | [] => none

/-- Digits, of which there must be one. -/
def readDigits? (cs : List Char) : Option (List Char × List Char) :=
  match cs.takeWhile Char.isDigit with
  | [] => none
  | ds => some (ds, cs.dropWhile Char.isDigit)

/-- The whole part of a numeral, which has no leading zero. -/
def readWhole? : List Char → Option (List Char × List Char)
  | '0' :: rest => some (['0'], rest)
  | cs => readDigits? cs

/-- The fraction of a numeral, which may be missing. -/
def readFraction? : List Char → Option (List Char × List Char)
  | '.' :: rest => (readDigits? rest).map fun (ds, after) => ('.' :: ds, after)
  | cs => some ([], cs)

/-- The exponent of a numeral, which may be missing. -/
def readPower? : List Char → Option (List Char × List Char)
  | c :: rest =>
    if c = 'e' ∨ c = 'E' then
      match rest with
      | s :: more =>
        if s = '+' ∨ s = '-' then (readDigits? more).map fun (ds, after) => (c :: s :: ds, after)
        else (readDigits? (s :: more)).map fun (ds, after) => (c :: ds, after)
      | [] => none
    else some ([], c :: rest)
  | [] => some ([], [])

/-- The numeral at the head of the text. -/
def readNumber? (cs : List Char) : Option (List Char × List Char) := do
  let (sign, cs) := match cs with
    | '-' :: rest => (['-'], rest)
    | _ => ([], cs)
  let (whole, cs) ← readWhole? cs
  let (fraction, cs) ← readFraction? cs
  let (power, cs) ← readPower? cs
  return (sign ++ whole ++ fraction ++ power, cs)

mutual

/-- The value at the head of the text, and what follows it. -/
def readValue? : (fuel : Nat) → List Char → Option (Json × List Char)
  | 0, _ => none
  | fuel + 1, cs =>
    match skipSpace cs with
    | 'n' :: 'u' :: 'l' :: 'l' :: rest => some (null, rest)
    | 't' :: 'r' :: 'u' :: 'e' :: rest => some (bool true, rest)
    | 'f' :: 'a' :: 'l' :: 's' :: 'e' :: rest => some (bool false, rest)
    | '"' :: rest => (readText? rest).map fun (text, after) => (string (String.ofList text), after)
    | '[' :: rest =>
      match skipSpace rest with
      | ']' :: rest => some (array [], rest)
      | rest => (readItems? fuel rest).map fun (items, after) => (array items, after)
    | '\x7b' :: rest =>
      match skipSpace rest with
      | '\x7d' :: rest => some (object [], rest)
      | rest => (readMembers? fuel rest).map fun (members, after) => (object members, after)
    | rest => (readNumber? rest).map fun (numeral, after) => (number (String.ofList numeral), after)

/-- The items up to the closing bracket. -/
def readItems? : (fuel : Nat) → List Char → Option (List Json × List Char)
  | 0, _ => none
  | fuel + 1, cs => do
    let (item, rest) ← readValue? fuel cs
    match skipSpace rest with
    | ',' :: rest =>
      let (items, after) ← readItems? fuel rest
      return (item :: items, after)
    | ']' :: rest => return ([item], rest)
    | _ => none

/-- The members up to the closing brace. -/
def readMembers? : (fuel : Nat) → List Char → Option (List (String × Json) × List Char)
  | 0, _ => none
  | fuel + 1, cs => do
    match skipSpace cs with
    | '"' :: rest =>
      let (name, rest) ← readText? rest
      match skipSpace rest with
      | ':' :: rest =>
        let (value, rest) ← readValue? fuel rest
        match skipSpace rest with
        | ',' :: rest =>
          let (members, after) ← readMembers? fuel rest
          return ((String.ofList name, value) :: members, after)
        | '\x7d' :: rest => return ([(String.ofList name, value)], rest)
        | _ => none
      | _ => none
    | _ => none

end

/-- The document that a text holds. -/
def read? (s : String) : Option Json :=
  match readValue? (s.length + 1) s.toList with
  | some (doc, rest) => if (skipSpace rest).isEmpty then some doc else none
  | none => none

end Trendline.Json
