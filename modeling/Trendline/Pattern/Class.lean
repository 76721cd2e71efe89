import Trendline.Pattern.Escape

/-!
# Classes in brackets

A class lists characters, ranges and other classes, and may be cut by another
one.  The operations between classes bind alike and to the left.  A closing
bracket and minus signs at the start stand for themselves.
-/

namespace Trendline.Pattern

open Reading

/-- The class with a name between colons. -/
def NamedClass.ofName? (name : String) : Option NamedClass :=
  match name with
  | "alnum" => some .alnum
  | "alpha" => some .alpha
  | "ascii" => some .ascii
  | "blank" => some .blank
  | "cntrl" => some .cntrl
  | "digit" => some .digit
  | "graph" => some .graph
  | "lower" => some .lower
  | "print" => some .print
  | "punct" => some .punct
  | "space" => some .space
  | "upper" => some .upper
  | "word" => some .word
  | "xdigit" => some .xdigit
  | _ => none

/-- The class with a name that the text begins with, whether it is negated, and its length. -/
def namedClass? (text : List Char) : Option (NamedClass × Bool × Nat) :=
  match text with
  | '[' :: ':' :: rest =>
    let negated := rest.head? == some '^'
    let body := if negated then rest.drop 1 else rest
    let name := body.takeWhile (· != ':')
    match body.drop name.length, NamedClass.ofName? (String.ofList name) with
    | ':' :: ']' :: _, some c => some (c, negated, name.length + 4 + negated.toNat)
    | _, _ => none
  | _ => none

/-- The start of a class: whether it is negated, where it is, and what stands for itself there. -/
structure ClassHead where
  negated : Bool
  span : Span
  /-- The items so far, the last one first. -/
  items : List ClassExpr

/-- Reads a character that stands for itself. -/
def readSelf (c : Char) : Reading Literal := do
  let start ← here
  return { char := c, span := ⟨start, start + 1⟩ }

/-- Reads minus signs at the start of a class, at most as many as `n`. -/
def readDashes (start : Nat) : Nat → List ClassExpr → Reading (List ClassExpr)
  | 0, items => return items
  | n + 1, items => do
    if (← peek?) == some '-' then do
      let l ← readSelf '-'
      next
      if (← peek?).isNone then failAt .classUnclosed start start
      else readDashes start n (.literal l :: items)
    else return items

/-- Reads the start of a class, from the bracket on. -/
def readClassHead : Reading ClassHead := do
  let start ← here
  let c ← nextOrFail .classUnclosed start
  let negated := c == '^'
  if negated then
    let _ ← nextOrFail .classUnclosed start
  let items ← readDashes start (← get).rest.length []
  let items ←
    if items.isEmpty && (← peek?) == some ']' then do
      let l ← readSelf ']'
      let _ ← nextOrFail .classUnclosed start
      pure [.literal l]
    else pure items
  return { negated, span := ⟨start, ← here⟩, items }

/-- Reads one character, or an escape. -/
def readClassAtom (c : Char) : Reading Expression := do
  if c = '\\' then readEscape
  else do
    let l ← readSelf c
    skip 1
    return .literal l

/-- An escape as an item of a class. -/
def Expression.toItem : Expression → Except Fault ClassExpr
  | .literal l => .ok (.literal l)
  | .short c negated span => .ok (.short c negated span)
  | .property span => .ok (.property span)
  | e => .error { cause := .classEscape, span := e.span }

/-- An escape as the end of a range. -/
def Expression.toBound : Expression → Except Fault Literal
  | .literal l => .ok l
  | e => .error { cause := .classRangeBound, span := e.span }

/-- The range between two characters. -/
def ClassExpr.ofBounds (low high : Literal) : Except Fault ClassExpr :=
  let e := ClassExpr.range low high
  if low.char ≤ high.char then .ok e else .error { cause := .classRangeOrder, span := e.span }

/-- Reads an item of a class, or a range; `head` is where the class begins. -/
def readClassItem (head : Span) (c : Char) : Reading ClassExpr := do
  let low ← readClassAtom c
  skipIgnored
  let after := (← get).afterNext?
  match ← peek? with
  | none => throw { cause := .classUnclosed, span := head }
  | some c =>
    if c ≠ '-' ∨ after = some ']' ∨ after = some '-' then ofExcept low.toItem
    else do
      next
      match ← peek? with
      | none => throw { cause := .classUnclosed, span := head }
      | some c => do
        let high ← readClassAtom c
        ofExcept do ClassExpr.ofBounds (← low.toBound) (← high.toBound)

/-- Items of a class, the last one first, as one. -/
def ClassExpr.ofItems (place : Nat) (items : List ClassExpr) : ClassExpr :=
  match items with
  | [] => .nothing ⟨place, place⟩
  | last :: before => before.foldl (fun rest item => .union item rest) last

/-- A class that is cut by another one. -/
def ClassExpr.after (before : Option (ClassOp × ClassExpr)) (e : ClassExpr) : ClassExpr :=
  match before with
  | some (op, left) => .binary op left e
  | none => e

/-- The operation that the text begins with. -/
def ClassOp.ofText? : List Char → Option ClassOp
  | '&' :: '&' :: _ => some inter
  | '-' :: '-' :: _ => some diff
  | '~' :: '~' :: _ => some symmDiff
  | _ => none

/--
Reads the items of a class up to its closing bracket.  `before` is what an operation is to be
applied to, and `items` are those after it, the last one first.
-/
def readClassItems (head : Span) (before : Option (ClassOp × ClassExpr)) (items : List ClassExpr) :
    (fuel : Nat) → Reading ClassExpr
  | 0 => throw { cause := .classUnclosed, span := head }
  | fuel + 1 => do
    skipIgnored
    let rest := (← get).rest
    let start ← here
    match rest, ClassOp.ofText? rest, namedClass? rest with
    | [], _, _ => throw { cause := .classUnclosed, span := head }
    | ']' :: _, _, _ => return .after before (.ofItems start items)
    | _, some op, _ => do
      skip 2
      readClassItems head (some (op, .after before (.ofItems start items))) [] fuel
    | '[' :: _, _, some (c, negated, length) => do
      skip length
      readClassItems head before (.named c negated ⟨start, start + length⟩ :: items) fuel
    | '[' :: _, _, none => do
      let h ← readClassHead
      let inner ← readClassItems h.span none h.items fuel
      skip 1
      let e := ClassExpr.bracket h.negated inner ⟨start, ← here⟩
      readClassItems head before (e :: items) fuel
    | c :: _, _, _ => do
      let item ← readClassItem head c
      readClassItems head before (item :: items) fuel

/-- Reads a class, from its bracket on. -/
def readClass : Reading Expression := do
  let start ← here
  let h ← readClassHead
  let inner ← readClassItems h.span none h.items ((← get).rest.length + 1)
  skip 1
  let span : Span := ⟨start, ← here⟩
  return .bracket (.bracket h.negated inner span) span

end Trendline.Pattern
