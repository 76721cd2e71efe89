import Trendline.Pattern.Class
import Trendline.Text.Alphanumeric

/-!
# Reading patterns

The text of a pattern is a choice between sequences of parts, each of which may
be repeated.  Every step of the reader uses up a character, so the length of
the text bounds the depth of the recursion; `Expression.read` supplies that
bound itself.
-/

namespace Trendline.Pattern

open Reading

/-! ## Repetitions -/

/-- The greatest count of a repetition. -/
def greatestCount : Nat :=
  4294967295

/-- Reads a count, which may have blanks around it. -/
def readCount : Reading (Except Fault Nat) := do
  let _ ← takeWhile Text.isBlank
  let start ← here
  let digits ← takeWhile Char.isDigit
  let span : Span := ⟨start, ← here⟩
  let _ ← takeWhile Text.isBlank
  let n := digits.foldl (fun n d => n * 10 + (d.toNat - '0'.toNat)) 0
  if digits.isEmpty then return .error { cause := .countMissing, span }
  else if greatestCount < n then return .error { cause := .decimalInvalid, span }
  else return .ok n

/-- Reads the counts between braces, from the brace on, and the sign for few rather than many. -/
def readCounts : Reading (Nat × Option Nat) := do
  let start ← here
  let _ ← nextOrFail .countUnclosed start
  let least ← readCount
  let counts ← match ← peek? with
    | none => failFrom .countUnclosed start
    | some ',' => do
      let c ← nextOrFail .countUnclosed start
      let least ← MonadExcept.ofExcept least
      if c = '\x7d' then pure (least, none)
      else do pure (least, some (← MonadExcept.ofExcept (← readCount)))
    | some _ => do
      let n ← MonadExcept.ofExcept least
      pure (n, some n)
  if (← peek?) != some '\x7d' then failFrom .countUnclosed start
  else do
    next
    if (← peek?) == some '?' then skip 1
    if counts.2.any (· < counts.1) then failFrom .countOrder start
    else return counts

/-- The counts of a repetition with a sign of one character. -/
def countsOfSign? (c : Char) : Option (Nat × Option Nat) :=
  if c = '?' then some (0, some 1)
  else if c = '*' then some (0, none)
  else if c = '+' then some (1, none)
  else none

/-- Whether an expression is nothing that could be repeated. -/
def Expression.isNothing : Expression → Bool
  | .empty _ | .flags _ _ => true
  | _ => false

/-- Reads what makes a repetition of the last item; the items are in reverse. -/
def readRepetition (c : Char) (items : List Expression) : Reading (List Expression) := do
  match items with
  | [] => failHere .repetitionOfNothing
  | last :: before =>
    if last.isNothing then failHere .repetitionOfNothing
    else do
      let counts ← match countsOfSign? c with
        | some counts => do
          skip 1
          if (← peek?) == some '?' then skip 1
          pure counts
        | none => readCounts
      return .rep last counts.1 counts.2 ⟨last.span.start, ← here⟩ :: before

/-! ## Groups -/

/-- The flag with a letter. -/
def Flag.ofChar? (c : Char) : Option Flag :=
  if c = 'i' then some anyCase
  else if c = 'm' then some multiLine
  else if c = 's' then some dotAll
  else if c = 'U' then some lazy
  else if c = 'u' then some unicode
  else if c = 'R' then some carriageReturn
  else if c = 'x' then some verbose
  else none

/-- A letter for a flag, or the sign that clears the ones after it. -/
def readFlagItem (c : Char) : Reading (Option Flag) :=
  if c = '-' then return none
  else
    match Flag.ofChar? c with
    | some f => return some f
    | none => failNext .flagUnknown

/-- Reads letters for flags, up to what ends them. -/
def readFlagItems (items : List (Option Flag × Span)) :
    (fuel : Nat) → Reading (List (Option Flag × Span))
  | 0 => return items
  | fuel + 1 => do
    match ← peek? with
    | none => failHere .flagMissing
    | some c =>
      if c = ':' ∨ c = ')' then return items
      else do
        let start ← here
        let item ← readFlagItem c
        let span : Span := ⟨start, start + 1⟩
        match items.lookup item with
        | some earlier =>
          let cause := if item.isNone then Cause.flagNegatedTwice else .flagRepeated
          throw { cause, span, earlier }
        | none => do
          skip 1
          readFlagItems (items ++ [(item, span)]) fuel

/-- The flags of letters, which are cleared after the sign for that. -/
def changeOf (on : Bool) : List (Option Flag × Span) → FlagChange
  | [] => []
  | (some f, _) :: rest => (f, on) :: changeOf on rest
  | (none, _) :: rest => changeOf false rest

/-- Reads flags, up to what ends them. -/
def readFlags : Reading (List (Option Flag × Span)) := do
  let items ← readFlagItems [] ((← get).rest.length + 1)
  match items.getLast? with
  | some (none, span) => throw { cause := .flagDangling, span }
  | _ => return items

/-- Whether a character may be in the name of a group; `first` is for the one that it begins with. -/
def isGroupNameChar (first : Bool) (c : Char) : Bool :=
  if first then c == '_' || Text.isAlphabetic c
  else c ∈ ['_', '.', '[', ']'] || Text.isAlphanumeric c

/-- Reads the name of a group, and what ends it. -/
def readGroupName : Reading Unit := do
  let start ← here
  let rest := (← get).rest
  let name := rest.takeWhile (· != '>')
  match name.zipIdx.find? fun (c, i) => !isGroupNameChar (i == 0) c with
  | some (_, i) => failAt .nameInvalid (start + i) (start + i + 1)
  | none => do
    let span : Span := ⟨start, start + name.length⟩
    skip name.length
    if (← peek?).isNone then failHere .nameUnclosed
    else do
      skip 1
      if name.isEmpty then failAt .nameEmpty start start
      else
        match (← get).names.lookup name with
        | some earlier => throw { cause := .nameRepeated, span, earlier }
        | none => modify fun c => { c with names := (name, span) :: c.names }

/-- What a parenthesis begins. -/
inductive GroupHead where
  /-- Nothing but flags for what follows. -/
  | change (flags : FlagChange) (span : Span)
  | group (kind : GroupKind) (span : Span)

/-- What looks beyond a place would begin with. -/
def lookAroundSigns : List (List Char) :=
  [['?', '='], ['?', '!'], ['?', '<', '='], ['?', '<', '!']]

/-- What the name of a group begins with. -/
def nameSigns : List (List Char) :=
  [['?', 'P', '<'], ['?', '<']]

/-- The text of a list that the cursor stands before. -/
def signOf? (signs : List (List Char)) (rest : List Char) : Option (List Char) :=
  signs.find? (·.isPrefixOf rest)

/-- Reads the start of a group, from the parenthesis on. -/
def readGroupHead : Reading GroupHead := do
  let start ← here
  let span : Span := ⟨start, start + 1⟩
  skip 1
  skipIgnored
  let inner ← here
  let rest := (← get).rest
  match signOf? lookAroundSigns rest, signOf? nameSigns rest, rest with
  | some sign, _, _ => failAt .lookAround start (inner + sign.length)
  | none, some sign, _ => do
    skip sign.length
    readGroupName
    return .group .capture span
  | none, none, '?' :: _ => do
    skip 1
    if (← peek?).isNone then throw { cause := .groupUnclosed, span }
    else do
      let items ← readFlags
      let change := changeOf true items
      let last ← peek?
      skip 1
      if last != some ')' then return .group (.plain change) span
      else if items.isEmpty then failAt .repetitionOfNothing inner inner
      else return .change change ⟨start, ← here⟩
  | none, none, _ => return .group .capture span

/-- What the flag for ignoring blanks is set to. -/
def FlagChange.verbose? (change : FlagChange) : Option Bool :=
  change.lookup .verbose

/-- What a group sets the flag for ignoring blanks to. -/
def GroupKind.verbose? : GroupKind → Option Bool
  | capture => none
  | plain change => FlagChange.verbose? change

/-- Sets whether blanks are ignored. -/
def setVerbose (verbose : Bool) : Reading Unit :=
  modify fun c => { c with verbose }

/-! ## Sequences and choices -/

/-- Parts in reverse as a sequence. -/
def Expression.ofItems (place : Nat) (items : List Expression) : Expression :=
  match items with
  | [] => .empty ⟨place, place⟩
  | last :: before => before.foldl (fun rest item => .seq item rest) last

/-- Sequences in reverse as a choice. -/
def Expression.ofBranches (last : Expression) (before : List Expression) : Expression :=
  before.foldl (fun rest branch => .alt branch rest) last

/-- Reads a part that begins neither a group nor a class. -/
def readAtom (c : Char) : Reading Expression := do
  let start ← here
  let span : Span := ⟨start, start + 1⟩
  if c = '\\' then readEscape
  else do
    skip 1
    if c = '.' then return .dot span
    else if c = '^' then return .anchor .caret span
    else if c = '$' then return .anchor .dollar span
    else return .literal { char := c, span }

/--
Reads a choice up to the parenthesis that closes it, or to the end.  `branches` are the sequences
before the present one, and `items` its parts so far, both in reverse.
-/
def readBranches (branches items : List Expression) : (fuel : Nat) → Reading Expression
  | 0 => failHere .groupUnclosed
  | fuel + 1 => do
    skipIgnored
    let start ← here
    match ← peek? with
    | none | some ')' => return .ofBranches (.ofItems start items) branches
    | some '|' => do
      skip 1
      readBranches (.ofItems start items :: branches) [] fuel
    | some '(' => do
      match ← readGroupHead with
      | .change flags span => do
        setVerbose (flags.verbose?.getD (← get).verbose)
        readBranches branches (.flags flags span :: items) fuel
      | .group kind span => do
        let verbose := (← get).verbose
        setVerbose (kind.verbose?.getD verbose)
        let inner ← readBranches [] [] fuel
        if (← peek?).isNone then throw { cause := .groupUnclosed, span }
        else do
          setVerbose verbose
          skip 1
          readBranches branches (.group kind inner ⟨start, ← here⟩ :: items) fuel
    | some '[' => do
      let c ← readClass
      readBranches branches (c :: items) fuel
    | some c => do
      let items ←
        if c ∈ ['?', '*', '+', '\x7b'] then readRepetition c items
        else do pure ((← readAtom c) :: items)
      readBranches branches items fuel

/-- How deep an expression may be nested. -/
def nestingLimit : Nat :=
  250

/-- Reads the text of a pattern. -/
def Expression.read (text : String) : Except Fault Expression := do
  let rest := text.toList
  let (e, c) ← (readBranches [] [] (rest.length + 1)).run { rest }
  if !c.rest.isEmpty then throw { cause := .groupUnopened, span := ⟨c.offset, c.offset + 1⟩ }
  else if nestingLimit < e.depth .none then throw { cause := .nesting nestingLimit, span := e.span }
  else return e

end Trendline.Pattern
