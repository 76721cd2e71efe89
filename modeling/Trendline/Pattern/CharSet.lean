/-!
# Sets of characters

What one place of a pattern accepts: ranges of code points, and what is made of
them by the operations on sets.  A set is asked for its members by `contains`.
Where its extent matters it is told by `runs`, the longest ranges of code
points that are in it.
-/

namespace Trendline

/-- A set of characters. -/
inductive CharSet where
  | empty
  /-- The characters with the codes from `low` to `high`. -/
  | range (low high : Nat)
  | union (s t : CharSet)
  | inter (s t : CharSet)
  | diff (s t : CharSet)
  | symmDiff (s t : CharSet)
  | compl (s : CharSet)
  /-- The characters that are in a set themselves, or as ASCII letters of the other case. -/
  | anyCase (s : CharSet)
  deriving DecidableEq, Repr

namespace CharSet

/-- The code of the ASCII letter of the other case; other codes stay. -/
def otherCase (n : Nat) : Nat :=
  if 0x41 ≤ n ∧ n ≤ 0x5a then n + 0x20
  else if 0x61 ≤ n ∧ n ≤ 0x7a then n - 0x20
  else n

/-- Whether the character of a code is in a set. -/
def containsCode : CharSet → Nat → Bool
  | empty, _ => false
  | range low high, n => low ≤ n && n ≤ high
  | union s t, n => s.containsCode n || t.containsCode n
  | inter s t, n => s.containsCode n && t.containsCode n
  | diff s t, n => s.containsCode n && !t.containsCode n
  | symmDiff s t, n => s.containsCode n != t.containsCode n
  | compl s, n => !s.containsCode n
  | anyCase s, n => s.containsCode n || s.containsCode (otherCase n)

/-- Whether a character is in a set. -/
def contains (s : CharSet) (c : Char) : Bool :=
  s.containsCode c.toNat

/-- The set of one character. -/
def single (c : Char) : CharSet :=
  range c.toNat c.toNat

/-- The set of some characters. -/
def ofChars (cs : List Char) : CharSet :=
  cs.foldr (fun c s => union (single c) s) empty

/-- The union of ranges between characters. -/
def ofRanges (ranges : List (Char × Char)) : CharSet :=
  ranges.foldr (fun (low, high) s => union (range low.toNat high.toNat) s) empty

/-- The last code of a character. -/
def lastCode : Nat :=
  0x10ffff

/-- Codes at which a run may begin; nowhere else is a code in the set and the one before it not. -/
def cuts : CharSet → List Nat
  | empty => [0]
  | range low high => [0, low, high + 1]
  | union s t | inter s t | diff s t | symmDiff s t => s.cuts ++ t.cuts
  | compl s => s.cuts
  | anyCase s =>
    s.cuts ++ (List.range 0x1b).flatMap fun i => [0x41 + i, 0x61 + i]

/-- Joins the codes from each cut to the next one where they are in the set. -/
def runsFrom (s : CharSet) : List Nat → List (Nat × Nat)
  | [] => []
  | low :: rest =>
    let high := (rest.head?.getD (lastCode + 1)) - 1
    let runs := runsFrom s rest
    if lastCode < low ∨ !s.containsCode low then runs
    else
      match runs with
      | (next, stop) :: more => if next = high + 1 then (low, stop) :: more else (low, high) :: runs
      | [] => [(low, high)]

/-- The longest ranges of codes in the set, in order. -/
def runs (s : CharSet) : List (Nat × Nat) :=
  s.runsFrom ((s.cuts.filter (· ≤ lastCode)).mergeSort.eraseDups)

end CharSet

end Trendline
