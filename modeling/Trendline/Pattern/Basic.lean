import Trendline.Pattern.Anchor
import Trendline.Pattern.CharSet

/-!
# Patterns

A pattern describes texts: one character out of a set, a condition on a place,
and what is made of such by sequence, choice and repetition.  The functions
below build patterns and leave out what would make no difference.
-/

namespace Trendline

/-- A description of texts. -/
inductive Pattern where
  /-- The empty text. -/
  | empty
  /-- One character. -/
  | one (s : CharSet)
  | anchor (a : Anchor)
  | seq (p q : Pattern)
  | alt (p q : Pattern)
  /-- From `least` to `most` times, or any number of times from `least` on. -/
  | rep (p : Pattern) (least : Nat) (most : Option Nat)
  /-- A part that is set off by parentheses. -/
  | group (p : Pattern)
  deriving DecidableEq, Repr

namespace Pattern

/-- Whether the pattern describes nothing but the empty text. -/
def isBlank : Pattern → Bool
  | empty | anchor _ => true
  | one _ => false
  | seq p q | alt p q => p.isBlank && q.isBlank
  | rep p _ _ | group p => p.isBlank

/-- Whether the pattern may describe the empty text. -/
def isNullable : Pattern → Bool
  | empty | anchor _ => true
  | one s => s.runs.isEmpty
  | seq p q => p.isNullable && q.isNullable
  | alt p q => p.isNullable || q.isNullable
  | rep p least _ => least == 0 || p.isNullable
  | group p => p.isNullable

/-- One pattern after another. -/
def andThen : Pattern → Pattern → Pattern
  | empty, q => q
  | p, empty => p
  | p, q => seq p q

/-- One pattern or another; two sets of characters are joined. -/
def orElse : Pattern → Pattern → Pattern
  | one s, one t => one (.union s t)
  | p, q => alt p q

/--
A pattern repeated.  Nothing is gained by repeating what describes only the empty text, and what is
repeated no times is empty.
-/
def repeated (p : Pattern) (least : Nat) (most : Option Nat) : Pattern :=
  let (least, most) :=
    if p.isBlank then (min least 1, some (min (most.getD 1) 1)) else (least, most)
  if most = some 0 then empty
  else if least = 1 ∧ most = some 1 then p
  else rep p least most

/-- Whether a condition of the pattern is about words of all scripts. -/
def asksForWords : Pattern → Bool
  | anchor (.word _ .everywhere) => true
  | empty | one _ | anchor _ => false
  | seq p q | alt p q => p.asksForWords || q.asksForWords
  | rep p _ _ | group p => p.asksForWords

end Pattern

end Trendline
