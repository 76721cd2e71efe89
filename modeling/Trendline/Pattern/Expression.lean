import Trendline.Pattern.Anchor
import Trendline.Pattern.Fault

/-!
# Pattern expressions

A pattern as it is written: characters and escapes, classes in brackets, groups
with their flags, and repetitions.  What a part means depends on the flags that
are set where it stands, so an expression keeps its parts as they are, and
where each of them stands in the text.

Sequences and choices are chains to the right: the first part of one is never a
chain of the same kind, because only a group sets such a part off.
-/

namespace Trendline.Pattern

/-- A switch that a group can set. -/
inductive Flag where
  | anyCase
  | multiLine
  | dotAll
  | lazy
  | unicode
  | carriageReturn
  | verbose
  deriving DecidableEq, Repr

/-- Flags that are set or cleared, in the order in which they are written. -/
abbrev FlagChange :=
  List (Flag × Bool)

/-- One character as it is written. -/
structure Literal where
  char : Char
  /-- Whether the character is written by the two digits of a byte. -/
  asByte : Bool := false
  span : Span
  deriving DecidableEq, Repr

/-- A class with a name of one letter. -/
inductive ShortClass where
  | digit
  | space
  | word
  deriving DecidableEq, Repr

/-- A class with a name between colons. -/
inductive NamedClass where
  | alnum
  | alpha
  | ascii
  | blank
  | cntrl
  | digit
  | graph
  | lower
  | print
  | punct
  | space
  | upper
  | word
  | xdigit
  deriving DecidableEq, Repr

/-- An operation between classes. -/
inductive ClassOp where
  | inter
  | diff
  | symmDiff
  deriving DecidableEq, Repr

/-- A class as it is written between brackets. -/
inductive ClassExpr where
  | nothing (span : Span)
  | literal (l : Literal)
  | range (low high : Literal)
  | short (c : ShortClass) (negated : Bool) (span : Span)
  | named (c : NamedClass) (negated : Bool) (span : Span)
  | property (span : Span)
  /-- A class in brackets of its own. -/
  | bracket (negated : Bool) (inner : ClassExpr) (span : Span)
  /-- One item and then others. -/
  | union (first rest : ClassExpr)
  | binary (op : ClassOp) (left right : ClassExpr)
  deriving DecidableEq, Repr

/-- An anchor as it is written. -/
inductive AnchorSign where
  | caret
  | dollar
  | textStart
  | textEnd
  | word (e : WordEdge)
  deriving DecidableEq, Repr

/-- What parentheses are for. -/
inductive GroupKind where
  /-- To set a part off that can be asked for later. -/
  | capture
  /-- To change flags for a part, perhaps none. -/
  | plain (change : FlagChange)
  deriving DecidableEq, Repr

/-- A pattern as it is written. -/
inductive Expression where
  | empty (span : Span)
  | literal (l : Literal)
  | dot (span : Span)
  | anchor (sign : AnchorSign) (span : Span)
  | short (c : ShortClass) (negated : Bool) (span : Span)
  | property (span : Span)
  | bracket (c : ClassExpr) (span : Span)
  /-- Flags for what follows. -/
  | flags (change : FlagChange) (span : Span)
  | group (kind : GroupKind) (inner : Expression) (span : Span)
  | rep (inner : Expression) (least : Nat) (most : Option Nat) (span : Span)
  | seq (first rest : Expression)
  | alt (first rest : Expression)
  deriving DecidableEq, Repr

/-- Where the class is. -/
def ClassExpr.span : ClassExpr → Span
  | nothing s | short _ _ s | named _ _ s | property s | bracket _ _ s => s
  | literal l => l.span
  | range low high => ⟨low.span.start, high.span.stop⟩
  | union a b | binary _ a b => ⟨a.span.start, b.span.stop⟩

/-- Where the expression is. -/
def Expression.span : Expression → Span
  | empty s | dot s | anchor _ s | short _ _ s | property s | bracket _ s | flags _ s
  | group _ _ s | rep _ _ _ s => s
  | literal l => l.span
  | seq a b | alt a b => ⟨a.span.start, b.span.stop⟩

/-! ## Nesting -/

/-- How deep the class is nested; the rest of a chain of items is not deeper than its first one. -/
def ClassExpr.depth (inChain : Bool) : ClassExpr → Nat
  | nothing _ | literal _ | range _ _ | short _ _ _ | named _ _ _ | property _ => 0
  | bracket _ inner _ => inner.depth false + 1
  | union a b => max (a.depth false) (b.depth true) + (if inChain then 0 else 1)
  | binary _ a b => max (a.depth false) (b.depth false) + 1

/-- Which chain an expression is the rest of. -/
inductive Chain where
  | none
  | seq
  | alt
  deriving DecidableEq, Repr

/-- How deep the expression is nested; the rest of a chain is not deeper than its first part. -/
def Expression.depth (chain : Chain) : Expression → Nat
  | empty _ | literal _ | dot _ | anchor _ _ | short _ _ _ | property _ | flags _ _ => 0
  | bracket c _ => c.depth false
  | group _ inner _ | rep inner _ _ _ => inner.depth .none + 1
  | seq a b => max (a.depth .none) (b.depth .seq) + (if chain = .seq then 0 else 1)
  | alt a b => max (a.depth .none) (b.depth .alt) + (if chain = .alt then 0 else 1)

end Trendline.Pattern
