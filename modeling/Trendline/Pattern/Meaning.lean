import Trendline.Pattern.Basic
import Trendline.Pattern.Expression

/-!
# What pattern expressions mean

The meaning of an expression depends on the flags at its place.  A group
restores the flags at its end; flags without a group last to the end of the
group that they are in, also over the branches of a choice.

Classes of one letter, properties, and letters of either case are known for
ASCII only.  With the flag for Unicode, which is set at first, they are faults;
without it a part is a fault that could match half of a character.
-/

namespace Trendline.Pattern

/-- The flags that bear on the meaning of an expression. -/
structure Flags where
  anyCase : Bool := false
  multiLine : Bool := false
  dotAll : Bool := false
  unicode : Bool := true
  carriageReturn : Bool := false
  deriving DecidableEq, Repr

namespace Flags

/-- Sets or clears a flag. -/
def set (f : Flags) : Flag × Bool → Flags
  | (.anyCase, on) => { f with anyCase := on }
  | (.multiLine, on) => { f with multiLine := on }
  | (.dotAll, on) => { f with dotAll := on }
  | (.unicode, on) => { f with unicode := on }
  | (.carriageReturn, on) => { f with carriageReturn := on }
  | (.lazy, _) | (.verbose, _) => f

/-- Sets and clears flags. -/
def change (f : Flags) (changes : FlagChange) : Flags :=
  changes.foldl set f

/-- Which characters are in words. -/
def wordScope (f : Flags) : WordScope :=
  if f.unicode then .everywhere else .ascii

end Flags

/-- A fault in a part of an expression. -/
def fault {α : Type} (cause : Cause) (span : Span) : Except Fault α :=
  .error { cause, span }

/-! ## Classes -/

/-- The ASCII characters of a class of one letter. -/
def ShortClass.chars : ShortClass → CharSet
  | digit => .ofRanges [('0', '9')]
  | space => .ofChars ['\t', '\n', '\x0b', '\x0c', '\r', ' ']
  | word => .ofRanges [('0', '9'), ('A', 'Z'), ('_', '_'), ('a', 'z')]

/-- The characters of a class with a name. -/
def NamedClass.chars : NamedClass → CharSet
  | alnum => .ofRanges [('0', '9'), ('A', 'Z'), ('a', 'z')]
  | alpha => .ofRanges [('A', 'Z'), ('a', 'z')]
  | ascii => .ofRanges [('\x00', '\x7f')]
  | blank => .ofChars ['\t', ' ']
  | cntrl => .ofRanges [('\x00', '\x1f'), ('\x7f', '\x7f')]
  | digit => .ofRanges [('0', '9')]
  | graph => .ofRanges [('!', '~')]
  | lower => .ofRanges [('a', 'z')]
  | print => .ofRanges [(' ', '~')]
  | punct => .ofRanges [('!', '/'), (':', '@'), ('[', '\x60'), ('\x7b', '~')]
  | space => ShortClass.chars .space
  | upper => .ofRanges [('A', 'Z')]
  | word => ShortClass.chars .word
  | xdigit => .ofRanges [('0', '9'), ('A', 'F'), ('a', 'f')]

/-- The class of one letter, or why it is unknown. -/
def shortSet (f : Flags) (c : ShortClass) (negated : Bool) (span : Span) : Except Fault CharSet :=
  if f.unicode then fault .shortClassUnknown span
  else if negated then fault .notUtf8 span
  else .ok c.chars

/-- Why a property is unknown. -/
def propertyFault {α : Type} (f : Flags) (span : Span) : Except Fault α :=
  fault (if f.unicode then .propertyUnknown else .unicodeForbidden) span

/-- The code of a character in a class, where only ASCII is in classes of bytes. -/
def Literal.codeIn (f : Flags) (l : Literal) : Except Fault Nat :=
  if f.unicode ∨ l.char.toNat < 0x80 then .ok l.char.toNat
  else if l.asByte ∧ l.char.toNat ≤ 0xff then fault .notUtf8 l.span
  else fault .unicodeForbidden l.span

/-- Whether the class lists anything. -/
def ClassExpr.hasItem : ClassExpr → Bool
  | nothing _ => false
  | literal _ | range _ _ | short _ _ _ | named _ _ _ | property _ => true
  | bracket _ inner _ => inner.hasItem
  | union a b | binary _ a b => a.hasItem || b.hasItem

/-- Adds the other case to a set, if the flag for that is set. -/
def foldCase (f : Flags) (listsAny : Bool) (span : Span) (s : CharSet) : Except Fault CharSet :=
  if !f.anyCase then .ok s
  else if !f.unicode then .ok (.anyCase s)
  else if listsAny then fault .caseUnknown span
  else .ok s

/-- Negates a set, which goes beyond ASCII. -/
def negate (f : Flags) (negated : Bool) (span : Span) (s : CharSet) : Except Fault CharSet :=
  if !negated then .ok s
  else if f.unicode then .ok (.compl s)
  else fault .notUtf8 span

/-- The operation on sets. -/
def ClassOp.apply : ClassOp → CharSet → CharSet → CharSet
  | inter => .inter
  | diff => .diff
  | symmDiff => .symmDiff

/-- The characters of a class. -/
def ClassExpr.chars (f : Flags) : ClassExpr → Except Fault CharSet
  | nothing _ => .ok .empty
  | literal l => do
    let n ← l.codeIn f
    return .range n n
  | range low high => return .range (← low.codeIn f) (← high.codeIn f)
  | short c negated span => shortSet f c negated span
  | named c negated span => do negate f negated span (← foldCase f true span c.chars)
  | property span => propertyFault f span
  | bracket negated inner span => do
    negate f negated span (← foldCase f inner.hasItem span (← inner.chars f))
  | union a b => return .union (← a.chars f) (← b.chars f)
  | binary op a b => do
    let s ← a.chars f
    let t ← b.chars f
    let t ← foldCase f b.hasItem b.span t
    let s ← foldCase f a.hasItem a.span s
    return op.apply s t

/-! ## Expressions -/

/-- What a character means. -/
def Literal.meaning (f : Flags) (l : Literal) : Except Fault Pattern :=
  let s := CharSet.single l.char
  if f.unicode then
    if f.anyCase then fault .caseUnknown l.span else .ok (.one s)
  else if l.asByte ∧ 0x80 ≤ l.char.toNat then fault .notUtf8 l.span
  else .ok (.one (if f.anyCase && l.char.isAlpha then .anyCase s else s))

/-- The characters that a dot stands for. -/
def dotChars (f : Flags) : CharSet :=
  if f.dotAll then .compl .empty
  else .compl (.ofChars (if f.carriageReturn then ['\n', '\r'] else ['\n']))

/-- What a dot means. -/
def dotMeaning (f : Flags) (span : Span) : Except Fault Pattern :=
  if f.unicode then .ok (.one (dotChars f)) else fault .notUtf8 span

/-- The condition that a sign stands for. -/
def AnchorSign.meaning (f : Flags) : AnchorSign → Anchor
  | caret =>
    if !f.multiLine then .textStart
    else if f.carriageReturn then .lineStartAfterReturn
    else .lineStart
  | dollar =>
    if !f.multiLine then .textEnd
    else if f.carriageReturn then .lineEndBeforeReturn
    else .lineEnd
  | textStart => .textStart
  | textEnd => .textEnd
  | word e => .word e f.wordScope

/-- The flags in a group. -/
def GroupKind.flags (f : Flags) : GroupKind → Flags
  | capture => f
  | plain change => f.change change

/-- What a group means. -/
def GroupKind.meaning (p : Pattern) : GroupKind → Pattern
  | capture => .group p
  | plain _ => p

/-- What an expression means, and the flags after it. -/
def Expression.meaning (f : Flags) : Expression → Except Fault (Pattern × Flags)
  | empty _ => return (.empty, f)
  | literal l => return (← l.meaning f, f)
  | dot span => return (← dotMeaning f span, f)
  | anchor sign _ => return (.anchor (sign.meaning f), f)
  | short c negated span => return (.one (← shortSet f c negated span), f)
  | property span => propertyFault f span
  | bracket c _ => return (.one (← c.chars f), f)
  | flags change _ => return (.empty, f.change change)
  | group kind inner _ => do
    let (p, _) ← inner.meaning (kind.flags f)
    return (kind.meaning p, f)
  | rep inner least most _ => do
    let (p, f) ← inner.meaning f
    return (p.repeated least most, f)
  | seq a b => do
    let (p, f) ← a.meaning f
    let (q, f) ← b.meaning f
    return (p.andThen q, f)
  | alt a b => do
    let (p, f) ← a.meaning f
    let (q, f) ← b.meaning f
    return (p.orElse q, f)

end Trendline.Pattern
