/-!
# Anchors

Conditions on a place between two characters of a text, which use up no
character: the ends of the text, the ends of a line, and the ends of a word.
-/

namespace Trendline

/-- How a place lies to a word. -/
inductive WordEdge where
  /-- Between a character of a word and another one. -/
  | anyEdge
  /-- Between two characters of a word, or two others. -/
  | noEdge
  | start
  | stop
  /-- After a character that is not of a word. -/
  | startHalf
  /-- Before a character that is not of a word. -/
  | stopHalf
  deriving DecidableEq, Repr

/-- Which characters are in words. -/
inductive WordScope where
  /-- ASCII letters, digits and the underscore. -/
  | ascii
  /-- The letters and digits of all scripts. -/
  | everywhere
  deriving DecidableEq, Repr

/-- A condition on a place. -/
inductive Anchor where
  | textStart
  | textEnd
  | lineStart
  | lineEnd
  /-- The start of a line, where a carriage return ends a line too. -/
  | lineStartAfterReturn
  /-- The end of a line, where a carriage return ends a line too. -/
  | lineEndBeforeReturn
  | word (e : WordEdge) (scope : WordScope)
  deriving DecidableEq, Repr

/-- Whether an ASCII character may be in a word. -/
def isWordChar (c : Char) : Bool :=
  c.isAlphanum || c == '_'

/-- Whether the condition holds between two characters of which it is known if they are in words. -/
def WordEdge.holds (before after : Bool) : WordEdge → Bool
  | anyEdge => before != after
  | noEdge => before == after
  | start => !before && after
  | stop => before && !after
  | startHalf => !before
  | stopHalf => !after

namespace Anchor

/--
Whether the condition holds between two characters, of which there is none at the ends of the text.
Words are those of ASCII letters; patterns that ask for others are refused.
-/
def holds (before after : Option Char) : Anchor → Bool
  | textStart => before.isNone
  | textEnd => after.isNone
  | lineStart => before.isNone || before == some '\n'
  | lineEnd => after.isNone || after == some '\n'
  | lineStartAfterReturn =>
    before.isNone || before == some '\n' || before == some '\r' && after != some '\n'
  | lineEndBeforeReturn =>
    after.isNone || after == some '\r' || after == some '\n' && before != some '\r'
  | word e _ => e.holds (before.any isWordChar) (after.any isWordChar)

end Anchor

end Trendline
