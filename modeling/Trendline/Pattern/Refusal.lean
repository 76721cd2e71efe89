import Trendline.Pattern.Meaning
import Trendline.Pattern.Reader
import Trendline.Pattern.Size

/-!
# Patterns from text

A text is refused if it is faulty, if the pattern would take too much memory,
or if it asks for the ends of words in all scripts, which no table tells.
-/

namespace Trendline.Pattern

/-- Why a text is refused as a pattern. -/
inductive Refusal where
  | faulty (text : String) (f : Fault)
  | tooLarge
  | wordsUnknown
  deriving DecidableEq, Repr

/-- The refusal as a message. -/
def Refusal.message : Refusal → String
  | faulty text f => f.message text
  | tooLarge => "Compiled regex exceeds size limit of " ++ toString sizeLimit ++ " bytes."
  | wordsUnknown => "error building NFA"

/-- The pattern of a text. -/
def read (text : String) : Except Refusal Pattern := do
  let e ← (Expression.read text).mapError (.faulty text)
  let (p, _) ← (e.meaning {}).mapError (.faulty text)
  if p.isTooLarge .forward then throw .tooLarge
  else if p.asksForWords then throw .wordsUnknown
  else if p.isTooLarge .backward then throw .tooLarge
  else return p

end Trendline.Pattern
