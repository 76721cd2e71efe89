import Trendline.Text.Hexadecimal
import Trendline.Text.Shapeless

/-!
# Quoted text

A text inside a message about a value stands in double quotes, with `\` before
a quote or a backslash and with names for the line breaks and the tab.  Other
characters that cannot be seen are written by their code in braces.
-/

namespace Trendline.Text

/-- One character between the quotes. -/
def escape (c : Char) : List Char :=
  if c = '"' then ['\\', '"']
  else if c = '\\' then ['\\', '\\']
  else if c = '\n' then ['\\', 'n']
  else if c = '\r' then ['\\', 'r']
  else if c = '\t' then ['\\', 't']
  else if c = '\x00' then ['\\', '0']
  else if isShapeless c then
    ['\\', 'u', '\x7b'] ++ hexDigits c.toNat ++ ['\x7d']
  else [c]

/-- The text in quotes. -/
def quoted (s : String) : String :=
  String.ofList ('"' :: s.toList.flatMap escape ++ ['"'])

end Trendline.Text
