import Trendline.Text.Ranges

/-!
# Blanks

The characters with the property White_Space, and the trimming of a text by
them.  Cells, names and numerals are trimmed this way; where only the ASCII
blanks count, the caller says so by passing its own test to `trimBy`.
-/

namespace Trendline.Text

/-- The code points with the property White_Space, as ranges. -/
def blankRanges : List (Nat × Nat) :=
  [(0x09, 0x0d), (0x20, 0x20), (0x85, 0x85), (0xa0, 0xa0), (0x1680, 0x1680), (0x2000, 0x200a),
    (0x2028, 0x2029), (0x202f, 0x202f), (0x205f, 0x205f), (0x3000, 0x3000)]

/-- Whether a character is a blank. -/
def isBlank (c : Char) : Bool :=
  inRanges blankRanges c

/-- A list without the elements at either end that satisfy the test. -/
def trimBy {σ : Type} (p : σ → Bool) (cs : List σ) : List σ :=
  ((cs.dropWhile p).reverse.dropWhile p).reverse

/-- A list without the elements at its end that satisfy the test. -/
def trimEndBy {σ : Type} (p : σ → Bool) (cs : List σ) : List σ :=
  (cs.reverse.dropWhile p).reverse

/-- A text without the blanks around it. -/
def trim (s : String) : String :=
  String.ofList (trimBy isBlank s.toList)

/-- Whether a text has nothing but blanks. -/
def isAllBlank (s : String) : Bool :=
  s.toList.all isBlank

/-- Cuts a text at the first occurrence of a separator, which is dropped. -/
def splitOnce (separator : List Char) : List Char → Option (List Char × List Char)
  | [] => if separator = [] then some ([], []) else none
  | c :: cs =>
    if separator.isPrefixOf (c :: cs) then some ([], (c :: cs).drop separator.length)
    else (splitOnce separator cs).map fun (before, after) => (c :: before, after)

end Trendline.Text
