/-!
# UTF-8

Where a list of bytes stops being UTF-8.  A character takes one to four bytes;
the second byte of the longer forms is limited so that no character has two
forms, none is a surrogate, and none is beyond the last code point.
-/

namespace Trendline.Text

/-- Whether a byte lies in a range. -/
def byteIn (low high : Nat) (b : UInt8) : Bool :=
  low ≤ b.toNat && b.toNat ≤ high

/-- Whether a byte continues a character. -/
def isContinuation : UInt8 → Bool :=
  byteIn 0x80 0xbf

/-- Whether two bytes can begin a character of three. -/
def beginsThree (a b : UInt8) : Bool :=
  (a == 0xe0 && byteIn 0xa0 0xbf b) || (byteIn 0xe1 0xec a && isContinuation b) ||
    (a == 0xed && byteIn 0x80 0x9f b) || (byteIn 0xee 0xef a && isContinuation b)

/-- Whether two bytes can begin a character of four. -/
def beginsFour (a b : UInt8) : Bool :=
  (a == 0xf0 && byteIn 0x90 0xbf b) || (byteIn 0xf1 0xf3 a && isContinuation b) ||
    (a == 0xf4 && byteIn 0x80 0x8f b)

/-- How many bytes at the beginning of the list are whole characters. -/
def validLength : List UInt8 → Nat
  | [] => 0
  | a :: rest =>
    if byteIn 0 0x7f a then 1 + validLength rest
    else match rest with
      | [] => 0
      | b :: rest =>
        if byteIn 0xc2 0xdf a && isContinuation b then 2 + validLength rest
        else match rest with
          | [] => 0
          | c :: rest =>
            if beginsThree a b && isContinuation c then 3 + validLength rest
            else match rest with
              | [] => 0
              | d :: rest =>
                if beginsFour a b && isContinuation c && isContinuation d then 4 + validLength rest
                else 0

/-- The text that the bytes encode. -/
def decode? (bytes : List UInt8) : Option String :=
  String.fromUTF8? ⟨bytes.toArray⟩

end Trendline.Text
