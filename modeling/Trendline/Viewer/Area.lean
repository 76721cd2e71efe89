/-!
# Areas of the terminal

A terminal counts columns and rows in words of 16 bits.  An area is a rectangle
of cells.  Sums and differences of places are checked: there is no result where
a word cannot hold it.  Only the cuts below need no check, because they never
leave the area.
-/

namespace Trendline.Viewer

/-- The sum, if a word can hold it. -/
def add? (a b : UInt16) : Option UInt16 :=
  if a.toNat + b.toNat < UInt16.size then some (a + b) else none

/-- The difference, if it is not negative. -/
def sub? (a b : UInt16) : Option UInt16 :=
  if b ≤ a then some (a - b) else none

/-- The difference, or zero if it is negative. -/
def monus (a b : UInt16) : UInt16 :=
  if b ≤ a then a - b else 0

theorem add?_eq_some_iff {a b c : UInt16} : add? a b = some c ↔ a.toNat + b.toNat = c.toNat := by
  have hc := c.toNat_lt
  simp only [add?, UInt16.size]
  constructor
  · split
    · rintro ⟨⟩
      rw [UInt16.toNat_add]
      omega
    · simp
  · intro h
    rw [if_pos (by omega)]
    congr 1
    apply UInt16.toNat_inj.mp
    rw [UInt16.toNat_add]
    omega

theorem sub?_eq_some_iff {a b c : UInt16} : sub? a b = some c ↔ a.toNat = b.toNat + c.toNat := by
  have ha := a.toNat_lt
  have hb := b.toNat_lt
  simp only [sub?, UInt16.le_iff_toNat_le]
  constructor
  · split
    · rintro ⟨⟩
      rw [UInt16.toNat_sub]
      omega
    · simp
  · intro h
    rw [if_pos (by omega)]
    congr 1
    apply UInt16.toNat_inj.mp
    rw [UInt16.toNat_sub]
    omega

/-- A rectangle of cells. -/
structure Area where
  x : UInt16
  y : UInt16
  width : UInt16
  height : UInt16
  deriving DecidableEq, Repr

namespace Area

/-- The column to the right of the area. -/
def right (a : Area) : Nat :=
  a.x.toNat + a.width.toNat

/-- The row below the area. -/
def bottom (a : Area) : Nat :=
  a.y.toNat + a.height.toNat

/-- Whether the area has no cells. -/
def isEmpty (a : Area) : Bool :=
  a.width == 0 || a.height == 0

/-- The first rows of the area. -/
def top (n : UInt16) (a : Area) : Area :=
  { a with height := min n a.height }

/-- The area without its first rows. -/
def belowTop (n : UInt16) (a : Area) : Area :=
  { a with y := a.y + min n a.height, height := a.height - min n a.height }

/-- The last rows of the area. -/
def base (n : UInt16) (a : Area) : Area :=
  { a with y := a.y + (a.height - min n a.height), height := min n a.height }

/-- The area without its last rows. -/
def aboveBase (n : UInt16) (a : Area) : Area :=
  { a with height := a.height - min n a.height }

/-- The first columns of the area. -/
def side (n : UInt16) (a : Area) : Area :=
  { a with width := min n a.width }

/-- The area without its first columns. -/
def besideSide (n : UInt16) (a : Area) : Area :=
  { a with x := a.x + min n a.width, width := a.width - min n a.width }

/-- What a border of one cell leaves of the area. -/
def withinBorder (a : Area) : Area :=
  { x := a.x + min 1 a.width
    y := a.y + min 1 a.height
    width := monus a.width 2
    height := monus a.height 2 }

end Area

end Trendline.Viewer
