import Trendline.Chart.Picture
import Trendline.Proofs.Double.Rounding

/-!
# Where a frame puts a value

The place of a value on an axis is a part of the way from its first to its last
cell, which is kept in the unit interval.  Rounding does not lead out of it
again, and what is undefined goes to the first cell.

* `column_lt`, `row_lt`: every value has its cell in the grid.
-/

namespace Trendline.Chart

open Trendline.Double Float.Model Float.Model.UnpackedFloat

theorem position_cases (low high v : Float) : (position low high v).isNaN = true ∨
    UpTo 1 (position low high v).toModel.unpack := by
  have hclamp : position low high v =
      let t := (v - low) / (high - low)
      if t < 0 then (0 : Float) else if 1 < t then 1 else t := rfl
  rw [hclamp]
  dsimp only
  split
  · exact .inr (.zero .positive zero_le_one)
  · split
    · exact .inr upTo_one
    · rename_i hlow hhigh
      cases hnan : ((v - low) / (high - low)).isNaN with
      | true => exact .inl rfl
      | false => exact .inr (upTo_one_of_not_lt hlow hhigh hnan)

/-- The last cell of an axis of `n` cells. -/
def lastCell (n : Nat) : Float :=
  Double.ofRatio false n 1 - 1

section

variable {n : Nat} (hn : 2 ≤ n) (hle : n ≤ 2 ^ 53)

include hn hle

theorem upTo_lastCell : UpTo (n - 1 : Nat) (lastCell n).toModel.unpack := by
  obtain ⟨hup, hvalue⟩ := upTo_ofNat (by omega : 0 < n) hle
  obtain ⟨M, E, hc, hbound⟩ := exists_canonical (by omega : 0 < n - 1) (by omega)
  have hone : exactValue (1 : Float).toModel.unpack = 1 := by
    rw [unpack_one]
    norm_num [exactValue]
  rw [← hbound]
  refine upTo_sub hup ?_ hc ?_
  · rw [hvalue]
    exact upTo_one.mono (by exact_mod_cast (by omega : 1 ≤ n))
  · rw [hvalue, hone, hbound, Nat.cast_sub (by omega), Nat.cast_one]

theorem roundToWord_part (low high v : Float) :
    roundToWord (position low high v * lastCell n) ≤ n - 1 := by
  rcases position_cases low high v with hnan | hpart
  · rw [roundToWord, if_pos (isNaN_mul hnan _)]
    exact Nat.zero_le _
  · exact (upTo_mul hpart (upTo_lastCell hn hle)).roundToWord_le

theorem roundToWord_sub_part (low high v : Float) :
    roundToWord (lastCell n - position low high v * lastCell n) ≤ n - 1 := by
  rcases position_cases low high v with hnan | hpart
  · rw [roundToWord, if_pos (isNaN_sub _ (isNaN_mul hnan _))]
    exact Nat.zero_le _
  · -- what is gone is not more than the whole way, so the difference stays above zero
    have hlast := upTo_lastCell hn hle
    have hdone := upTo_mul hpart hlast.self
    obtain ⟨M, E, hc, hbound⟩ := exists_canonical (by omega : 0 < n - 1) (by omega)
    apply UpTo.roundToWord_le
    rw [← hbound]
    refine upTo_sub hlast hdone hc ?_
    have hfirst := hdone.exactValue_nonneg
    have hend := hlast.exactValue_le
    rw [hbound]
    linarith

end

theorem column_lt (f : Frame Float) (x : Float) (h : 2 ≤ f.width) (hle : f.width ≤ 2 ^ 53) :
    f.column x < f.width := by
  have hcolumn : f.column x =
      roundToWord (position f.xLow f.xHigh x * lastCell (max f.width 2)) := rfl
  rw [hcolumn, Nat.max_eq_left h]
  have := roundToWord_part h hle f.xLow f.xHigh x
  omega

theorem row_lt (f : Frame Float) (y : Float) (h : 2 ≤ f.height) (hle : f.height ≤ 2 ^ 53) :
    f.row y < f.height := by
  have hrow : f.row y = roundToWord (lastCell (max f.height 2) -
      position f.yLow f.yHigh y * lastCell (max f.height 2)) := rfl
  rw [hrow, Nat.max_eq_left h]
  have := roundToWord_sub_part h hle f.yLow f.yHigh y
  omega

end Trendline.Chart
