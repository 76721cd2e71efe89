import Mathlib.Data.UInt
import Trendline.Viewer.Screen

/-!
# Areas in the terminal

A terminal counts its columns and rows in words, and every block of the screen
lies in it, so no end of a block is more than a word can hold.

* `Area.Within`, `Area.IsCounted`: one area in another, and ends that are words.
* `exists_add?`, `exists_sub?`: a checked sum or difference is there if a word can hold it.
* `isCounted_chartArea`: words count to the ends of whatever a chart is drawn into.
-/

namespace Trendline.Viewer

/-! ## Words -/

theorem toNat_add_of_lt {a b : UInt16} (h : a.toNat + b.toNat < UInt16.size) :
    (a + b).toNat = a.toNat + b.toNat := by
  rw [UInt16.toNat_add]
  exact Nat.mod_eq_of_lt h

theorem exists_add? {a b : UInt16} (h : a.toNat + b.toNat < UInt16.size) :
    ∃ c, add? a b = some c ∧ c.toNat = a.toNat + b.toNat :=
  ⟨a + b, add?_eq_some_iff.mpr (toNat_add_of_lt h).symm, toNat_add_of_lt h⟩

theorem exists_sub? {a b : UInt16} (h : b.toNat ≤ a.toNat) :
    ∃ c, sub? a b = some c ∧ c.toNat = a.toNat - b.toNat := by
  have hsub := UInt16.toNat_sub_of_le a b (UInt16.le_iff_toNat_le.mpr h)
  exact ⟨a - b, sub?_eq_some_iff.mpr (by omega), hsub⟩

theorem toNat_sub_sub {a b c : UInt16} (h : b.toNat + c.toNat ≤ a.toNat) :
    (a - b - c).toNat = a.toNat - b.toNat - c.toNat := by
  have hb := UInt16.toNat_sub_of_le a b (UInt16.le_iff_toNat_le.mpr (by omega))
  rw [UInt16.toNat_sub_of_le _ _ (UInt16.le_iff_toNat_le.mpr (by omega)), hb]

theorem toNat_monus (a b : UInt16) : (monus a b).toNat = a.toNat - b.toNat := by
  rw [monus]
  split
  · exact UInt16.toNat_sub_of_le _ _ ‹_›
  · rename_i h
    rw [UInt16.le_iff_toNat_le] at h
    have hzero : (0 : UInt16).toNat = 0 := rfl
    omega

namespace Area

/-- Whether an area lies in another one. -/
structure Within (a frame : Area) : Prop where
  left : frame.x.toNat ≤ a.x.toNat
  right : a.right ≤ frame.right
  top : frame.y.toNat ≤ a.y.toNat
  bottom : a.bottom ≤ frame.bottom

/-- Whether words can count to the ends of an area. -/
structure IsCounted (a : Area) : Prop where
  right : a.right < UInt16.size
  bottom : a.bottom < UInt16.size

variable {a b c : Area}

theorem Within.refl (a : Area) : a.Within a :=
  ⟨le_rfl, le_rfl, le_rfl, le_rfl⟩

theorem Within.trans (h : a.Within b) (h' : b.Within c) : a.Within c where
  left := h'.left.trans h.left
  right := h.right.trans h'.right
  top := h'.top.trans h.top
  bottom := h.bottom.trans h'.bottom

theorem IsCounted.of_within (h : b.IsCounted) (hab : a.Within b) : a.IsCounted where
  right := hab.right.trans_lt h.right
  bottom := hab.bottom.trans_lt h.bottom

/-! ## Parts of an area -/

theorem toNat_sub_min (n w : UInt16) : (w - min n w).toNat + min n.toNat w.toNat = w.toNat := by
  have hle : min n w ≤ w := by
    rw [UInt16.le_iff_toNat_le, UInt16.toNat_min]
    exact Nat.min_le_right _ _
  rw [UInt16.toNat_sub_of_le _ _ hle, UInt16.toNat_min]
  omega

variable (n : UInt16) (h : a.IsCounted)

theorem within_aboveBase : (a.aboveBase n).Within a where
  left := le_rfl
  right := le_rfl
  top := le_rfl
  bottom := by
    have hheight := toNat_sub_min n a.height
    simp only [bottom, aboveBase]
    omega

include h

theorem within_belowTop : (a.belowTop n).Within a := by
  have hbottom := h.bottom
  have hheight := toNat_sub_min n a.height
  simp only [bottom] at hbottom
  have hy : (a.y + min n a.height).toNat = a.y.toNat + min n.toNat a.height.toNat := by
    rw [← UInt16.toNat_min] at hheight ⊢
    exact toNat_add_of_lt (by omega)
  constructor <;> simp only [bottom, right, belowTop] <;> omega

theorem toNat_besideSide_x : (a.besideSide n).x.toNat = a.x.toNat + min n.toNat a.width.toNat := by
  have hright := h.right
  have hwidth := toNat_sub_min n a.width
  simp only [right] at hright
  rw [← UInt16.toNat_min] at hwidth ⊢
  exact toNat_add_of_lt (by omega)

theorem right_besideSide : (a.besideSide n).right = a.right := by
  have hx := toNat_besideSide_x n h
  have hwidth : (a.besideSide n).width.toNat + min n.toNat a.width.toNat = a.width.toNat :=
    toNat_sub_min n a.width
  simp only [right]
  omega

theorem within_besideSide : (a.besideSide n).Within a where
  left := by
    rw [toNat_besideSide_x n h]
    omega
  right := (right_besideSide n h).le
  top := le_rfl
  bottom := le_rfl

/-! ## Frames -/

omit h in
theorem toNat_withinBorder_width : a.withinBorder.width.toNat = a.width.toNat - 2 :=
  toNat_monus _ _

omit h in
theorem toNat_withinBorder_height : a.withinBorder.height.toNat = a.height.toNat - 2 :=
  toNat_monus _ _

theorem toNat_withinBorder_x : a.withinBorder.x.toNat = a.x.toNat + min 1 a.width.toNat := by
  have hright := h.right
  have hone : (min 1 a.width).toNat = min 1 a.width.toNat := UInt16.toNat_min _ _
  simp only [right] at hright
  rw [withinBorder, toNat_add_of_lt (by omega), hone]

theorem toNat_withinBorder_y : a.withinBorder.y.toNat = a.y.toNat + min 1 a.height.toNat := by
  have hbottom := h.bottom
  have hone : (min 1 a.height).toNat = min 1 a.height.toNat := UInt16.toNat_min _ _
  simp only [bottom] at hbottom
  rw [withinBorder, toNat_add_of_lt (by omega), hone]

theorem within_withinBorder : a.withinBorder.Within a := by
  have hx := toNat_withinBorder_x h
  have hy := toNat_withinBorder_y h
  have hwidth := @toNat_withinBorder_width a
  have hheight := @toNat_withinBorder_height a
  refine ⟨by omega, ?_, by omega, ?_⟩ <;> simp only [right, bottom] <;> omega

theorem right_withinBorder (hwidth : a.withinBorder.width ≠ 0) :
    a.withinBorder.right + 1 = a.right := by
  have hx := toNat_withinBorder_x h
  have hwidth' : a.withinBorder.width.toNat ≠ 0 := fun h0 => hwidth (UInt16.toNat_inj.mp h0)
  rw [toNat_withinBorder_width] at hwidth'
  simp only [right, hx, toNat_withinBorder_width]
  omega

/-- A frame with columns leaves the first column of the terminal to its border. -/
theorem one_le_withinBorder_x (hwidth : a.withinBorder.width ≠ 0) : 1 ≤ a.withinBorder.x := by
  have hx := toNat_withinBorder_x h
  have hwidth' : a.withinBorder.width.toNat ≠ 0 := fun h0 => hwidth (UInt16.toNat_inj.mp h0)
  rw [toNat_withinBorder_width] at hwidth'
  rw [UInt16.le_iff_toNat_le]
  have hone : (1 : UInt16).toNat = 1 := rfl
  omega

end Area

theorem isCounted_body (width height : UInt16) :
    (((⟨0, 0, width, height⟩ : Area).belowTop barHeight).aboveBase barHeight).IsCounted := by
  have hwhole : (⟨0, 0, width, height⟩ : Area).IsCounted :=
    ⟨by simpa [Area.right] using width.toNat_lt, by simpa [Area.bottom] using height.toNat_lt⟩
  have hrest := hwhole.of_within (Area.within_belowTop barHeight hwhole)
  exact hrest.of_within (Area.within_aboveBase barHeight)

/-- **Every chart is drawn within its terminal**, above the lowest `n` rows of what is beside the
list. -/
theorem isCounted_chartArea (width height n : UInt16) :
    (((((⟨0, 0, width, height⟩ : Area).belowTop barHeight).aboveBase barHeight).besideSide
      listWidth).aboveBase n).IsCounted := by
  have hbody := isCounted_body width height
  exact (hbody.of_within (Area.within_besideSide listWidth hbody)).of_within
    (Area.within_aboveBase n)

end Trendline.Viewer
