import Trendline.Text.Utf8

/-!
# Texts and their bytes

* `decode?_eq_some_iff`: the bytes of a text are the only ones that decode to it.
-/

namespace Trendline.Text

theorem toList_loop_eq (b : ByteArray) (i : Nat) (r : List UInt8) :
    ByteArray.toList.loop b i r = r.reverse ++ b.data.toList.drop i := by
  fun_induction ByteArray.toList.loop b i r with
  | case1 i r hlt ih =>
    have hi : i < b.data.size := hlt
    have hget : b.get! i = b.data.toList.get ⟨i, hi⟩ := by
      rw [List.get_eq_getElem, Array.getElem_toList]
      exact getElem!_pos b.data i hi
    rw [ih, List.drop_eq_getElem_cons hi, hget]
    simp
  | case2 i r hge =>
    have hi : b.data.toList.length ≤ i := Nat.not_lt.mp hge
    rw [List.drop_eq_nil_of_le hi, List.append_nil]

theorem toList_eq_data (b : ByteArray) : b.toList = b.data.toList := by
  rw [ByteArray.toList, toList_loop_eq]
  rfl

theorem decode?_eq_some_iff {bytes : List UInt8} {s : String} :
    decode? bytes = some s ↔ bytes = s.toUTF8.toList := by
  rw [decode?, String.fromUTF8?, toList_eq_data]
  constructor
  · intro h
    split at h
    · rw [← Option.some.inj h]
      rfl
    · cases h
  · rintro rfl
    exact dif_pos s.isValidUTF8

theorem decode?_toUTF8 (s : String) : decode? s.toUTF8.toList = some s :=
  decode?_eq_some_iff.mpr rfl

end Trendline.Text
