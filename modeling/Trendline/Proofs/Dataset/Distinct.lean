import Trendline.Dataset.Csv
import Trendline.Proofs.Value.Agreement

/-!
# Distinct values

`distinctFrom` compares a value with the values kept so far only.  Where no
value is a NaN this is as good as a comparison with all earlier ones, because
agreement is an equivalence there.

* `pairwise_distinctFrom`: no two distinct values agree.
* `exists_agrees_distinctFrom`: every value agrees with one of them.
* `inOrder_distinctFrom`: they come in the order of their first appearance.
* `nanFree_ofBytes`: no cell of a dataset read from CSV is a NaN.
-/

namespace Trendline

/-- No value is a NaN. -/
def NaNFree (values : List Value) : Prop :=
  ∀ v ∈ values, v.isNaN = false

/-- Whether position `i` of the values holds the first that agrees with `v`, and holds `v`. -/
def FirstAt (values : List Value) (v : Value) (i : Nat) : Prop :=
  values[i]? = some v ∧ ∀ j < i, ∀ w, values[j]? = some w → w.agrees v = false

/-- The groups stand in the order in which the values first agree with each. -/
def InOrder (groups values : List Value) : Prop :=
  ∃ positions : List Nat, positions.Pairwise (· < ·) ∧
    List.Forall₂ (FirstAt values) groups positions

namespace Dataset

theorem mem_distinctFrom : ∀ {values seen : List Value} {g : Value},
    g ∈ distinctFrom seen values → g ∈ values ∧ ∀ s ∈ seen, s.agrees g = false := by
  intro values
  induction values with
  | nil =>
    intro seen g h
    cases h
  | cons v rest ih =>
    intro seen g h
    rw [distinctFrom] at h
    split at h
    · obtain ⟨hmem, hseen⟩ := ih h
      exact ⟨List.mem_cons_of_mem v hmem, hseen⟩
    · rename_i hany
      rcases List.mem_cons.mp h with rfl | h
      · refine ⟨List.mem_cons_self, fun s hs => ?_⟩
        rw [← Bool.not_eq_true]
        intro hagrees
        exact hany (List.any_eq_true.mpr ⟨s, hs, hagrees⟩)
      · obtain ⟨hmem, hseen⟩ := ih h
        exact ⟨List.mem_cons_of_mem v hmem, fun s hs => hseen s (List.mem_append_left [v] hs)⟩

theorem pairwise_distinctFrom : ∀ (values seen : List Value),
    (distinctFrom seen values).Pairwise (fun a b => a.agrees b = false) := by
  intro values
  induction values with
  | nil =>
    intro seen
    exact List.Pairwise.nil
  | cons v rest ih =>
    intro seen
    rw [distinctFrom]
    split
    · exact ih seen
    · refine List.Pairwise.cons (fun g hg => ?_) (ih _)
      exact (mem_distinctFrom hg).2 v (List.mem_append_right seen List.mem_cons_self)

/-! ## What has been kept -/

/-- Of the values gone through, some are kept, and every one agrees with a kept one. -/
structure Keeps (kept earlier : List Value) : Prop where
  mem : ∀ s ∈ kept, s ∈ earlier
  agrees : ∀ v ∈ earlier, ∃ s ∈ kept, s.agrees v = true

theorem Keeps.nil : Keeps [] [] :=
  ⟨nofun, nofun⟩

section

variable {kept earlier : List Value} {v : Value}

theorem Keeps.skip (h : Keeps kept earlier) (hv : ∃ s ∈ kept, s.agrees v = true) :
    Keeps kept (earlier ++ [v]) := by
  refine ⟨fun s hs => List.mem_append_left [v] (h.mem s hs), fun w hw => ?_⟩
  rcases List.mem_append.mp hw with hw | hw
  · exact h.agrees w hw
  · rw [List.mem_singleton.mp hw]
    exact hv

theorem Keeps.keep (h : Keeps kept earlier) (hv : v.agrees v = true) :
    Keeps (kept ++ [v]) (earlier ++ [v]) := by
  constructor
  · intro s hs
    rcases List.mem_append.mp hs with hs | hs
    · exact List.mem_append_left [v] (h.mem s hs)
    · exact List.mem_append_right earlier hs
  · intro w hw
    rcases List.mem_append.mp hw with hw | hw
    · obtain ⟨s, hs, hagrees⟩ := h.agrees w hw
      exact ⟨s, List.mem_append_left [v] hs, hagrees⟩
    · rw [List.mem_singleton.mp hw]
      exact ⟨v, List.mem_append_right kept List.mem_cons_self, hv⟩

end

theorem keeps_distinctFrom : ∀ (values : List Value) {kept earlier : List Value}, NaNFree values →
    Keeps kept earlier → Keeps (kept ++ distinctFrom kept values) (earlier ++ values) := by
  intro values
  induction values with
  | nil =>
    intro kept earlier hnan h
    rw [distinctFrom, List.append_nil, List.append_nil]
    exact h
  | cons v rest ih =>
    intro kept earlier hnan h
    obtain ⟨hv, hrest⟩ := List.forall_mem_cons.mp hnan
    rw [distinctFrom, List.append_cons earlier]
    by_cases hany : kept.any (·.agrees v) = true
    · rw [if_pos hany]
      exact ih hrest (h.skip (List.any_eq_true.mp hany))
    · rw [if_neg hany, List.append_cons kept]
      exact ih hrest (h.keep (Value.agrees_refl hv))

theorem exists_agrees_distinctFrom {values : List Value} (hnan : NaNFree values) :
    ∀ v ∈ values, ∃ g ∈ distinctFrom [] values, g.agrees v = true :=
  (keeps_distinctFrom values hnan .nil).agrees

/-! ## The order -/

/-- A value that agrees with none kept agrees with none gone through. -/
theorem Keeps.firstAt {kept earlier rest : List Value} {v : Value} (h : Keeps kept earlier)
    (hnan : NaNFree (earlier ++ v :: rest)) (hany : ¬ kept.any (·.agrees v) = true) :
    FirstAt (earlier ++ v :: rest) v earlier.length := by
  refine ⟨by simp, fun j hj w hw => ?_⟩
  rw [List.getElem?_append_left hj] at hw
  have hmem : w ∈ earlier := List.mem_of_getElem? hw
  obtain ⟨s, hs, hagrees⟩ := h.agrees w hmem
  rw [← Bool.not_eq_true]
  intro hwv
  refine hany (List.any_eq_true.mpr ⟨s, hs, ?_⟩)
  exact Value.agrees_trans (hnan s (List.mem_append_left _ (h.mem s hs)))
    (hnan w (List.mem_append_left _ hmem)) (hnan v (by simp)) hagrees hwv

theorem firstAt_distinctFrom : ∀ (values : List Value) {kept earlier : List Value},
    NaNFree (earlier ++ values) → Keeps kept earlier →
    ∃ positions : List Nat, positions.Pairwise (· < ·) ∧ (∀ i ∈ positions, earlier.length ≤ i) ∧
      List.Forall₂ (FirstAt (earlier ++ values)) (distinctFrom kept values) positions := by
  intro values
  induction values with
  | nil =>
    intro kept earlier hnan h
    exact ⟨[], List.Pairwise.nil, nofun, List.Forall₂.nil⟩
  | cons v rest ih =>
    intro kept earlier hnan h
    have hlength : (earlier ++ [v]).length = earlier.length + 1 := List.length_append
    have hnan' := hnan
    rw [List.append_cons] at hnan'
    rw [distinctFrom]
    by_cases hany : kept.any (·.agrees v) = true
    · obtain ⟨positions, hsorted, hlater, hfirst⟩ :=
        ih hnan' (h.skip (List.any_eq_true.mp hany))
      rw [if_pos hany, List.append_cons]
      refine ⟨positions, hsorted, fun i hi => ?_, hfirst⟩
      have := hlater i hi
      omega
    · obtain ⟨positions, hsorted, hlater, hfirst⟩ :=
        ih hnan' (h.keep (Value.agrees_refl (hnan v (by simp))))
      rw [← List.append_cons] at hfirst
      rw [if_neg hany]
      refine ⟨earlier.length :: positions, ?_, ?_, .cons (h.firstAt hnan hany) hfirst⟩
      · refine List.Pairwise.cons (fun i hi => ?_) hsorted
        have := hlater i hi
        omega
      · refine List.forall_mem_cons.mpr ⟨Nat.le_refl _, fun i hi => ?_⟩
        have := hlater i hi
        omega

theorem inOrder_distinctFrom {values : List Value} (hnan : NaNFree values) :
    InOrder (distinctFrom [] values) values := by
  have hnan' : NaNFree ([] ++ values) := hnan
  obtain ⟨positions, hsorted, -, hfirst⟩ := firstAt_distinctFrom values hnan' .nil
  exact ⟨positions, hsorted, hfirst⟩

/-! ## Cells read from CSV -/

theorem nanFree_resize {row : Row} (width : Nat) (h : NaNFree row.values) :
    NaNFree (row.resize width).values := by
  intro v hv
  rcases List.mem_append.mp hv with hv | hv
  · exact h v (List.mem_of_mem_take hv)
  · rw [List.eq_of_mem_replicate hv]
    rfl

theorem nanFree_ofRecords (source : String) (records : List (Nat × List String)) :
    ∀ row ∈ (ofRecords source records).rows, NaNFree row.values := by
  intro row hrow
  unfold ofRecords at hrow
  split at hrow
  · cases hrow
  · obtain ⟨row', hrow', rfl⟩ := List.mem_map.mp hrow
    obtain ⟨⟨line, fields⟩, _, rfl⟩ := List.mem_map.mp hrow'
    apply nanFree_resize
    intro v hv
    obtain ⟨raw, _, rfl⟩ := List.mem_map.mp hv
    exact Value.isNaN_parse raw

/-- **No cell of a dataset read from CSV is a NaN.** -/
theorem nanFree_ofBytes {source : String} {bytes : List UInt8} {d : Dataset}
    (h : ofBytes source bytes = .ok d) : ∀ row ∈ d.rows, NaNFree row.values := by
  unfold ofBytes at h
  split at h
  · cases h
    exact nanFree_ofRecords source _
  · split at h
    · cases h
      exact nanFree_ofRecords source _
    · cases h

end Dataset

end Trendline
