import Mathlib.Data.Finset.Card
import Mathlib.Data.Finset.Dedup
import Trendline.LeastSquares.Polynomial
import Trendline.Proofs.Double.Order
import Trendline.Proofs.Reals

/-!
# Counting distinct abscissae

The abscissae are sorted and their runs counted.  That is the number of distinct
ones as long as the comparisons are those of a linear order: over the reals
always, and over doubles as long as none is a NaN.

* `Places`: the comparisons of a list are those of the places of its elements.
* `countDistinct_eq`, `length_eraseDups_eq`: counting runs, and dropping repeated
  values, counts the places.
* `Places.real`, `Places.double`: the reals, and doubles that are no NaNs.
-/

namespace Trendline.LeastSquares

variable {α : Type} [Scalar α]

section

variable {β : Type} [LinearOrder β]

/-- The comparisons of the elements of a list are those of their places. -/
structure Places (place : α → β) (u : List α) : Prop where
  lt : ∀ x ∈ u, ∀ y ∈ u, (x < y ↔ place x < place y)
  beq : ∀ x ∈ u, ∀ y ∈ u, ((x == y) = true ↔ place x = place y)

theorem Places.mono {place : α → β} {u v : List α} (h : Places place u) (hv : ∀ x ∈ v, x ∈ u) :
    Places place v :=
  ⟨fun x hx y hy => h.lt x (hv x hx) y (hv y hy), fun x hx y hy => h.beq x (hv x hx) y (hv y hy)⟩

/-! ## Sorting -/

theorem perm_insertDescending (x : α) (l : List α) : (insertDescending x l).Perm (x :: l) := by
  induction l with
  | nil => exact .refl _
  | cons y rest ih =>
    rw [insertDescending]
    split
    · exact (ih.cons y).trans (.swap x y rest)
    · exact .refl _

variable {place : α → β} {u : List α}

theorem pairwise_insertDescending {x : α} {l : List α} (h : Places place (x :: l))
    (hl : l.Pairwise fun a b => place b ≤ place a) :
    (insertDescending x l).Pairwise fun a b => place b ≤ place a := by
  induction l with
  | nil => exact List.pairwise_singleton _ x
  | cons y rest ih =>
    obtain ⟨hy, hrest⟩ := List.pairwise_cons.mp hl
    have hlt := h.lt x (by simp) y (by simp)
    rw [insertDescending]
    split
    · rename_i hxy
      refine List.pairwise_cons.mpr ⟨fun a ha => ?_, ih (h.mono (by simp; tauto)) hrest⟩
      rcases List.mem_cons.mp ((perm_insertDescending x rest).mem_iff.mp ha) with rfl | ha
      · exact (hlt.mp hxy).le
      · exact hy a ha
    · rename_i hxy
      have hle : place y ≤ place x := not_lt.mp fun h' => hxy (hlt.mpr h')
      refine List.pairwise_cons.mpr ⟨fun a ha => ?_, hl⟩
      rcases List.mem_cons.mp ha with rfl | ha
      · exact hle
      · exact (hy a ha).trans hle

/-- Inserting one value after the other sorts them. -/
theorem sorted_foldl : ∀ (u sorted : List α), Places place (u ++ sorted) →
    (sorted.Pairwise fun a b => place b ≤ place a) →
    let out := u.foldl (fun sorted x => insertDescending x sorted) sorted
    out.Perm (u ++ sorted) ∧ out.Pairwise fun a b => place b ≤ place a := by
  intro u
  induction u with
  | nil => exact fun sorted _ h => ⟨.refl _, h⟩
  | cons x rest ih =>
    intro sorted h hsorted
    have hx := pairwise_insertDescending (h.mono (by simp; tauto)) hsorted
    have hperm : (rest ++ insertDescending x sorted).Perm (x :: rest ++ sorted) :=
      ((perm_insertDescending x sorted).append_left rest).trans List.perm_middle
    obtain ⟨hout, hpair⟩ := ih _ (h.mono fun a ha => hperm.mem_iff.mp ha) hx
    exact ⟨hout.trans hperm, hpair⟩

/-! ## Counting -/

theorem countRuns_eq : ∀ {l : List α}, Places place l →
    (l.Pairwise fun a b => place b ≤ place a) → countRuns l = (l.map place).toFinset.card := by
  intro l
  induction l with
  | nil => exact fun _ _ => rfl
  | cons x l ih =>
    intro h hl
    cases l with
    | nil => simp [countRuns]
    | cons y rest =>
      obtain ⟨hx, hrest⟩ := List.pairwise_cons.mp hl
      have htail := ih (h.mono fun a => List.mem_cons_of_mem x) hrest
      have hbeq := h.beq x (by simp) y (by simp)
      have hset : ((x :: y :: rest).map place).toFinset =
          insert (place x) ((y :: rest).map place).toFinset := List.toFinset_cons
      rw [countRuns, htail, hset]
      cases hxy : x == y with
      | true =>
        rw [if_pos rfl, Nat.zero_add, Finset.insert_eq_of_mem]
        rw [hbeq.mp hxy]
        simp
      | false =>
        rw [if_neg Bool.false_ne_true, Finset.card_insert_of_notMem, Nat.add_comm]
        intro hmem
        obtain ⟨a, ha, hax⟩ := List.mem_map.mp (List.mem_toFinset.mp hmem)
        have hay : place a ≤ place y := by
          rcases List.mem_cons.mp ha with rfl | ha
          · exact le_rfl
          · exact (List.pairwise_cons.mp hrest).1 a ha
        have hyx := hx y (by simp)
        have heq : place x = place y := le_antisymm (hax ▸ hay) hyx
        rw [hbeq.mpr heq] at hxy
        cases hxy

/-- **Runs of a sorted list** are the distinct values. -/
theorem countDistinct_eq (h : Places place u) :
    countDistinct u = (u.map place).toFinset.card := by
  obtain ⟨hperm, hpair⟩ := sorted_foldl u [] (by simpa using h) .nil
  rw [List.append_nil] at hperm
  rw [countDistinct, countRuns_eq (h.mono fun a ha => hperm.mem_iff.mp ha) hpair]
  exact congrArg Finset.card (List.toFinset_eq_of_perm _ _ (hperm.map place))

theorem length_eraseDups_eq (h : Places place u) :
    u.eraseDups.length = (u.map place).toFinset.card := by
  generalize hn : u.length = n
  induction n using Nat.strongRecOn generalizing u with
  | ind n ih =>
    cases u with
    | nil => rfl
    | cons x rest =>
      have hmem : ∀ a, a ∈ rest.filter (fun b => !b == x) ↔ a ∈ rest ∧ place a ≠ place x := by
        intro a
        rw [List.mem_filter]
        refine and_congr_right fun ha => ?_
        have hbeq := h.beq a (by simp [ha]) x (by simp)
        rw [ne_eq, ← hbeq]
        simp
      have hset : ((x :: rest).map place).toFinset =
          insert (place x) ((rest.filter fun b => !b == x).map place).toFinset := by
        ext p
        simp only [List.map_cons, List.toFinset_cons, Finset.mem_insert, List.mem_toFinset,
          List.mem_map, hmem]
        constructor
        · rintro (rfl | ⟨a, ha, rfl⟩)
          · exact .inl rfl
          · exact or_iff_not_imp_left.mpr fun hne => ⟨a, ⟨ha, hne⟩, rfl⟩
        · rintro (rfl | ⟨a, ⟨ha, -⟩, rfl⟩)
          · exact .inl rfl
          · exact .inr ⟨a, ha, rfl⟩
      have hnot : place x ∉ ((rest.filter fun b => !b == x).map place).toFinset := by
        intro hp
        obtain ⟨a, ha, hax⟩ := List.mem_map.mp (List.mem_toFinset.mp hp)
        exact ((hmem a).mp ha).2 hax
      have hlen := List.length_filter_le (fun b => !b == x) rest
      rw [List.length_cons] at hn
      rw [List.eraseDups_cons, List.length_cons, hset, Finset.card_insert_of_notMem hnot,
        ih _ (by omega) (h.mono fun a ha => List.mem_cons_of_mem x ((hmem a).mp ha).1) rfl]

end

/-! ## Reals and doubles -/

theorem Places.real (u : List ℝ) : Places id u where
  lt _ _ _ _ := Iff.rfl
  beq _ _ _ _ := decide_eq_true_iff

theorem Places.double {u : List Float} (hu : ∀ x ∈ u, x.isNaN = false) :
    Places Double.position u where
  lt x hx y hy := Double.lt_iff_position (hu x hx) (hu y hy)
  beq x hx y hy := Double.beq_iff_position (hu x hx) (hu y hy)

end Trendline.LeastSquares
