import Mathlib.Data.List.Infix
import Trendline.Text.Blank

/-!
# Cut texts

A text is cut at the first place where the separator stands.

* `splitOnce_eq_none_iff`: only a text without the separator is not cut.
* `splitOnce_eq_some_iff`: the separator is at the cut, and neither before it nor begun before it.
* `isCut_single_iff`, `isCut_double_iff`: the cut at one character, and at one character twice.
-/

namespace Trendline.Text

variable {separator cs before after : List Char} {c : Char}

theorem splitOnce_eq_none_iff : splitOnce separator cs = none ↔ ¬ separator <:+: cs := by
  induction cs with
  | nil =>
    rw [splitOnce, List.infix_nil]
    split <;> simp_all
  | cons c rest ih =>
    rw [splitOnce, List.infix_cons_iff, ← List.isPrefixOf_iff_prefix]
    split
    · rename_i hpre
      simp [hpre]
    · rename_i hpre
      rw [Option.map_eq_none_iff, ih]
      simp [hpre]

/-- What is before the cut, with all but the end of the separator. -/
theorem isPrefix_cut (before separator after : List Char) :
    before ++ separator.dropLast <+: before ++ separator ++ after := by
  rw [List.append_assoc]
  exact (List.prefix_append_right_inj before).mpr
    ((List.dropLast_prefix separator).trans (List.prefix_append separator after))

/-- A separator that stands before the cut ends before the cut does. -/
theorem isPrefix_of_isPrefix_cut (hne : before ≠ [])
    (h : separator <+: before ++ separator ++ after) :
    separator <+: before ++ separator.dropLast := by
  refine List.prefix_of_prefix_length_le h (isPrefix_cut before separator after) ?_
  have := List.length_pos_iff.mpr hne
  rw [List.length_append, List.length_dropLast]
  omega

/-- The separator stands between the two parts of the text, and neither in the first part nor so that it
only begins there. -/
structure IsCut (separator cs before after : List Char) : Prop where
  text : cs = before ++ separator ++ after
  first : ¬ separator <:+: before ++ separator.dropLast

theorem isCut_iff_of_isPrefix (hne : separator ≠ []) (hpre : separator <+: cs) :
    IsCut separator cs before after ↔ before = [] ∧ after = cs.drop separator.length := by
  constructor
  · rintro ⟨rfl, hfirst⟩
    have hnil : before = [] := by
      by_contra hbefore
      exact hfirst (isPrefix_of_isPrefix_cut hbefore hpre).isInfix
    exact ⟨hnil, by rw [hnil]; exact List.drop_left.symm⟩
  · rintro ⟨rfl, rfl⟩
    refine ⟨List.prefix_append_drop hpre, fun h => ?_⟩
    have hle := h.length_le
    have hpos := List.length_pos_iff.mpr hne
    rw [List.nil_append, List.length_dropLast] at hle
    omega

theorem isCut_cons_iff {rest : List Char} (hpre : ¬ separator <+: c :: rest) :
    IsCut separator (c :: rest) before after ↔
      ∃ others, before = c :: others ∧ IsCut separator rest others after := by
  constructor
  · rintro ⟨htext, hfirst⟩
    cases before with
    | nil => exact absurd (htext ▸ List.prefix_append separator after) hpre
    | cons b others =>
      obtain ⟨rfl, hrest⟩ : c = b ∧ rest = others ++ separator ++ after := List.cons.inj htext
      exact ⟨others, rfl, hrest, fun h => hfirst (List.infix_cons h)⟩
  · rintro ⟨others, rfl, rfl, hfirst⟩
    refine ⟨rfl, fun h => ?_⟩
    rcases List.infix_cons_iff.mp h with h | h
    · exact hpre (h.trans (isPrefix_cut (c :: others) separator after))
    · exact hfirst h

/-- **A text is cut where the separator stands first.** -/
theorem splitOnce_eq_some_iff (hne : separator ≠ []) :
    splitOnce separator cs = some (before, after) ↔ IsCut separator cs before after := by
  induction cs generalizing before with
  | nil =>
    rw [splitOnce, if_neg hne]
    refine ⟨nofun, fun h => absurd h.text.symm ?_⟩
    exact List.append_ne_nil_of_left_ne_nil (List.append_ne_nil_of_right_ne_nil before hne) after
  | cons c rest ih =>
    rw [splitOnce]
    split
    · rename_i hpre
      rw [isCut_iff_of_isPrefix hne (List.isPrefixOf_iff_prefix.mp hpre), Option.some.injEq,
        Prod.mk.injEq, eq_comm, eq_comm (a := List.drop _ _)]
    · rename_i hpre
      rw [isCut_cons_iff fun h => hpre (List.isPrefixOf_iff_prefix.mpr h), Option.map_eq_some_iff]
      constructor
      · rintro ⟨⟨others, _⟩, hrest, hcut⟩
        cases hcut
        exact ⟨others, rfl, ih.mp hrest⟩
      · rintro ⟨others, rfl, hcut⟩
        exact ⟨(others, after), ih.mpr hcut, rfl⟩

theorem isCut_single_iff :
    IsCut [c] cs before after ↔ cs = before ++ c :: after ∧ c ∉ before := by
  have hfirst : [c] <:+: before ++ [c].dropLast ↔ c ∈ before := by
    rw [List.dropLast_singleton, List.append_nil, List.singleton_infix_iff]
  constructor
  · exact fun h => ⟨by rw [h.text, List.append_assoc]; rfl, fun hc => h.first (hfirst.mpr hc)⟩
  · exact fun h => ⟨by rw [h.1, List.append_assoc]; rfl, fun hc => h.2 (hfirst.mp hc)⟩

theorem isCut_double_iff :
    IsCut [c, c] cs before after ↔
      cs = before ++ c :: c :: after ∧ ¬ [c, c] <:+: before ∧ before.getLast? ≠ some c := by
  have hlast : [c, c] <:+ before ++ [c] ↔ before.getLast? = some c := by
    rw [List.getLast?_eq_some_iff]
    constructor
    · rintro ⟨l, hl⟩
      exact ⟨l, (List.append_cancel_right (by rw [← hl, List.append_assoc]; rfl)).symm⟩
    · rintro ⟨l, rfl⟩
      exact ⟨l, by rw [List.append_assoc]; rfl⟩
  have hfirst : [c, c] <:+: before ++ [c, c].dropLast ↔
      before.getLast? = some c ∨ [c, c] <:+: before := by
    rw [← hlast]
    exact List.infix_concat_iff
  constructor
  · intro h
    obtain ⟨hgetLast, hinfix⟩ := not_or.mp (mt hfirst.mpr h.first)
    exact ⟨by rw [h.text, List.append_assoc]; rfl, hinfix, hgetLast⟩
  · rintro ⟨htext, hinfix, hgetLast⟩
    exact ⟨by rw [htext, List.append_assoc]; rfl, fun h => (hfirst.mp h).elim hgetLast hinfix⟩

end Trendline.Text
