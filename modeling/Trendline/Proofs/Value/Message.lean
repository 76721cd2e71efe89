import Trendline.Failure
import Trendline.Proofs.Decimal.Reader
import Trendline.Proofs.Value.Parse

/-!
# Messages as cells

A number is read only if its whole text is used, and no part of a number is a blank.

* `read?_of_mem_blank`: a text with a blank in it denotes no number.
* `parse_message`: so what is said about a series is a cell with just these words.
-/

namespace Trendline

namespace Decimal

/-! ## Texts with a blank -/

variable {cs : List Char}

theorem mem_takeSign (h : ' ' ∈ cs) : ' ' ∈ (takeSign cs).2 := by
  unfold takeSign
  split
  · exact List.mem_of_ne_of_mem (by decide) h
  · exact List.mem_of_ne_of_mem (by decide) h
  · exact h

theorem mem_spanDigits (h : ' ' ∈ cs) : ' ' ∈ (spanDigits cs).2 := by
  rw [← List.takeWhile_append_dropWhile (p := Char.isDigit) (l := cs)] at h
  rcases List.mem_append.mp h with h | h
  · exact absurd (List.mem_takeWhile_imp h) (by decide)
  · exact h

theorem readExponent?_of_mem_blank (h : ' ' ∈ cs) : readExponent? cs = none := by
  cases cs with
  | nil => cases h
  | cons c rest =>
    rw [readExponent?]
    split
    · rename_i hc
      have hne : ' ' ≠ c := by
        rintro rfl
        exact absurd hc (by decide)
      have hafter := mem_spanDigits (mem_takeSign (List.mem_of_ne_of_mem hne h))
      have hafter : (spanDigits (takeSign rest).2).2.isEmpty = false :=
        List.isEmpty_eq_false_iff.mpr (List.ne_nil_of_mem hafter)
      dsimp only
      rw [hafter, Bool.not_false, Bool.or_true, if_pos rfl]
    · rfl

theorem readNumeral?_of_mem_blank (h : ' ' ∈ cs) : readNumeral? cs = none := by
  have hrest := mem_spanDigits h
  -- with or without a point, the blank is left to the exponent
  have hexponent : ∀ part : List Char × List Char, ' ' ∈ part.2 →
      (if (spanDigits cs).1.isEmpty && part.1.isEmpty then none
      else (readExponent? part.2).map fun e =>
        (⟨digitsValue ((spanDigits cs).1 ++ part.1), e - (part.1.length : Nat)⟩ : Numeral)) =
        none := by
    intro part hpart
    rw [readExponent?_of_mem_blank hpart, Option.map_none, ite_self]
  unfold readNumeral?
  dsimp only
  split
  · rename_i after hafter
    rw [hafter] at hrest
    exact hexponent _ (mem_spanDigits (List.mem_of_ne_of_mem (by decide) hrest))
  · exact hexponent ([], (spanDigits cs).2) hrest

theorem namedValue?_of_mem_blank (negative : Bool) (h : ' ' ∈ cs) :
    namedValue? negative (String.ofList (cs.map Char.toLower)) = none := by
  have hne : ∀ name : String, ' ' ∉ name.toList →
      String.ofList (cs.map Char.toLower) ≠ name := by
    rintro name hname rfl
    rw [String.toList_ofList] at hname
    exact hname (List.mem_map.mpr ⟨' ', h, rfl⟩)
  rw [namedValue?, if_neg (hne _ (by decide)), if_neg]
  exact not_or.mpr ⟨hne _ (by decide), hne _ (by decide)⟩

theorem read?_of_mem_blank (h : ' ' ∈ cs) : read? cs = none := by
  have hrest := mem_takeSign h
  rw [read?]
  dsimp only
  rw [readNumeral?_of_mem_blank hrest]
  exact namedValue?_of_mem_blank _ hrest

end Decimal

/-! ## Phrases -/

/-- Whether a text begins without a blank and has one further on. -/
def opensPhrase (cs : List Char) : Bool :=
  cs.head?.any (!Text.isBlank ·) && cs.contains ' '

/-- Whether a text ends without a blank. -/
def closesPhrase (cs : List Char) : Bool :=
  cs.getLast?.any (!Text.isBlank ·)

theorem opensPhrase_append {cs : List Char} (h : opensPhrase cs = true) (ds : List Char) :
    opensPhrase (cs ++ ds) = true := by
  obtain ⟨hhead, hblank⟩ := Bool.and_eq_true_iff.mp h
  cases cs with
  | nil => cases hhead
  | cons c rest =>
    refine Bool.and_eq_true_iff.mpr ⟨hhead, ?_⟩
    rw [List.contains_iff_mem] at hblank ⊢
    exact List.mem_append_left ds hblank

theorem closesPhrase_append (cs : List Char) {ds : List Char} (h : closesPhrase ds = true) :
    closesPhrase (cs ++ ds) = true := by
  rw [closesPhrase] at h ⊢
  rw [List.getLast?_append]
  cases hlast : ds.getLast? with
  | none =>
    rw [hlast] at h
    cases h
  | some c =>
    rw [hlast] at h
    exact h

theorem parse_of_phrase {s : String} (hopens : opensPhrase s.toList = true)
    (hcloses : closesPhrase s.toList = true) : Value.parse s = .text s := by
  obtain ⟨hhead, hblank⟩ := Bool.and_eq_true_iff.mp hopens
  have htrim : Text.trim s = s := by
    refine Text.trim_of_isTrimmed ⟨fun c hc => ?_, fun c hc => ?_⟩
    · rw [hc] at hhead
      exact (Bool.not_eq_true' _).mp hhead
    · rw [closesPhrase, hc] at hcloses
      exact (Bool.not_eq_true' _).mp hcloses
  rw [Value.parse, htrim, Decimal.read?_of_mem_blank (List.contains_iff_mem.mp hblank)]

/-! ## Messages -/

theorem isBlank_of_isDigit {c : Char} (h : c.isDigit = true) : Text.isBlank c = false := by
  obtain ⟨hlow, hhigh⟩ : 48 ≤ c.toNat ∧ c.toNat ≤ 57 := Char.isDigit_iff_toNat.mp h
  simp only [Text.isBlank, Text.inRanges, Text.blankRanges, List.any_cons, List.any_nil,
    Bool.or_eq_false_iff, Bool.and_eq_false_iff, decide_eq_false_iff_not, and_true]
  omega

theorem closesPhrase_toString (n : Nat) : closesPhrase (toString n).toList = true := by
  have hdigits : (toString n).toList = Decimal.digitsOf n := String.toList_ofList
  have hne := Decimal.digitsOf_ne_nil n
  have hlast := isBlank_of_isDigit (Decimal.allDigits_digitsOf n _ (List.getLast_mem hne))
  rw [hdigits, closesPhrase, List.getLast?_eq_some_getLast hne, Option.any_some, hlast]
  rfl

/-- Every message is a phrase, whatever numbers are in it. -/
theorem exists_phrase_message (e : FitError Float) : ∃ first middle last : String,
    e.message = first ++ middle ++ last ∧ opensPhrase first.toList = true ∧
      closesPhrase last.toList = true := by
  cases e with
  | insufficientData needed got =>
    refine ⟨"Insufficient data: need at least ", toString needed ++ " points, got ", toString got,
      ?_, by decide, closesPhrase_toString got⟩
    rw [← String.append_assoc]
    rfl
  | nonPositive axis index value =>
    refine ⟨"Non-positive ", axis.name ++ " value " ++ Decimal.Style.plain.write value ++
      " at index " ++ toString index, " (logarithm undefined)", ?_, by decide, by decide⟩
    simp only [← String.append_assoc]
    rfl
  | degenerate x =>
    refine ⟨"All x values are identical (", Decimal.Style.plain.write x,
      "); the fit is underdetermined", rfl, by decide, by decide⟩
  | zeroDegree =>
    exact ⟨"Polynomial ", "degree must be at ", "least 1", rfl, by decide, by decide⟩
  | illConditioned =>
    exact ⟨"Least-squares ", "system is too ill-conditioned to ", "solve", rfl, by decide, by decide⟩

theorem opensPhrase_message (e : FitError Float) : opensPhrase e.message.toList = true := by
  obtain ⟨first, middle, last, hmessage, hopens, -⟩ := exists_phrase_message e
  rw [hmessage, String.toList_append, String.toList_append]
  exact opensPhrase_append (opensPhrase_append hopens _) _

theorem closesPhrase_message (e : FitError Float) : closesPhrase e.message.toList = true := by
  obtain ⟨first, middle, last, hmessage, -, hcloses⟩ := exists_phrase_message e
  rw [hmessage, String.toList_append]
  exact closesPhrase_append _ hcloses

/-- **The message about a series is a text.** -/
theorem parse_message (e : FitError Float) : Value.parse e.message = .text e.message :=
  parse_of_phrase (opensPhrase_message e) (closesPhrase_message e)

theorem isAllBlank_message (e : FitError Float) : Text.isAllBlank e.message = false := by
  obtain ⟨hhead, -⟩ := Bool.and_eq_true_iff.mp (opensPhrase_message e)
  obtain ⟨c, hc, hblank⟩ := (Option.any_eq_true _ _).mp hhead
  rw [Text.isAllBlank, List.all_eq_false]
  refine ⟨c, List.mem_of_head? hc, fun h => ?_⟩
  rw [h] at hblank
  cases hblank

end Trendline
