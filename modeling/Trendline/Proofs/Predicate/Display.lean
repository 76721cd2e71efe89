import Trendline.Predicate
import Trendline.Proofs.Errors
import Trendline.Proofs.Text.Cut
import Trendline.Proofs.Value.Display

/-!
# Displayed predicates

A predicate is displayed in the form it is written in, but the blanks that kept its sign apart from
other `=` are gone.

* `isParsed_of_parse`: what is known of a predicate that was read from a text.
* `parse_display_equals`, `parse_display_columnsEqual`: a sign that stands apart is read as it is.
* `parse_display_equals_of_head?`, `parse_display_columnsEqual_of_getLast?`: one that touches another
  `=` is not.
* `parse_display_iff`: when the display is read as the predicate.
-/

namespace Trendline.Predicate

/-- The sign of a comparison of columns. -/
abbrev doubleSign : List Char := ['=', '=']

/-- What is known of a predicate that was read from a text. -/
inductive IsParsed : Predicate → Prop where
  | equals {column : String} {value : Value} (htrim : Text.IsTrimmed column) (hne : column ≠ "")
      (hcolumn : '=' ∉ column.toList) (hvalue : value.IsParsed)
      (hdouble : ¬ doubleSign <:+: value.display.toList) : IsParsed (.equals column value)
  | columnsEqual {left right : String} (hleft : Text.IsTrimmed left) (hright : Text.IsTrimmed right)
      (hleft_ne : left ≠ "") (hright_ne : right ≠ "") (hdouble : ¬ doubleSign <:+: left.toList) :
      IsParsed (.columnsEqual left right)

/-- No other `=` touches the sign in the display of the predicate. -/
def StandsApart : Predicate → Prop
  | equals _ (.number _) => True
  | equals _ (.text s) => s.toList.head? ≠ some '='
  | columnsEqual left _ => left.toList.getLast? ≠ some '='

instance : (p : Predicate) → Decidable p.StandsApart
  | equals _ (.number _) => isTrue trivial
  | equals _ (.text s) => inferInstanceAs (Decidable (s.toList.head? ≠ some '='))
  | columnsEqual left _ => inferInstanceAs (Decidable (left.toList.getLast? ≠ some '='))

/-! ## What is read from a text -/

section

variable {source : String} {before after : List Char}

theorem parse_of_double (h : source.toList = before ++ '=' :: '=' :: after)
    (hbefore : ¬ doubleSign <:+: before) (hlast : before.getLast? ≠ some '=') :
    parse source = if piece before = "" ∨ piece after = "" then .error (.missingColumn source)
      else .ok (columnsEqual (piece before) (piece after)) := by
  have hcut := Text.isCut_double_iff.mpr ⟨h, hbefore, hlast⟩
  rw [parse, (Text.splitOnce_eq_some_iff (List.cons_ne_nil _ _)).mpr hcut]

theorem parse_of_single (h : source.toList = before ++ '=' :: after)
    (hdouble : ¬ doubleSign <:+: source.toList) (hbefore : '=' ∉ before) :
    parse source = if piece before = "" then .error (.emptyColumn source)
      else .ok (equals (piece before) (Value.parse (String.ofList after))) := by
  have hcut := Text.isCut_single_iff.mpr ⟨h, hbefore⟩
  rw [parse, Text.splitOnce_eq_none_iff.mpr hdouble,
    (Text.splitOnce_eq_some_iff (List.cons_ne_nil _ _)).mpr hcut]

end

theorem piece_toList {s : String} (h : Text.IsTrimmed s) : piece s.toList = s := by
  rw [piece, String.ofList_toList, Text.trim_of_isTrimmed h]

theorem piece_isInfix (cs : List Char) : (piece cs).toList <:+: cs := by
  have h := Text.trim_isInfix (String.ofList cs)
  rwa [String.toList_ofList] at h

theorem isTrimmed_piece (cs : List Char) : Text.IsTrimmed (piece cs) :=
  Text.isTrimmed_trim _

theorem isParsed_of_parse {source : String} {p : Predicate} (h : parse source = .ok p) :
    p.IsParsed := by
  rw [parse] at h
  split at h
  · rename_i left right hsplit
    have hcut := (Text.splitOnce_eq_some_iff (List.cons_ne_nil _ _)).mp hsplit
    obtain ⟨-, hleft, -⟩ := Text.isCut_double_iff.mp hcut
    split at h
    · cases h
    · rename_i hne
      obtain ⟨hleft_ne, hright_ne⟩ := not_or.mp hne
      cases h
      exact .columnsEqual (isTrimmed_piece left) (isTrimmed_piece right) hleft_ne hright_ne
        fun hdouble => hleft (hdouble.trans (piece_isInfix left))
  · rename_i hnone
    have hdouble := Text.splitOnce_eq_none_iff.mp hnone
    split at h
    · cases h
    · rename_i column value hsplit
      have hcut := (Text.splitOnce_eq_some_iff (List.cons_ne_nil _ _)).mp hsplit
      obtain ⟨hsource, hcolumn⟩ := Text.isCut_single_iff.mp hcut
      split at h
      · cases h
      · rename_i hne
        cases h
        refine .equals (isTrimmed_piece column) hne (fun hmem => hcolumn ((piece_isInfix column).mem hmem))
          (Value.isParsed_parse _) fun hvalue => hdouble ?_
        have hvalue := Value.infix_of_infix_display (c := '=') List.mem_cons_self (by decide) hvalue
        rw [String.toList_ofList] at hvalue
        rw [hsource]
        exact hvalue.trans ((List.suffix_cons '=' value).trans (List.suffix_append column _)).isInfix

/-! ## What is read from the display -/

theorem not_doubleSign_infix {before after : List Char} (hbefore : '=' ∉ before)
    (hafter : ¬ doubleSign <:+: after) (hhead : after.head? ≠ some '=') :
    ¬ doubleSign <:+: before ++ '=' :: after := by
  induction before with
  | nil =>
    rw [List.nil_append, List.infix_cons_iff, not_or]
    refine ⟨fun h => hhead ?_, hafter⟩
    obtain ⟨rest, rfl⟩ := (List.prefix_cons_inj '=').mp h
    exact List.head?_cons
  | cons c rest ih =>
    rw [List.mem_cons, not_or] at hbefore
    rw [List.cons_append, List.infix_cons_iff, not_or]
    exact ⟨fun h => hbefore.1 (List.cons_prefix_cons.mp h).1, ih hbefore.2⟩

theorem getLast?_ne_of_not_mem {cs : List Char} {c : Char} (h : c ∉ cs) : cs.getLast? ≠ some c :=
  fun hlast => h (List.mem_of_getLast? hlast)

section

variable {column left right : String} {value : Value}

theorem toList_display_equals (column : String) (value : Value) :
    (equals column value).display.toList = column.toList ++ '=' :: value.display.toList := by
  simp [display]

theorem toList_display_columnsEqual (left right : String) :
    (columnsEqual left right).display.toList = left.toList ++ '=' :: '=' :: right.toList := by
  simp [display]

/-- The sign of a comparison with a value is read as such when the value does not begin with another. -/
theorem parse_display_equals (htrim : Text.IsTrimmed column) (hne : column ≠ "")
    (hcolumn : '=' ∉ column.toList) (hdouble : ¬ doubleSign <:+: value.display.toList)
    (hhead : value.display.toList.head? ≠ some '=') :
    parse (equals column value).display = .ok (equals column (Value.parse value.display)) := by
  have hapart : ¬ doubleSign <:+: (equals column value).display.toList := by
    rw [toList_display_equals]
    exact not_doubleSign_infix hcolumn hdouble hhead
  rw [parse_of_single (toList_display_equals column value) hapart hcolumn, piece_toList htrim, if_neg hne,
    String.ofList_toList]

/-- Two signs that have come together are read as the sign of a comparison of columns. -/
theorem parse_display_equals_of_head? {s : String} {rest : List Char} (htrim : Text.IsTrimmed column)
    (hne : column ≠ "") (hcolumn : '=' ∉ column.toList) (hs : s.toList = '=' :: rest) :
    parse (equals column (.text s)).display =
      if piece rest = "" then .error (.missingColumn (equals column (.text s)).display)
      else .ok (columnsEqual column (piece rest)) := by
  have hdisplay := toList_display_equals column (.text s)
  rw [Value.display, hs] at hdisplay
  have hdouble : ¬ doubleSign <:+: column.toList := fun h => hcolumn (h.mem List.mem_cons_self)
  rw [parse_of_double hdisplay hdouble (getLast?_ne_of_not_mem hcolumn), piece_toList htrim]
  simp only [hne, false_or]

theorem parse_display_columnsEqual (hleft : Text.IsTrimmed left) (hright : Text.IsTrimmed right)
    (hleft_ne : left ≠ "") (hright_ne : right ≠ "") (hdouble : ¬ doubleSign <:+: left.toList)
    (hlast : left.toList.getLast? ≠ some '=') :
    parse (columnsEqual left right).display = .ok (columnsEqual left right) := by
  rw [parse_of_double (toList_display_columnsEqual left right) hdouble hlast, piece_toList hleft,
    piece_toList hright, if_neg (not_or.mpr ⟨hleft_ne, hright_ne⟩)]

/-- A sign at the end of the left column is read as a part of the sign between the columns, which leaves
another one to the right column. -/
theorem parse_display_columnsEqual_of_getLast? {l : List Char} (hdouble : ¬ doubleSign <:+: left.toList)
    (hl : left.toList = l ++ ['=']) :
    parse (columnsEqual left right).display =
      if piece l = "" ∨ piece ('=' :: right.toList) = "" then
        .error (.missingColumn (columnsEqual left right).display)
      else .ok (columnsEqual (piece l) (piece ('=' :: right.toList))) := by
  have hdisplay := toList_display_columnsEqual left right
  rw [hl, List.append_assoc, List.singleton_append] at hdisplay
  rw [hl] at hdouble
  refine parse_of_double hdisplay (fun h => hdouble (h.trans (List.prefix_append l _).isInfix)) ?_
  intro hlast
  obtain ⟨others, rfl⟩ := List.getLast?_eq_some_iff.mp hlast
  exact hdouble ⟨others, [], by simp⟩

end

/-! ## The predicate itself, or not -/

variable {p : Predicate}

theorem exists_parse_display (h : p.IsParsed) (hapart : p.StandsApart) :
    ∃ q, parse p.display = .ok q ∧ (q == p) = true := by
  cases h with
  | @equals column value htrim hne hcolumn hvalue hdouble =>
    have hhead : value.display.toList.head? ≠ some '=' := by
      cases hvalue with
      | number hfinite =>
        intro hhead
        have := Value.isNumericChar_of_mem_display hfinite '=' (List.mem_of_head? hhead)
        exact absurd this (by decide)
      | text _ _ => exact hapart
    refine ⟨_, parse_display_equals htrim hne hcolumn hdouble hhead, ?_⟩
    exact Bool.and_eq_true_iff.mpr ⟨beq_self_eq_true column, Value.beq_parse_display hvalue⟩
  | @columnsEqual left right hleft hright hleft_ne hright_ne hdouble =>
    refine ⟨_, parse_display_columnsEqual hleft hright hleft_ne hright_ne hdouble hapart, ?_⟩
    exact Bool.and_eq_true_iff.mpr ⟨beq_self_eq_true left, beq_self_eq_true right⟩

theorem beq_eq_false_of_parse_display (h : p.IsParsed) (hapart : ¬ p.StandsApart) {q : Predicate}
    (hq : parse p.display = .ok q) : (q == p) = false := by
  cases h with
  | @equals column value htrim hne hcolumn hvalue hdouble =>
    cases value with
    | number x => exact absurd trivial hapart
    | text s =>
      obtain ⟨rest, hs⟩ := List.head?_eq_some_iff.mp (not_not.mp hapart)
      rw [parse_display_equals_of_head? htrim hne hcolumn hs] at hq
      split at hq
      · cases hq
      · cases hq
        rfl
  | @columnsEqual left right hleft hright hleft_ne hright_ne hdouble =>
    obtain ⟨l, hl⟩ := List.getLast?_eq_some_iff.mp (not_not.mp hapart)
    rw [parse_display_columnsEqual_of_getLast? hdouble hl] at hq
    split at hq
    · cases hq
    · cases hq
      have hne : piece l ≠ left := by
        intro heq
        have hlength := (piece_isInfix l).length_le
        rw [heq, hl, List.length_append, List.length_singleton] at hlength
        omega
      exact Bool.and_eq_false_iff.mpr (.inl (beq_eq_false_iff_ne.mpr hne))

/-- **A displayed predicate is read as the predicate exactly when its sign stands apart.** Otherwise it is
read as another predicate, or is none. -/
theorem parse_display_iff {source : String} (h : parse source = .ok p) :
    ((∃ q, parse p.display = .ok q ∧ (q == p) = true) ↔ p.StandsApart) ∧
    (¬ p.StandsApart → (∃ fault, parse p.display = .error fault) ∨
      ∃ q, parse p.display = .ok q ∧ (q == p) = false) := by
  have hparsed := isParsed_of_parse h
  refine ⟨⟨?_, exists_parse_display hparsed⟩, fun hapart => ?_⟩
  · rintro ⟨q, hq, heq⟩
    by_contra hapart
    rw [beq_eq_false_of_parse_display hparsed hapart hq] at heq
    cases heq
  · rcases exists_ok_or_error (parse p.display) with ⟨q, hq⟩ | hfault
    · exact .inr ⟨q, hq, beq_eq_false_of_parse_display hparsed hapart hq⟩
    · exact .inl hfault

/-- The blank that keeps two signs apart is not displayed. -/
theorem parse_display_iff_blank :
    parse "a= =b" = .ok (equals "a" (.text "=b")) ∧
    ¬ ∃ q, parse (equals "a" (.text "=b")).display = .ok q ∧ (q == equals "a" (.text "=b")) = true := by
  have hparse : parse "a= =b" = .ok (equals "a" (.text "=b")) := by rfl
  exact ⟨hparse, fun h => absurd ((parse_display_iff hparse).1.mp h) (by decide)⟩

end Trendline.Predicate
