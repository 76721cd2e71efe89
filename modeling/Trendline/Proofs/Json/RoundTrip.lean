import Trendline.Proofs.Json.Numeral

/-!
# Documents read back

A document whose numbers are numerals is read back from its indented text: every
string from its escapes, and every item and member from between the breaks.

* `readText?_flatMap_escape`: a string is read up to its closing quote.
* `WellFormed`: documents whose numbers are numerals.
* `WellFormed.readsBack`: a document is read up to its end, at any depth.
* `WellFormed.read?_pretty`: the text of a document is read as the document.
-/

namespace Trendline.Json

/-! ## Strings -/

theorem hexDigit?_digitChar : ∀ d < 16, Text.hexDigit? (Nat.digitChar d) = some d := by
  decide

theorem fourHexDigits_of_lt {n : Nat} (h : n < 16 * 16) :
    fourHexDigits n = ['0', '0', Nat.digitChar (n / 16), Nat.digitChar (n % 16)] := by
  rw [fourHexDigits, Text.hexDigits]
  by_cases hn : n < 16
  · rw [Nat.toDigits_of_lt_base hn, Nat.div_eq_of_lt hn, Nat.mod_eq_of_lt hn]
    rfl
  · rw [Nat.toDigits_of_base_le (by decide) (not_lt.mp hn), Nat.toDigits_of_lt_base (by omega)]
    rfl

theorem hexCode?_of_lt {n : Nat} (h : n < 16 * 16) :
    hexCode? '0' '0' (Nat.digitChar (n / 16)) (Nat.digitChar (n % 16)) = some n := by
  have hzero : Text.hexDigit? '0' = some 0 := rfl
  rw [hexCode?, hzero, hexDigit?_digitChar _ (by omega), hexDigit?_digitChar _ (by omega)]
  show some (((0 * 16 + 0) * 16 + n / 16) * 16 + n % 16) = some n
  rw [Option.some_inj]
  omega

/-- What is read is changed, and what follows stays. -/
theorem bind_eq_map {β γ : Type} (read : Option (β × List Char)) (f : β → γ) :
    (read.bind fun (b, after) => some (f b, after)) = read.map fun (b, after) => (f b, after) := by
  cases read with
  | none => rfl
  | some read => rfl

theorem readText?_shortEscape {e c : Char} (h : shortEscape? e = some c) (rest : List Char) :
    readText? ('\\' :: e :: rest) = (readText? rest).map fun (text, after) => (c :: text, after) := by
  have hne : e ≠ 'u' := by
    rintro rfl
    cases h
  rw [readText?]
  · rw [h]
    exact bind_eq_map (readText? rest) (c :: ·)
  · exact fun _ _ _ _ _ heq => absurd heq hne

theorem readText?_hexEscape {c : Char} (h : c.toNat < 0x20) (rest : List Char) :
    readText? (['\\', 'u'] ++ fourHexDigits c.toNat ++ rest) =
      (readText? rest).map fun (text, after) => (c :: text, after) := by
  have hlt : c.toNat < 16 * 16 := by omega
  have hfirst : ¬ (0xd800 ≤ c.toNat ∧ c.toNat < 0xdc00) := by omega
  have hsecond : ¬ (0xdc00 ≤ c.toNat ∧ c.toNat < 0xe000) := by omega
  rw [fourHexDigits_of_lt hlt]
  show readText? ('\\' :: 'u' :: _ :: _ :: _ :: _ :: rest) = _
  rw [readText?, hexCode?_of_lt hlt]
  simp only [Option.bind_eq_bind, Option.bind_some]
  rw [if_neg hfirst, if_neg hsecond, Char.ofNat_toNat]
  exact bind_eq_map (readText? rest) (c :: ·)

theorem readText?_plain {c : Char} (hquote : c ≠ '"') (hslash : c ≠ '\\') (h : ¬ c.toNat < 0x20)
    (rest : List Char) : readText? (c :: rest) =
      (readText? rest).map fun (text, after) => (c :: text, after) := by
  rw [readText?]
  · exact if_neg h
  · exact hquote
  · exact fun _ _ _ _ _ heq => absurd heq hslash
  · exact fun _ _ heq => absurd heq hslash

/-- How a character stands between quotes: by a letter, by its code, or as itself. -/
theorem escape_cases (c : Char) : (∃ e, shortEscape? e = some c ∧ escape c = ['\\', e]) ∨
    (c.toNat < 0x20 ∧ escape c = ['\\', 'u'] ++ fourHexDigits c.toNat) ∨
    (c ≠ '"' ∧ c ≠ '\\' ∧ ¬ c.toNat < 0x20 ∧ escape c = [c]) := by
  rw [escape]
  -- seven characters have a letter
  iterate 7
    split
    · rename_i h
      exact .inl ⟨_, by rw [h]; rfl, rfl⟩
  split
  · rename_i h
    exact .inr (.inl ⟨h, rfl⟩)
  · exact .inr (.inr ⟨‹_›, ‹_›, ‹_›, rfl⟩)

theorem readText?_escape (c : Char) (rest : List Char) : readText? (escape c ++ rest) =
    (readText? rest).map fun (text, after) => (c :: text, after) := by
  rcases escape_cases c with ⟨e, he, heq⟩ | ⟨hlt, heq⟩ | ⟨hquote, hslash, hge, heq⟩
  · rw [heq]
    exact readText?_shortEscape he rest
  · rw [heq]
    exact readText?_hexEscape hlt rest
  · rw [heq]
    exact readText?_plain hquote hslash hge rest

/-- **A string is read up to its closing quote.** -/
theorem readText?_flatMap_escape (text rest : List Char) :
    readText? (text.flatMap escape ++ '"' :: rest) = some (text, rest) := by
  induction text with
  | nil => rw [List.flatMap_nil, List.nil_append, readText?]
  | cons c text ih => rw [List.flatMap_cons, List.append_assoc, readText?_escape, ih, Option.map_some]

/-! ## Blanks -/

theorem skipSpace_cons {c : Char} (h : isSpace c = false) (cs : List Char) :
    skipSpace (c :: cs) = c :: cs := by
  rw [skipSpace, List.dropWhile_cons_of_neg (Bool.eq_false_iff.mp h)]

@[simp] theorem skipSpace_quote (cs : List Char) : skipSpace ('"' :: cs) = '"' :: cs := rfl

@[simp] theorem skipSpace_colon (cs : List Char) : skipSpace (':' :: cs) = ':' :: cs := rfl

@[simp] theorem skipSpace_comma (cs : List Char) : skipSpace (',' :: cs) = ',' :: cs := rfl

@[simp] theorem skipSpace_openBracket (cs : List Char) : skipSpace ('[' :: cs) = '[' :: cs := rfl

@[simp] theorem skipSpace_closeBracket (cs : List Char) : skipSpace (']' :: cs) = ']' :: cs := rfl

@[simp] theorem skipSpace_openBrace (cs : List Char) :
    skipSpace ('\x7b' :: cs) = '\x7b' :: cs := rfl

@[simp] theorem skipSpace_closeBrace (cs : List Char) :
    skipSpace ('\x7d' :: cs) = '\x7d' :: cs := rfl

theorem skipSpace_append {blanks : List Char} (h : ∀ c ∈ blanks, isSpace c = true)
    (cs : List Char) : skipSpace (blanks ++ cs) = skipSpace cs :=
  List.dropWhile_append_of_pos h

theorem isSpace_of_mem_newline (depth : Nat) : ∀ c ∈ newline depth, isSpace c = true := by
  intro c hc
  rcases List.mem_cons.mp hc with rfl | hc
  · rfl
  · rw [List.eq_of_mem_replicate hc]
    rfl

theorem isSpace_of_numeral {c : Char} (h : c = '-' ∨ c.isDigit = true) : isSpace c = false := by
  rw [Bool.eq_false_iff]
  intro hspace
  simp only [isSpace, Bool.or_eq_true, decide_eq_true_eq] at hspace
  rcases hspace with ((rfl | rfl) | rfl) | rfl <;> exact absurd h (by decide)

section

variable {blanks : List Char} (h : ∀ c ∈ blanks, isSpace c = true)

include h

theorem readValue?_append (fuel : Nat) (cs : List Char) :
    readValue? fuel (blanks ++ cs) = readValue? fuel cs := by
  cases fuel with
  | zero => rfl
  | succ fuel => rw [readValue?, readValue?, skipSpace_append h]

theorem readItems?_append (fuel : Nat) (cs : List Char) :
    readItems? fuel (blanks ++ cs) = readItems? fuel cs := by
  cases fuel with
  | zero => rfl
  | succ fuel => rw [readItems?, readItems?, readValue?_append h]

theorem readMembers?_append (fuel : Nat) (cs : List Char) :
    readMembers? fuel (blanks ++ cs) = readMembers? fuel cs := by
  cases fuel with
  | zero => rfl
  | succ fuel => rw [readMembers?, readMembers?, skipSpace_append h]

end

/-! ## Values -/

/-- A document is read from its text up to its end, whatever follows and however deep it is. -/
def ReadsBack (doc : Json) : Prop :=
  ∀ depth fuel rest, Ends rest → (prettyChars depth doc).length ≤ fuel →
    readValue? (fuel + 1) (prettyChars depth doc ++ rest) = some (doc, rest)

theorem readValue?_number {c : Char} {cs numeral after : List Char} (fuel : Nat)
    (hc : c = '-' ∨ c.isDigit = true) (h : readNumber? (c :: cs) = some (numeral, after)) :
    readValue? (fuel + 1) (c :: cs) = some (.number (String.ofList numeral), after) := by
  rw [readValue?, skipSpace_cons (isSpace_of_numeral hc)]
  split
  case h_7 => rw [h, Option.map_some]
  all_goals
    rename_i heq
    obtain ⟨rfl, -⟩ := List.cons.inj heq
    exact absurd hc (by decide)

theorem readsBack_number {numeral : String} (h : IsNumeral numeral.toList) :
    ReadsBack (.number numeral) := by
  intro depth fuel rest hrest _
  obtain ⟨c, cs, hcs, hc⟩ := h.exists_head
  have hread := readNumber?_append h hrest
  rw [hcs, List.cons_append] at hread
  rw [prettyChars, hcs, List.cons_append, readValue?_number fuel hc hread, ← hcs, String.ofList_toList]

theorem stringChars_append (text : String) (rest : List Char) :
    stringChars text ++ rest = '"' :: (text.toList.flatMap escape ++ '"' :: rest) := by
  rw [stringChars, List.append_assoc]
  rfl

theorem readsBack_string (text : String) : ReadsBack (.string text) := by
  intro depth fuel rest _ _
  simp only [prettyChars, stringChars_append, readValue?, skipSpace_quote,
    readText?_flatMap_escape, Option.map_some, String.ofList_toList]

/-! ## Items -/

theorem ends_newline (depth : Nat) (rest : List Char) : Ends (newline depth ++ rest) := by
  rintro c ⟨⟩
  decide

theorem ends_itemsPretty (depth outer : Nat) (items : List Json) (rest : List Char) :
    Ends (prettyChars.itemsPretty depth items ++ (newline outer ++ rest)) := by
  cases items with
  | nil => exact ends_newline outer rest
  | cons item items =>
    rw [prettyChars.itemsPretty]
    rintro c ⟨⟩
    decide

section

variable {fuel : Nat} {cs rest after : List Char} {item : Json}
  (hread : readValue? fuel cs = some (item, rest))

include hread

theorem readItems?_last (h : skipSpace rest = ']' :: after) :
    readItems? (fuel + 1) cs = some ([item], after) := by
  rw [readItems?, hread, Option.bind_eq_bind, Option.bind_some]
  dsimp only
  rw [h]
  rfl

theorem readItems?_next (h : skipSpace rest = ',' :: after) : readItems? (fuel + 1) cs =
    (readItems? fuel after).map fun (items, after) => (item :: items, after) := by
  rw [readItems?, hread, Option.bind_eq_bind, Option.bind_some]
  dsimp only
  rw [h]
  exact bind_eq_map (readItems? fuel after) (item :: ·)

end

/-- Items are read up to the closing bracket.  Every item costs a unit of fuel, and there are more
characters than items. -/
theorem readItems?_itemsPretty (depth outer : Nat) (rest : List Char) :
    ∀ (items : List Json) (item : Json), ReadsBack item → (∀ i ∈ items, ReadsBack i) → ∀ fuel,
      (prettyChars depth item).length + (prettyChars.itemsPretty depth items).length < fuel →
      readItems? (fuel + 1) (prettyChars depth item ++ (prettyChars.itemsPretty depth items ++
        (newline outer ++ ']' :: rest))) = some (item :: items, rest) := by
  intro items
  induction items with
  | nil =>
    intro item hitem _ fuel hfuel
    obtain ⟨fuel, rfl⟩ := Nat.exists_eq_add_one_of_ne_zero (Nat.ne_zero_of_lt hfuel)
    have hread := hitem depth fuel _ (ends_itemsPretty depth outer [] (']' :: rest)) (by omega)
    refine readItems?_last hread ?_
    rw [prettyChars.itemsPretty, List.nil_append, skipSpace_append (isSpace_of_mem_newline outer),
      skipSpace_closeBracket]
  | cons next items ih =>
    intro item hitem hitems fuel hfuel
    obtain ⟨hnext, hitems⟩ := List.forall_mem_cons.mp hitems
    obtain ⟨fuel, rfl⟩ := Nat.exists_eq_add_one_of_ne_zero (Nat.ne_zero_of_lt hfuel)
    have hread := hitem depth fuel _
      (ends_itemsPretty depth outer (next :: items) (']' :: rest)) (by omega)
    rw [prettyChars.itemsPretty] at hfuel hread ⊢
    simp only [List.cons_append, List.append_assoc, List.length_cons, List.length_append]
      at hfuel hread ⊢
    rw [readItems?_next hread (skipSpace_comma _),
      readItems?_append (isSpace_of_mem_newline depth), ih next hnext hitems fuel (by omega)]
    rfl

/-! ## Members -/

theorem ends_membersPretty (depth outer : Nat) (members : List (String × Json))
    (rest : List Char) :
    Ends (prettyChars.membersPretty depth members ++ (newline outer ++ rest)) := by
  cases members with
  | nil => exact ends_newline outer rest
  | cons member members =>
    rw [prettyChars.membersPretty]
    rintro c ⟨⟩
    decide

section

variable {fuel : Nat} {cs rest after : List Char} {value : Json} (name : String)
  (hread : readValue? fuel cs = some (value, rest))

include hread

theorem readMembers?_last (h : skipSpace rest = '\x7d' :: after) :
    readMembers? (fuel + 1) (stringChars name ++ ':' :: cs) = some ([(name, value)], after) := by
  simp only [readMembers?, stringChars_append, skipSpace_quote, skipSpace_colon,
    readText?_flatMap_escape, hread, Option.bind_eq_bind, Option.bind_some, h,
    String.ofList_toList]
  rfl

theorem readMembers?_next (h : skipSpace rest = ',' :: after) :
    readMembers? (fuel + 1) (stringChars name ++ ':' :: cs) =
      (readMembers? fuel after).map fun (members, after) => ((name, value) :: members, after) := by
  simp only [readMembers?, stringChars_append, skipSpace_quote, skipSpace_colon,
    readText?_flatMap_escape, hread, Option.bind_eq_bind, Option.bind_some, h,
    String.ofList_toList]
  exact bind_eq_map (readMembers? fuel after) ((name, value) :: ·)

end

/-- Members are read up to the closing brace, as items are. -/
theorem readMembers?_membersPretty (depth outer : Nat) (rest : List Char) :
    ∀ (members : List (String × Json)) (name : String) (value : Json), ReadsBack value →
      (∀ member ∈ members, ReadsBack member.2) → ∀ fuel,
      (prettyChars depth value).length + (prettyChars.membersPretty depth members).length < fuel →
      readMembers? (fuel + 1) (stringChars name ++ ':' :: ' ' :: (prettyChars depth value ++
        (prettyChars.membersPretty depth members ++ (newline outer ++ '\x7d' :: rest)))) =
          some ((name, value) :: members, rest) := by
  have hblank : ∀ c ∈ [' '], isSpace c = true := List.forall_mem_singleton.mpr rfl
  intro members
  induction members with
  | nil =>
    intro name value hvalue _ fuel hfuel
    obtain ⟨fuel, rfl⟩ := Nat.exists_eq_add_one_of_ne_zero (Nat.ne_zero_of_lt hfuel)
    have hread := (readValue?_append hblank _ _).trans (hvalue depth fuel _
      (ends_membersPretty depth outer [] ('\x7d' :: rest)) (by omega))
    rw [List.singleton_append] at hread
    refine readMembers?_last name hread ?_
    rw [prettyChars.membersPretty, List.nil_append,
      skipSpace_append (isSpace_of_mem_newline outer), skipSpace_closeBrace]
  | cons next members ih =>
    obtain ⟨nextName, next⟩ := next
    intro name value hvalue hmembers fuel hfuel
    obtain ⟨hnext, hmembers⟩ := List.forall_mem_cons.mp hmembers
    obtain ⟨fuel, rfl⟩ := Nat.exists_eq_add_one_of_ne_zero (Nat.ne_zero_of_lt hfuel)
    have hread := (readValue?_append hblank _ _).trans (hvalue depth fuel _
      (ends_membersPretty depth outer ((nextName, next) :: members) ('\x7d' :: rest)) (by omega))
    rw [List.singleton_append] at hread
    rw [prettyChars.membersPretty] at hfuel hread ⊢
    simp only [List.cons_append, List.append_assoc, List.length_cons, List.length_append]
      at hfuel hread ⊢
    rw [readMembers?_next name hread (skipSpace_comma _),
      readMembers?_append (isSpace_of_mem_newline depth),
      ih nextName next hnext hmembers fuel (by omega)]
    rfl

/-! ## Documents -/

/-- A document whose numbers are numerals. -/
inductive WellFormed : Json → Prop
  | null : WellFormed .null
  | bool (value : Bool) : WellFormed (.bool value)
  | number {numeral : String} : IsNumeral numeral.toList → WellFormed (.number numeral)
  | string (text : String) : WellFormed (.string text)
  | array {items : List Json} : (∀ item ∈ items, WellFormed item) → WellFormed (.array items)
  | object {members : List (String × Json)} : (∀ member ∈ members, WellFormed member.2) →
      WellFormed (.object members)

/-- The text of a document begins with a character that is neither blank nor a closing bracket. -/
theorem WellFormed.exists_head {doc : Json} (h : WellFormed doc) (depth : Nat) :
    ∃ c cs, prettyChars depth doc = c :: cs ∧ isSpace c = false ∧ c ≠ ']' := by
  cases h with
  | null => exact ⟨'n', _, rfl, rfl, by decide⟩
  | bool value =>
    cases value with
    | true => exact ⟨'t', _, rfl, rfl, by decide⟩
    | false => exact ⟨'f', _, rfl, rfl, by decide⟩
  | number h =>
    obtain ⟨c, cs, hcs, hc⟩ := h.exists_head
    refine ⟨c, cs, hcs, isSpace_of_numeral hc, ?_⟩
    rintro rfl
    exact absurd hc (by decide)
  | string text => exact ⟨'"', _, rfl, rfl, by decide⟩
  | @array items _ =>
    cases items with
    | nil => exact ⟨'[', _, rfl, rfl, by decide⟩
    | cons item items => exact ⟨'[', _, rfl, rfl, by decide⟩
  | @object members _ =>
    cases members with
    | nil => exact ⟨'\x7b', _, rfl, rfl, by decide⟩
    | cons member members => exact ⟨'\x7b', _, rfl, rfl, by decide⟩

theorem readValue?_array {item : Json} (h : WellFormed item) (fuel depth : Nat) (cs : List Char) :
    readValue? (fuel + 1) ('[' :: (newline depth ++ (prettyChars depth item ++ cs))) =
      (readItems? fuel (prettyChars depth item ++ cs)).map
        fun (items, after) => (.array items, after) := by
  obtain ⟨c, head, hhead, hspace, hclose⟩ := h.exists_head depth
  have hskip : skipSpace (newline depth ++ (prettyChars depth item ++ cs)) =
      prettyChars depth item ++ cs := by
    rw [skipSpace_append (isSpace_of_mem_newline depth), hhead, List.cons_append,
      skipSpace_cons hspace]
  simp only [readValue?, skipSpace_openBracket, hskip]
  split
  · rename_i heq
    rw [hhead] at heq
    exact absurd (List.cons.inj heq).1 hclose
  · rfl

theorem readValue?_object (fuel depth : Nat) (name : String) (cs : List Char) :
    readValue? (fuel + 1) ('\x7b' :: (newline depth ++ (stringChars name ++ cs))) =
      (readMembers? fuel (stringChars name ++ cs)).map
        fun (members, after) => (.object members, after) := by
  have hskip : skipSpace (newline depth ++ (stringChars name ++ cs)) = stringChars name ++ cs := by
    rw [skipSpace_append (isSpace_of_mem_newline depth), stringChars_append, skipSpace_quote]
  simp only [readValue?, skipSpace_openBrace, hskip]
  rw [stringChars_append]
  rfl

theorem readsBack_array {items : List Json} (hitems : ∀ item ∈ items, WellFormed item)
    (ih : ∀ item ∈ items, ReadsBack item) : ReadsBack (.array items) := by
  intro depth fuel rest _ hfuel
  cases items with
  | nil => rfl
  | cons item items =>
    obtain ⟨hitem, hothers⟩ := List.forall_mem_cons.mp ih
    rw [prettyChars] at hfuel ⊢
    simp only [List.cons_append, List.append_assoc, List.length_cons, List.length_append,
      List.nil_append] at hfuel ⊢
    obtain ⟨fuel, rfl⟩ := Nat.exists_eq_add_one_of_ne_zero (Nat.ne_zero_of_lt hfuel)
    rw [readValue?_array (hitems item List.mem_cons_self),
      readItems?_itemsPretty (depth + 1) depth rest items item hitem hothers fuel (by omega)]
    rfl

theorem readsBack_object {members : List (String × Json)}
    (ih : ∀ member ∈ members, ReadsBack member.2) : ReadsBack (.object members) := by
  intro depth fuel rest _ hfuel
  cases members with
  | nil => rfl
  | cons member members =>
    obtain ⟨name, value⟩ := member
    obtain ⟨hvalue, hothers⟩ := List.forall_mem_cons.mp ih
    rw [prettyChars] at hfuel ⊢
    simp only [List.cons_append, List.append_assoc, List.length_cons, List.length_append,
      List.nil_append] at hfuel ⊢
    obtain ⟨fuel, rfl⟩ := Nat.exists_eq_add_one_of_ne_zero (Nat.ne_zero_of_lt hfuel)
    rw [readValue?_object, readMembers?_membersPretty (depth + 1) depth rest members name value
      hvalue hothers fuel (by omega)]
    rfl

/-- **A document is read up to its end**, at any depth and whatever follows. -/
theorem WellFormed.readsBack {doc : Json} (h : WellFormed doc) : ReadsBack doc := by
  induction h with
  | null => exact fun _ _ _ _ _ => rfl
  | bool value =>
    cases value with
    | true => exact fun _ _ _ _ _ => rfl
    | false => exact fun _ _ _ _ _ => rfl
  | number hnumeral => exact readsBack_number hnumeral
  | string text => exact readsBack_string text
  | array hitems ih => exact readsBack_array hitems ih
  | object _ ih => exact readsBack_object ih

/-- **The text of a document is read as the document.** -/
theorem WellFormed.read?_pretty {doc : Json} (h : WellFormed doc) : read? doc.pretty = some doc := by
  have hread := h.readsBack 0 (prettyChars 0 doc).length [] nofun le_rfl
  rw [List.append_nil] at hread
  rw [read?, pretty, String.toList_ofList, String.length_ofList, hread]
  rfl

end Trendline.Json
