import Trendline.CommandLine.Grammar
import Trendline.Proofs.Errors

/-!
# Options with values

A command line of nothing but options, each followed by its value, is read pair by pair.  A value
is kept aside until the next option is known, so the reading lags behind by one value; once the
last one is looked at, all were taken in turn.

* `Word.ofString_eq_plain_iff`: the words that can be values.
* `Reading.take_eq_ok_iff`, `Reading.settle_eq_ok`: what a value changes in a reading.
* `Grammar.readWord_awaiting_iff`: a reading that waits for a value goes on with a plain word, or
  with the separator and then to no good end.
* `Grammar.HasOption.readsTo_iff`: what one pair adds to a reading.
* `Grammar.readsTo_pairWords_iff`: pairs of options and values are read if all values are plain
  words that can be taken one after the other.
-/

namespace Trendline.CommandLine

/-! ## Words -/

/-- **Plain words** are those without a dash at the beginning, and the dash itself. -/
theorem Word.ofString_eq_plain_iff {s t : String} :
    Word.ofString s = .plain t ↔ t = s ∧ (s.toList.head? ≠ some '-' ∨ s = "-") := by
  have hdash : s = "-" ↔ s.toList = ['-'] := by rw [← String.toList_inj]; rfl
  rw [hdash, Word.ofString]
  split
  · rename_i hs
    simp [hs]
  · rename_i hs
    rw [hs]
    dsimp only
    split <;> simp
  · rename_i hs
    simp [hs, eq_comm]
  · rename_i hs
    simp [hs]
  · rename_i hdashes hlong hsingle hshort
    -- a list that begins with a dash has one of the forms above
    have hhead : s.toList.head? ≠ some '-' := by
      cases hs : s.toList with
      | nil => nofun
      | cons c rest =>
        intro hc
        obtain rfl := Option.some.inj hc
        cases rest with
        | nil => exact hsingle hs
        | cons c' rest => exact hshort c' rest hs
    simp [hhead, eq_comm]

variable {σ : Type}

/-! ## Readings -/

namespace Reading

variable {r r' : Reading σ} {a : Argument σ} {value : String}

theorem take_eq_ok_iff : r.take a value = .ok r' ↔
    (a.arity ≠ .many → a.name ∉ r.given) ∧ ∃ settings, a.store value r.settings = .ok settings ∧
      r' = { r with settings, given := a.name :: r.given } := by
  rw [take]
  split
  · rename_i hrepeated
    exact ⟨nofun, fun h => absurd hrepeated.2 (h.1 hrepeated.1)⟩
  · rename_i hnew
    have hnew' : a.arity ≠ .many → a.name ∉ r.given := fun harity hmem => hnew ⟨harity, hmem⟩
    cases hstore : a.store value r.settings with
    | ok settings =>
      constructor
      · intro h
        exact ⟨hnew', settings, rfl, (Except.ok.inj h).symm⟩
      · rintro ⟨-, _, hsettings, rfl⟩
        rw [← Except.ok.inj hsettings]
    | error fault => simp

/-- Looking at the value that was kept aside leaves nothing to be looked at. -/
theorem settle_eq_ok (h : r.settle = .ok r') :
    r'.pending = none ∧ r'.separated = r.separated ∧ r'.positional = r.positional := by
  rw [settle] at h
  split at h
  · rename_i hnone
    obtain rfl := Except.ok.inj h
    exact ⟨hnone, rfl, rfl⟩
  · cases h
  · obtain ⟨-, settings, -, rfl⟩ := take_eq_ok_iff.mp h
    exact ⟨rfl, rfl, rfl⟩

theorem settle_awaiting (h : r.pending = some (a, none)) :
    r.settle = .error (.misuse (.badValue a.shown .absent)) := by
  rw [settle, h]

theorem settle_kept (h : r.pending = none) (a : Argument σ) (value : String) :
    ({ r with pending := some (a, some value) } : Reading σ).settle = r.take a value := by
  rw [settle]
  show ({ r with pending := none } : Reading σ).take a value = _
  rw [← h]

end Reading

namespace Grammar

variable {g : Grammar σ} {r r' out : Reading σ} {a : Argument σ}

/-! ## Waiting for a value -/

theorem finishWith_ne_ok (ending : Ending) (name : String) (value : Option String) :
    finishWith r ending name value ≠ .ok r' := by
  unfold finishWith
  split
  · nofun
  · intro h
    obtain ⟨_, -, herror⟩ := bind_eq_ok_iff.mp h
    cases herror

theorem readLong_awaiting (h : r.pending = some (a, none)) (name : String)
    (value : Option String) : g.readLong r name value ≠ .ok r' := by
  rw [readLong]
  split
  · rw [Reading.settle_awaiting h]
    split <;> nofun
  · split
    · exact finishWith_ne_ok _ _ _
    · split
      · exact finishWith_ne_ok _ _ _
      · nofun

theorem readShort_ne_ok (letter : Char) : g.readShort r letter ≠ .ok r' := by
  rw [readShort]
  split
  · exact finishWith_ne_ok _ _ _
  · split
    · exact finishWith_ne_ok _ _ _
    · nofun

/-- **A reading that waits for a value** takes a plain word for it.  After the separator it still
waits. -/
theorem readWord_awaiting_iff (hseparated : r.separated = false) (a : Argument σ) (word : String) :
    g.readWord { r with pending := some (a, none) } word = .ok r' ↔
      Word.ofString word = .plain word ∧ r' = { r with pending := some (a, some word) } ∨
      Word.ofString word = .separator ∧
        r' = { r with pending := some (a, none), separated := true } := by
  rw [readWord, if_neg (by simp [hseparated])]
  cases hword : Word.ofString word with
  | separator => simp [eq_comm]
  | long name value =>
    refine iff_of_false (readLong_awaiting rfl name value) ?_
    rintro (⟨hplain, -⟩ | ⟨hplain, -⟩) <;> cases hplain
  | short letter =>
    refine iff_of_false (readShort_ne_ok letter) ?_
    rintro (⟨hplain, -⟩ | ⟨hplain, -⟩) <;> cases hplain
  | plain text =>
    obtain rfl := (Word.ofString_eq_plain_iff.mp hword).1
    simp [eq_comm]

theorem readPositional_awaiting (h : r.pending = some (a, none)) (word : String) :
    g.readPositional r word ≠ .ok r' := by
  rw [readPositional]
  split
  · rw [Reading.settle_awaiting h]
    nofun
  · split <;> nofun

theorem readPositional_nil (h : r.positional = []) (word : String) :
    g.readPositional r word ≠ .ok r' := by
  rw [readPositional, h]
  dsimp only
  split <;> nofun

/-- Whether words are read to the end, with what there is after the last value is looked at. -/
def ReadsTo (g : Grammar σ) (r : Reading σ) (words : List String) (out : Reading σ) : Prop :=
  ∃ last c, g.readWords r words = .ok (last, c) ∧ last.settle = .ok out

theorem read_eq_ok_iff {s s' : σ} {words : List String} :
    g.read s words = .ok s' ↔
      ∃ out, g.ReadsTo (g.start s) words out ∧ g.isComplete out = true ∧ out.settings = s' := by
  rw [read, bind_eq_ok_iff]
  constructor
  · rintro ⟨⟨last, c⟩, hread, h⟩
    obtain ⟨out, hlast, h⟩ := bind_eq_ok_iff.mp h
    split at h
    · rename_i hcomplete
      exact ⟨out, ⟨last, c, hread, hlast⟩, hcomplete, Except.ok.inj h⟩
    · cases h
  · rintro ⟨out, ⟨last, c, hread, hlast⟩, hcomplete, rfl⟩
    exact ⟨(last, c), hread, bind_eq_ok_iff.mpr ⟨out, hlast, if_pos hcomplete⟩⟩

/-- After the separator no value comes any more. -/
theorem not_readsTo_separated (h : r.pending = some (a, none)) (hseparated : r.separated = true) :
    ∀ words : List String, ¬ g.ReadsTo r words out := by
  rintro (_ | ⟨word, rest⟩) ⟨last, c, hread, hlast⟩
  · obtain ⟨rfl, -⟩ := Prod.mk.inj (Except.ok.inj hread)
    rw [Reading.settle_awaiting h] at hlast
    cases hlast
  · rw [readWords, if_neg (by simp [hseparated]), readWord, if_pos hseparated] at hread
    obtain ⟨r', hword, -⟩ := bind_eq_ok_iff.mp hread
    exact readPositional_awaiting h word hword

/-! ## Pairs -/

/-- Whether an argument is an option of the grammar with a value, known by its name. -/
structure HasOption (g : Grammar σ) (a : Argument σ) : Prop where
  found : g.options.find? (·.name == a.name) = some a
  takesValue : a.arity ≠ .flag
  ofString_word : Word.ofString ("--" ++ a.name) = .long a.name none
  not_command : g.commands.contains ("--" ++ a.name) = false

theorem HasOption.readWord_eq (h : g.HasOption a) (hseparated : r.separated = false) :
    g.readWord r ("--" ++ a.name) =
      r.settle >>= fun r => .ok { r with pending := some (a, none) } := by
  rw [readWord, if_neg (by simp [hseparated]), h.ofString_word]
  show g.readLong r a.name none = _
  rw [readLong, h.found]
  dsimp only
  cases harity : a.arity with
  | flag => exact absurd harity h.takesValue
  | once => rfl
  | many => rfl

/-- The words of options and their values. -/
def pairWords (pairs : List (Argument σ × String)) : List String :=
  pairs.flatMap fun (a, value) => ["--" ++ a.name, value]

theorem HasOption.readWords_eq (h : g.HasOption a) (hseparated : r.separated = false)
    (value : String) (rest : List String) :
    g.readWords r (("--" ++ a.name) :: value :: rest) =
      r.settle >>= fun r =>
        g.readWord { r with pending := some (a, none) } value >>= fun r => g.readWords r rest := by
  rw [readWords, if_neg (by rw [h.not_command]; simp), h.readWord_eq hseparated]
  cases hsettle : r.settle with
  | error e => rfl
  | ok settled =>
    show g.readWords { settled with pending := some (a, none) } (value :: rest) = _
    rw [readWords, if_neg (by simp [Reading.isAwaiting])]
    rfl

/-- Reading a pair goes on after its value, whatever that is. -/
theorem HasOption.readWords_rest (h : g.HasOption a) (hseparated : r.separated = false)
    {value : String} {rest : List String} {result : Reading σ × Option (String × List String)}
    (hread : g.readWords r (("--" ++ a.name) :: value :: rest) = .ok result) :
    ∃ next : Reading σ, next.positional = r.positional ∧ g.readWords next rest = .ok result := by
  rw [h.readWords_eq hseparated] at hread
  obtain ⟨settled, hsettle, hread⟩ := bind_eq_ok_iff.mp hread
  obtain ⟨next, hword, hread⟩ := bind_eq_ok_iff.mp hread
  obtain ⟨-, hsame, hpositional⟩ := Reading.settle_eq_ok hsettle
  refine ⟨next, ?_, hread⟩
  rcases (readWord_awaiting_iff (hsame.trans hseparated) a value).mp hword with
    ⟨-, rfl⟩ | ⟨-, rfl⟩
  · exact hpositional
  · exact hpositional

/-- **One pair**: the value kept aside before it is looked at, and its own is kept aside. -/
theorem HasOption.readsTo_iff (h : g.HasOption a) (hseparated : r.separated = false)
    {value : String} {rest : List String} :
    g.ReadsTo r (("--" ++ a.name) :: value :: rest) out ↔
      Word.ofString value = .plain value ∧ ∃ settled, r.settle = .ok settled ∧
        g.ReadsTo { settled with pending := some (a, some value) } rest out := by
  have hsettled {settled : Reading σ} (hsettle : r.settle = .ok settled) :
      settled.separated = false :=
    (Reading.settle_eq_ok hsettle).2.1.trans hseparated
  rw [ReadsTo, h.readWords_eq hseparated]
  constructor
  · rintro ⟨last, c, hread, hlast⟩
    obtain ⟨settled, hsettle, hread⟩ := bind_eq_ok_iff.mp hread
    obtain ⟨next, hword, hread⟩ := bind_eq_ok_iff.mp hread
    rcases (readWord_awaiting_iff (hsettled hsettle) a value).mp hword with ⟨hplain, rfl⟩ | ⟨-, rfl⟩
    · exact ⟨hplain, settled, hsettle, last, c, hread, hlast⟩
    · exact absurd ⟨last, c, hread, hlast⟩ (not_readsTo_separated rfl rfl rest)
  · rintro ⟨hplain, settled, hsettle, last, c, hread, hlast⟩
    have hword := (readWord_awaiting_iff (g := g) (hsettled hsettle) a value).mpr
      (.inl ⟨hplain, rfl⟩)
    exact ⟨last, c, bind_eq_ok_iff.mpr ⟨settled, hsettle, bind_eq_ok_iff.mpr ⟨_, hword, hread⟩⟩,
      hlast⟩

/-- **Pairs of options and values** are read if the values are plain words and can be taken one
after the other. -/
theorem readsTo_pairWords_iff : ∀ {pairs : List (Argument σ × String)},
    (∀ p ∈ pairs, g.HasOption p.1) → ∀ r : Reading σ, r.separated = false →
    (g.ReadsTo r (pairWords pairs) out ↔
      (∀ p ∈ pairs, Word.ofString p.2 = .plain p.2) ∧ ∃ settled, r.settle = .ok settled ∧
        pairs.foldlM (fun r p => r.take p.1 p.2) settled = .ok out) := by
  intro pairs
  induction pairs with
  | nil =>
    intro _ r _
    constructor
    · rintro ⟨last, c, hread, hlast⟩
      obtain ⟨rfl, -⟩ := Prod.mk.inj (Except.ok.inj hread)
      exact ⟨nofun, out, hlast, rfl⟩
    · rintro ⟨-, settled, hsettle, hout⟩
      exact ⟨r, none, rfl, Except.ok.inj hout ▸ hsettle⟩
  | cons p rest ih =>
    intro hpairs r hseparated
    obtain ⟨hoption, hrest⟩ := List.forall_mem_cons.mp hpairs
    have hwords : pairWords (p :: rest) = ("--" ++ p.1.name) :: p.2 :: pairWords rest := rfl
    rw [hwords, hoption.readsTo_iff hseparated, List.forall_mem_cons, and_assoc]
    refine and_congr_right fun _ => ?_
    rw [← exists_and_left]
    refine exists_congr fun settled => ?_
    rw [and_left_comm]
    refine and_congr_right fun hsettle => ?_
    -- the value of this pair is looked at before the rest is read
    obtain ⟨hpending, hsame, -⟩ := Reading.settle_eq_ok hsettle
    have hsettled : settled.separated = false := hsame.trans hseparated
    rw [ih hrest { settled with pending := some (p.1, some p.2) } hsettled,
      Reading.settle_kept hpending, List.foldlM_cons, bind_eq_ok_iff]

end Grammar

end Trendline.CommandLine
