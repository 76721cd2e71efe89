import Mathlib.Data.List.Forall2
import Trendline.Failure

/-!
# Computations that may fail

A chain of computations with errors, taken apart: it succeeds when every step
does, and otherwise it ends with the error of the first step that fails.

* `fault?_bind`: the error of a chain is that of its first step, or else that of
  the rest.
* `fault?_mapM`: the error of a list of computations is the first one among them.
-/

namespace Trendline

variable {ε ε' α β : Type}

theorem bind_eq_ok_iff {x : Except ε α} {f : α → Except ε β} {b : β} :
    x >>= f = .ok b ↔ ∃ a, x = .ok a ∧ f a = .ok b := by
  cases x with
  | error e => exact ⟨nofun, fun ⟨_, h, _⟩ => nomatch h⟩
  | ok a => exact ⟨fun h => ⟨a, rfl, h⟩, fun ⟨_, h, hf⟩ => Except.ok.inj h ▸ hf⟩

theorem bind_eq_error_iff {x : Except ε α} {f : α → Except ε β} {e : ε} :
    x >>= f = .error e ↔ x = .error e ∨ ∃ a, x = .ok a ∧ f a = .error e := by
  cases x with
  | error e' =>
    constructor
    · intro h
      exact .inl (congrArg Except.error (Except.error.inj h))
    · rintro (h | ⟨_, h, _⟩)
      · exact congrArg Except.error (Except.error.inj h)
      · exact nomatch h
  | ok a =>
    constructor
    · intro h
      exact .inr ⟨a, rfl, h⟩
    · rintro (h | ⟨_, h, hf⟩)
      · exact nomatch h
      · exact Except.ok.inj h ▸ hf

theorem ok_bind (a : α) (f : α → Except ε β) : (.ok a : Except ε α) >>= f = f a := rfl

/-- A chain succeeds if its first step does, and the rest does in any case. -/
theorem exists_bind_eq_ok {x : Except ε α} {f : α → Except ε β} (hx : ∃ a, x = .ok a)
    (h : ∀ a, ∃ b, f a = .ok b) : ∃ b, x >>= f = .ok b := by
  obtain ⟨a, rfl⟩ := hx
  exact h a

theorem mapError_eq_ok_iff {x : Except ε α} {f : ε → ε'} {a : α} :
    x.mapError f = .ok a ↔ x = .ok a := by
  cases x with
  | error e => exact ⟨nofun, nofun⟩
  | ok b => exact ⟨fun h => congrArg Except.ok (Except.ok.inj h), fun h => by rw [h]; rfl⟩

theorem mapError_eq_error_iff {x : Except ε α} {f : ε → ε'} {e' : ε'} :
    x.mapError f = .error e' ↔ ∃ e, x = .error e ∧ f e = e' := by
  cases x with
  | error e => exact ⟨fun h => ⟨e, rfl, Except.error.inj h⟩, fun ⟨_, h, hf⟩ => by rw [h, ← hf]; rfl⟩
  | ok a => exact ⟨nofun, fun ⟨_, h, _⟩ => nomatch h⟩

theorem mapM_eq_ok_iff {f : α → Except ε β} : ∀ {l : List α} {l' : List β},
    l.mapM f = .ok l' ↔ List.Forall₂ (fun a b => f a = .ok b) l l' := by
  intro l
  induction l with
  | nil =>
    intro l'
    rw [List.mapM_nil, List.forall₂_nil_left_iff]
    exact ⟨fun h => (Except.ok.inj h).symm, fun h => by rw [h]; rfl⟩
  | cons a rest ih =>
    intro l'
    rw [List.mapM_cons, bind_eq_ok_iff, List.forall₂_cons_left_iff]
    constructor
    · rintro ⟨b, hb, h⟩
      obtain ⟨others, hothers, h⟩ := bind_eq_ok_iff.mp h
      exact ⟨b, others, hb, ih.mp hothers, (Except.ok.inj h).symm⟩
    · rintro ⟨b, others, hb, hothers, rfl⟩
      exact ⟨b, hb, bind_eq_ok_iff.mpr ⟨others, ih.mpr hothers, rfl⟩⟩

/-- A list of results has one for each argument. -/
theorem exists_mem_of_forall₂ {R : α → β → Prop} {l : List α} {l' : List β}
    (h : List.Forall₂ R l l') {a : α} (ha : a ∈ l) : ∃ b ∈ l', R a b := by
  induction h with
  | nil => cases ha
  | cons hfirst _ ih =>
    rcases List.mem_cons.mp ha with rfl | ha
    · exact ⟨_, List.mem_cons_self, hfirst⟩
    · obtain ⟨b, hb, hab⟩ := ih ha
      exact ⟨b, List.mem_cons_of_mem _ hb, hab⟩

theorem exists_ok_or_error (x : Except ε α) : (∃ a, x = .ok a) ∨ ∃ e, x = .error e := by
  cases x with
  | error e => exact .inr ⟨e, rfl⟩
  | ok a => exact .inl ⟨a, rfl⟩

theorem toOption_map_eq_some_iff {x : Except ε α} {f : α → β} {b : β} :
    x.toOption.map f = some b ↔ ∃ a, x = .ok a ∧ f a = b := by
  cases x with
  | error e => exact ⟨nofun, fun ⟨_, h, _⟩ => nomatch h⟩
  | ok a => exact ⟨fun h => ⟨a, rfl, Option.some.inj h⟩, fun ⟨_, h, hf⟩ => by rw [h, ← hf]; rfl⟩

/-- The error a computation ends with, if it does. -/
def fault? : Except ε α → Option ε
  | .error e => some e
  | .ok _ => none

theorem fault?_eq_some_iff {x : Except ε α} {e : ε} : fault? x = some e ↔ x = .error e := by
  cases x with
  | error e' => simp [fault?]
  | ok a => simp [fault?]

theorem fault?_eq_none_iff {x : Except ε α} : fault? x = none ↔ ∃ a, x = .ok a := by
  cases x with
  | error e => simp [fault?]
  | ok a => simp [fault?]

/-- A computation is known by its error and by its result. -/
theorem eq_of_fault?_eq {x y : Except ε α} (hfault : fault? x = fault? y)
    (hok : ∀ a, x = .ok a ↔ y = .ok a) : x = y := by
  cases x with
  | ok a => exact ((hok a).mp rfl).symm
  | error e => exact (fault?_eq_some_iff.mp hfault.symm).symm

theorem fault?_bind {x : Except ε α} {f : α → Except ε β} {o : Option ε}
    (h : ∀ a, x = .ok a → fault? (f a) = o) : fault? (x >>= f) = (fault? x).or o := by
  cases x with
  | error e => rfl
  | ok a => exact h a rfl

theorem fault?_bind_pure (x : Except ε α) (f : α → β) :
    fault? (x >>= fun a => pure (f a)) = fault? x := by
  cases x with
  | error e => rfl
  | ok a => rfl

theorem fault?_mapM (f : α → Except ε β) : ∀ l : List α,
    fault? (l.mapM f) = l.findSome? fun a => fault? (f a) := by
  intro l
  induction l with
  | nil => rfl
  | cons a rest ih =>
    rw [List.mapM_cons, fault?_bind fun b _ => fault?_bind_pure _ (b :: ·), ih, List.findSome?_cons]
    cases fault? (f a) <;> rfl

/-- **The first computation that fails** ends a list of them. -/
theorem mapM_eq_error_iff {f : α → Except ε β} {l : List α} {e : ε} :
    l.mapM f = .error e ↔ ∃ before a after, l = before ++ a :: after ∧
      (∀ b ∈ before, ∃ c, f b = .ok c) ∧ f a = .error e := by
  rw [← fault?_eq_some_iff, fault?_mapM, List.findSome?_eq_some_iff]
  simp only [fault?_eq_some_iff, fault?_eq_none_iff, and_comm (a := f _ = .error e)]

/-! ## Computations that may be stopped -/

namespace Stop

theorem mapError_map_eq_refused_iff {x : Except (Stop ε) α} {f : ε → ε'} {e' : ε'} :
    x.mapError (map f) = .error (refused e') ↔ ∃ e, x = .error (refused e) ∧ f e = e' := by
  rw [mapError_eq_error_iff]
  constructor
  · rintro ⟨e | _, hx, hf⟩
    · exact ⟨e, hx, refused.inj hf⟩
    · cases hf
  · rintro ⟨e, hx, rfl⟩
    exact ⟨refused e, hx, rfl⟩

theorem mapError_map_eq_overflow_iff {x : Except (Stop ε) α} {f : ε → ε'} :
    x.mapError (map f) = .error overflow ↔ x = .error overflow := by
  rw [mapError_eq_error_iff]
  constructor
  · rintro ⟨_ | _, hx, hf⟩
    · cases hf
    · exact hx
  · exact fun hx => ⟨overflow, hx, rfl⟩

theorem mapError_refused_eq_refused_iff {x : Except ε α} {f : ε → ε'} {e' : ε'} :
    x.mapError (refused ∘ f) = .error (refused e') ↔ ∃ e, x = .error e ∧ f e = e' := by
  rw [mapError_eq_error_iff]
  simp only [Function.comp_apply, refused.injEq]

variable {x : Except (Stop ε) α} {h : x ≠ .error overflow}

theorem settle_eq_ok_iff {a : α} : settle x h = .ok a ↔ x = .ok a := by
  rw [← mapError_eq_ok_iff (f := refused), mapError_settle]

theorem settle_eq_error_iff {e : ε} : settle x h = .error e ↔ x = .error (refused e) := by
  constructor
  · intro hsettle
    rw [← mapError_settle x h, hsettle]
    rfl
  · rintro rfl
    rfl

end Stop

end Trendline
