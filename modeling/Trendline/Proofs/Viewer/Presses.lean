import Trendline.Proofs.Figure.Inputs
import Trendline.Proofs.Files.Tree
import Trendline.Viewer.Basic

/-!
# Keys that are pressed one after the other

While a user presses keys, the files may change at any time.  The viewer lists
all figures at every moment, as they were built last, and one of them is
selected.  Only the arrows change which one that is, and only saving writes
anything.

* `KeyCode.move`: the selection after a key.
* `Saved`: what saving may do to the files.
* `Moved`: what a key does to the viewer and to its session.
* `press_eq_none_iff`: two keys end the viewer.
* `moved_of_press`: every other key does what `Moved` says.
* `pressAll_start`: what holds after any keys.
-/

namespace Trendline.Viewer

/-! ## One key -/

/-- The place of the selected figure after a key; the arrows stop at the ends of the list. -/
def KeyCode.move : KeyCode → Nat → Nat
  | .up, i => i - 1
  | .down, i => min (i + 1) (FigureKind.all.length - 1)
  | _, i => i

theorem KeyCode.move_lt (key : KeyCode) {i : Nat} (h : i < FigureKind.all.length) :
    key.move i < FigureKind.all.length := by
  cases key <;> simp only [KeyCode.move] <;> omega

/-- Whether a key ends the viewer. -/
def KeyCode.Ends (key : KeyCode) : Prop :=
  key = .char 'q' ∨ key = .esc

instance (key : KeyCode) : Decidable key.Ends :=
  inferInstanceAs (Decidable (_ ∨ _))

/-- The drawing that a figure is saved as. -/
def savedDrawing (f : Figure Float) : Content :=
  .drawing (Chart.drawing f drawingSize.1 drawingSize.2)

/-- What saving may do to the files: it writes a drawing of the selected figure, under the name of
that figure, and nothing if the figure could not be built. -/
structure Saved (v : Viewer) (before after : FileTree) : Prop where
  directories : after.directories = before.directories
  built : ∀ e f, v.current? = some e → e.figure = .ok f →
    before.isDirectory [e.kind.slug ++ ".svg"] = false →
      after.file? [e.kind.slug ++ ".svg"] = some (savedDrawing f)
  others : ∀ e, v.current? = some e →
    ∀ place ≠ [e.kind.slug ++ ".svg"], after.file? place = before.file? place
  failed : ∀ e message, v.current? = some e → e.figure = .error message → after = before

/-- What a key does to the viewer and to its session.  Keys that neither load figures nor save one
change the selection at most. -/
structure Moved (key : KeyCode) (v : Viewer) (t : Transcript) (v' : Viewer) (t' : Transcript) :
    Prop where
  settings : v'.settings = v.settings
  selected : v'.selected = key.move v.selected
  entries : v'.entries = if key = .char 'r' then buildAll t.files v.settings else v.entries
  status : key ≠ .char 'r' → key ≠ .char 's' → v'.status = v.status
  session : key ≠ .char 'r' → key ≠ .char 's' → t' = t
  output : t'.output = t.output
  files : key ≠ .char 's' → t'.files = t.files
  saved : key = .char 's' → Saved v t.files t'.files

/-- What the viewer shows at every moment: the figures as they were built from some files. -/
structure Shows (s : FigureSettings) (loaded : FileTree) (v : Viewer) : Prop where
  settings : v.settings = s
  entries : v.entries = buildAll loaded s
  selected : v.selected < FigureKind.all.length

variable {settings : FigureSettings} {loaded : FileTree} {v v' : Viewer} {t t' : Transcript}
  {key : KeyCode}

theorem Shows.map_kind (h : Shows settings loaded v) :
    v.entries.map (·.kind) = FigureKind.all := by
  rw [h.entries, map_kind_buildAll]

theorem Shows.length (h : Shows settings loaded v) : v.entries.length = FigureKind.all.length := by
  rw [← h.map_kind, List.length_map]

theorem Shows.exists_current (h : Shows settings loaded v) :
    ∃ e, v.current? = some e ∧ FigureKind.all[v.selected]? = some e.kind := by
  have hlt : v.selected < v.entries.length := by
    rw [h.length]
    exact h.selected
  refine ⟨v.entries[v.selected], List.getElem?_eq_getElem hlt, ?_⟩
  rw [← h.map_kind, List.getElem?_map, List.getElem?_eq_getElem hlt]
  rfl

theorem isFileName_slug (kind : FigureKind) : IsFileName (kind.slug ++ ".svg") := by
  cases kind <;> decide +kernel

theorem join_empty (path : String) : Path.join "" path = path := by
  simp [Path.join]

theorem write_slug (files : FileTree) (kind : FigureKind) (c : Content) :
    files.write (kind.slug ++ ".svg") c =
      if files.isDirectory [kind.slug ++ ".svg"] then .error .isDirectory
      else .ok (files.putFile [kind.slug ++ ".svg"] c) := by
  have henter : files.enter "" = .ok [] := rfl
  have hwrite := FileTree.write_join (c := c) (isFileName_slug kind) henter
  rwa [join_empty, List.nil_append] at hwrite

theorem saveDrawing_slug (files : FileTree) (kind : FigureKind) (f : Figure Float) :
    (files.saveDrawing f (kind.slug ++ ".svg")).toOption =
      if files.isDirectory [kind.slug ++ ".svg"] then none
      else some (files.putFile [kind.slug ++ ".svg"] (savedDrawing f)) := by
  rw [FileTree.saveDrawing, savedDrawing, write_slug]
  split <;> rfl

theorem saved_refl (files : FileTree)
    (h : ∀ e f, v.current? = some e → e.figure = .ok f →
      files.isDirectory [e.kind.slug ++ ".svg"] = true) : Saved v files files where
  directories := rfl
  built e f he hf hdir := by rw [h e f he hf] at hdir; cases hdir
  others _ _ _ _ := rfl
  failed _ _ _ _ := rfl

theorem saved_putFile {files : FileTree} {e : CatalogueEntry} {f : Figure Float}
    (he : v.current? = some e) (hf : e.figure = .ok f) :
    Saved v files (files.putFile [e.kind.slug ++ ".svg"] (savedDrawing f)) where
  directories := rfl
  built e' f' he' hf' _ := by
    cases he.symm.trans he'
    cases hf.symm.trans hf'
    rw [FileTree.file?_putFile, if_pos rfl]
  others e' he' place hne := by
    cases he.symm.trans he'
    rw [FileTree.file?_putFile, if_neg hne]
  failed e' message he' hmessage := by
    cases he.symm.trans he'
    exact absurd (hf.symm.trans hmessage) (by simp)

theorem moved_of_saved {status : String} (houtput : t'.output = t.output)
    (h : Saved v t.files t'.files) : Moved (.char 's') v t { v with status } t' where
  settings := rfl
  selected := rfl
  entries := rfl
  status _ hne := absurd rfl hne
  session _ hne := absurd rfl hne
  output := houtput
  files hne := absurd rfl hne
  saved _ := h

theorem moved_saveCurrent {e : CatalogueEntry} {f : Figure Float} (he : v.current? = some e)
    (hf : e.figure = .ok f) :
    Moved (.char 's') v t (v.saveCurrent e.kind f t).1 (v.saveCurrent e.kind f t).2 := by
  have hsave := saveDrawing_slug t.files e.kind f
  cases hw : t.files.saveDrawing f (e.kind.slug ++ ".svg") with
  | error e' =>
    simp only [saveCurrent, hw]
    refine moved_of_saved rfl (saved_refl _ fun e' f' he' hf' => ?_)
    cases he.symm.trans he'
    rw [hw] at hsave
    by_contra hdir
    simp [hdir, Except.toOption] at hsave
  | ok files =>
    have hfiles : files = t.files.putFile [e.kind.slug ++ ".svg"] (savedDrawing f) := by
      rw [hw] at hsave
      split at hsave
      · exact absurd hsave (by simp [Except.toOption])
      · exact Option.some.inj hsave
    simp only [saveCurrent, hw, hfiles]
    exact moved_of_saved rfl (saved_putFile he hf)

theorem moved_save (v : Viewer) (t : Transcript) :
    Moved (.char 's') v t (v.save t).1 (v.save t).2 := by
  unfold save
  cases he : v.current? with
  | none =>
    refine moved_of_saved rfl (saved_refl _ fun e f he' => ?_)
    exact absurd (he.symm.trans he') (by simp)
  | some e =>
    cases hf : e.figure with
    | error message =>
      simp only [hf]
      refine moved_of_saved rfl (saved_refl _ fun e' f he' hf' => ?_)
      cases he.symm.trans he'
      exact absurd (hf.symm.trans hf') (by simp)
    | ok f =>
      simp only [hf]
      exact moved_saveCurrent he hf

theorem moved_reload (v : Viewer) (t : Transcript) :
    Moved (.char 'r') v t (v.reload t).1 (v.reload t).2 where
  settings := rfl
  selected := rfl
  entries := rfl
  status hne := absurd rfl hne
  session hne := absurd rfl hne
  output := rfl
  files _ := rfl
  saved heq := nomatch heq

/-- A key that does no more than to move the selection. -/
theorem moved_select (hreload : key ≠ .char 'r') (hsave : key ≠ .char 's')
    (h : v' = { v with selected := key.move v.selected }) : Moved key v t v' t := by
  subst h
  exact ⟨rfl, rfl, (if_neg hreload).symm, fun _ _ => rfl, fun _ _ => rfl, rfl, fun _ => rfl,
    fun heq => absurd heq hsave⟩

theorem eq_select {i : Nat} (h : i = v.selected) : v = { v with selected := i } := by
  rw [h]

/-- **The keys that end the viewer.** -/
theorem press_eq_none_iff (v : Viewer) (t : Transcript) : v.press t key = none ↔ key.Ends := by
  unfold press
  split <;> simp_all [KeyCode.Ends]

/-- **What a key does** that does not end the viewer. -/
theorem moved_of_press (h : Shows settings loaded v) (hpress : v.press t key = some (v', t')) :
    Moved key v t v' t' := by
  have hlength := h.length
  have hselected := h.selected
  unfold press at hpress
  split at hpress
  case h_1 | h_2 => cases hpress
  case h_3 =>
    split at hpress <;> cases hpress
    · exact moved_select (by decide) (by decide) rfl
    · exact moved_select (by decide) (by decide) (eq_select (by simp only [KeyCode.move]; omega))
  case h_4 =>
    have hmove : KeyCode.down.move v.selected =
        if v.selected + 1 < v.entries.length then v.selected + 1 else v.selected := by
      simp only [KeyCode.move]
      split <;> omega
    split at hpress <;> cases hpress
    · exact moved_select (by decide) (by decide) (by rw [hmove, if_pos ‹_›])
    · exact moved_select (by decide) (by decide) (eq_select (by rw [hmove, if_neg ‹_›]))
  case h_5 =>
    have hmoved := moved_reload v t
    rwa [Option.some.inj hpress] at hmoved
  case h_6 =>
    have hmoved := moved_save v t
    rwa [Option.some.inj hpress] at hmoved
  case h_7 hup hdown hreload hsave =>
    cases hpress
    exact moved_select hreload hsave (eq_select (by cases key <;> simp_all [KeyCode.move]))

theorem Shows.moved (h : Shows settings loaded v) (hmoved : Moved key v t v' t') :
    Shows settings (if key = .char 'r' then t.files else loaded) v' where
  settings := hmoved.settings.trans h.settings
  entries := by
    rw [hmoved.entries, h.entries, h.settings]
    split <;> rfl
  selected := by
    rw [hmoved.selected]
    exact key.move_lt h.selected

/-! ## Keys one after the other -/

/-- A key that is pressed, and the files that are there at that moment. -/
structure Press where
  files : FileTree
  key : KeyCode

/-- What the viewer and its session are after keys, and whether one of them has ended it. -/
def pressAll (now : Viewer × Transcript) : List Press → (Viewer × Transcript) × Bool
  | [] => (now, false)
  | p :: rest =>
    match now.1.press { now.2 with files := p.files } p.key with
    | none => (now, true)
    | some next => pressAll next rest

/-- What is pressed before a key that ends the viewer. -/
def heeded (presses : List Press) : List Press :=
  presses.takeWhile (¬ ·.key.Ends)

/-- The files that the figures are built from, after keys. -/
def loadedFiles : FileTree → List Press → FileTree :=
  List.foldl fun loaded p => if p.key = .char 'r' then p.files else loaded

theorem heeded_cons_of_ne {p : Press} {rest : List Press} (h : ¬ p.key.Ends) :
    heeded (p :: rest) = p :: heeded rest :=
  List.takeWhile_cons_of_pos (by simpa using h)

theorem pressAll_cons_of_ne (now : Viewer × Transcript) {p : Press} (h : ¬ p.key.Ends) :
    ∃ v' t', now.1.press { now.2 with files := p.files } p.key = some (v', t') ∧
      ∀ rest, pressAll now (p :: rest) = pressAll (v', t') rest := by
  cases hpress : now.1.press { now.2 with files := p.files } p.key with
  | none => exact absurd ((press_eq_none_iff _ _).mp hpress) h
  | some next =>
    refine ⟨next.1, next.2, rfl, fun rest => ?_⟩
    rw [pressAll, hpress]

theorem pressAll_cons_of_eq {now : Viewer × Transcript} {p : Press} (h : p.key.Ends)
    (rest : List Press) : pressAll now (p :: rest) = (now, true) := by
  rw [pressAll, (press_eq_none_iff _ _).mpr h]

/-- **What the viewer shows after any keys**, by induction on them. -/
theorem shows_pressAll : ∀ (presses : List Press) (now : Viewer × Transcript) (loaded : FileTree),
    Shows settings loaded now.1 →
      Shows settings (loadedFiles loaded (heeded presses)) (pressAll now presses).1.1 ∧
        (pressAll now presses).1.1.selected =
          (heeded presses).foldl (fun i p => p.key.move i) now.1.selected := by
  intro presses
  induction presses with
  | nil => exact fun now loaded h => ⟨h, rfl⟩
  | cons p rest ih =>
    intro now loaded h
    by_cases hquit : p.key.Ends
    · have hnone : heeded (p :: rest) = [] := List.takeWhile_cons_of_neg (by simpa using hquit)
      rw [pressAll_cons_of_eq hquit, hnone]
      exact ⟨h, rfl⟩
    · obtain ⟨v', t', hpress, hrest⟩ := pressAll_cons_of_ne now hquit
      have hmoved := moved_of_press h hpress
      obtain ⟨hshows, hselected⟩ := ih (v', t') _ (h.moved hmoved)
      rw [hrest, heeded_cons_of_ne hquit]
      refine ⟨hshows, ?_⟩
      rw [hselected, hmoved.selected]
      rfl

theorem pressAll_ends : ∀ (presses : List Press) (now : Viewer × Transcript),
    pressAll now presses =
      ((pressAll now (heeded presses)).1, decide (∃ p ∈ presses, p.key.Ends)) := by
  intro presses
  induction presses with
  | nil => exact fun now => rfl
  | cons p rest ih =>
    intro now
    by_cases hquit : p.key.Ends
    · have hnone : heeded (p :: rest) = [] := List.takeWhile_cons_of_neg (by simpa using hquit)
      rw [pressAll_cons_of_eq hquit, hnone, pressAll]
      simp [hquit]
    · obtain ⟨v', t', -, hrest⟩ := pressAll_cons_of_ne now hquit
      rw [hrest, heeded_cons_of_ne hquit, hrest, ih]
      simp [hquit]

theorem shows_start (s : FigureSettings) (t : Transcript) : Shows s t.files (start s t).1 :=
  ⟨rfl, rfl, Nat.zero_lt_succ _⟩

/-- **The viewer while keys are pressed.**  Whatever keys are pressed, and whatever the files are
at each of them, the viewer lists all figures in order, one of them is selected, and the arrows
alone have moved the selection, as far as the list goes.  The figures are those of the files at the
last `r`.  The viewer ends at the first `q` or escape, which changes nothing, and at no other key;
any other key does no more than `Moved` says. -/
theorem pressAll_start (s : FigureSettings) (t : Transcript) (presses : List Press) :
    let reached := pressAll (start s t) presses
    let v := reached.1.1
    v.entries.map (·.kind) = FigureKind.all ∧
      v.selected < v.entries.length ∧
      (∃ e, v.current? = some e ∧ FigureKind.all[v.selected]? = some e.kind) ∧
      v.selected = (heeded presses).foldl (fun i p => p.key.move i) 0 ∧
      v.settings = s ∧
      v.entries = buildAll (loadedFiles t.files (heeded presses)) s ∧
      (reached.2 = true ↔ ∃ p ∈ presses, p.key = .char 'q' ∨ p.key = .esc) ∧
      reached.1 = (pressAll (start s t) (heeded presses)).1 ∧
      ∀ files key, let now := { reached.1.2 with files }
        (v.press now key = none ↔ key = .char 'q' ∨ key = .esc) ∧
          ∀ v' t', v.press now key = some (v', t') → Moved key v now v' t' := by
  intro reached v
  obtain ⟨hshows, hselected⟩ := shows_pressAll presses (start s t) _ (shows_start s t)
  have hends := pressAll_ends presses (start s t)
  refine ⟨hshows.map_kind, hshows.length ▸ hshows.selected, hshows.exists_current, hselected,
    hshows.settings, hshows.entries, ?_, (congrArg Prod.fst hends :), ?_⟩
  · rw [show reached.2 = _ from congrArg Prod.snd hends, decide_eq_true_iff]
    rfl
  · intro files key now
    exact ⟨press_eq_none_iff v now, fun v' t' hpress => moved_of_press hshows hpress⟩

end Trendline.Viewer
