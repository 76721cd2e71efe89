import Trendline.Program.Commands
import Trendline.Proofs.Files.Directories

/-!
# Writing tables

A table that is written leaves the directories as they are, and the other files.
So tables under different names are all written, and each of them stays.

* `run_bind`: a session goes on where its first step ended.
* `Wrote`: a tree with some tables more in a directory.
* `run_writeTables`: tables are written into a directory that is there.
* `run_makeDirectories_writeTables`: and into one that is made for them.
* `Wrote.ofFile_eq`: such a table is read from its text.
-/

namespace Trendline

variable {α β : Type} {t t' : Transcript}

/-! ## Sessions -/

namespace Session

theorem run_bind {m : Session α} {f : α → Session β} {a : α} (h : m.run.run t = (.ok a, t')) :
    (m >>= f).run.run t = (f a).run.run t' := by
  show (ExceptT.bindCont f (m.run.run t).1).run (m.run.run t).2 = _
  rw [h]
  rfl

theorem run_ofExcept {x : Except Failure α} {a : α} (h : x = .ok a) :
    (ofExcept (x.mapError .refused)).run.run t = (.ok a, t) := by
  rw [h]
  rfl

theorem run_change {f : FileTree → Except Failure FileTree} {files : FileTree}
    (h : f t.files = .ok files) : (change f).run.run t = (.ok (), { t with files }) := by
  have hfiles : (ofExcept ((f t.files).mapError .refused)).run.run t = (.ok files, t) :=
    run_ofExcept h
  have hget : (get : Session Transcript).run.run t = (.ok t, t) := rfl
  rw [change, run_bind hget, run_bind hfiles]
  rfl

end Session

/-! ## Tables -/

/-- Whether a tree has these tables more, at a place, and is the same otherwise. -/
structure Wrote (q : List String) (tables : List Csv.Table) (files files' : FileTree) : Prop where
  directories : files'.directories = files.directories
  other : ∀ place, (∀ table ∈ tables, place ≠ q ++ [table.fileName]) →
    files'.file? place = files.file? place
  table : ∀ table ∈ tables, ∃ text, table.text = .ok text ∧
    files'.file? (q ++ [table.fileName]) = some (.bytes text.toUTF8.toList)

variable {dir : String} {q : List String} {files : FileTree}

theorem saveText_join {name : String} (h : IsFileName name) (hq : files.enter dir = .ok q)
    (hfree : files.isDirectory (q ++ [name]) = false) (kind text : String) :
    files.saveText kind (Path.join dir name) text =
      .ok (files.putFile (q ++ [name]) (.bytes text.toUTF8.toList)) := by
  rw [FileTree.saveText, (FileTree.write_join_eq_ok_iff h).mpr ⟨q, hq, hfree, rfl⟩]
  rfl

/-- **One table more.** -/
theorem Wrote.cons {table : Csv.Table} {rest : List Csv.Table} {files' : FileTree} {text : String}
    (htext : table.text = .ok text) (hfresh : table.fileName ∉ rest.map (·.fileName))
    (h : Wrote q rest (files.putFile (q ++ [table.fileName]) (.bytes text.toUTF8.toList)) files') :
    Wrote q (table :: rest) files files' where
  directories := h.directories
  other place hplace := by
    obtain ⟨hne, hrest⟩ := List.forall_mem_cons.mp hplace
    rw [h.other place hrest, FileTree.file?_putFile, if_neg hne]
  table := by
    refine List.forall_mem_cons.mpr ⟨⟨text, htext, ?_⟩, h.table⟩
    -- none of the tables that are written later goes to the same place
    have hplace : ∀ table' ∈ rest, q ++ [table.fileName] ≠ q ++ [table'.fileName] := by
      intro table' hmem heq
      have hname : table.fileName = table'.fileName := by simpa using heq
      exact hfresh (hname ▸ List.mem_map_of_mem hmem)
    rw [h.other _ hplace, FileTree.file?_putFile, if_pos rfl]

/-- **Tables are written** into a directory that is there. -/
theorem run_writeTables : ∀ {tables : List Csv.Table} {t : Transcript},
    t.files.enter dir = .ok q → (tables.map (·.fileName)).Nodup →
    (∀ table ∈ tables, IsFileName table.fileName ∧ (∃ text, table.text = .ok text) ∧
      t.files.isDirectory (q ++ [table.fileName]) = false) →
    ∃ t', (writeTables dir tables).run.run t =
        (.ok (tables.map fun table => Path.join dir table.fileName), t') ∧
      Wrote q tables t.files t'.files := by
  intro tables
  induction tables with
  | nil => exact fun {t} _ _ _ => ⟨t, rfl, rfl, fun _ _ => rfl, nofun⟩
  | cons table rest ih =>
    intro t hq hnames htables
    obtain ⟨hfresh, hnames⟩ := List.nodup_cons.mp hnames
    obtain ⟨⟨hname, ⟨text, htext⟩, hfree⟩, hrest⟩ := List.forall_mem_cons.mp htables
    have hsave := saveText_join hname hq hfree "" text
    let t₁ : Transcript := { t with
      files := t.files.putFile (q ++ [table.fileName]) (.bytes text.toUTF8.toList) }
    let t₂ : Transcript := { t₁ with
      notes := t₁.notes ++ [writtenNote table (Path.join dir table.fileName)] }
    have hdirectories : t₂.files.directories = t.files.directories := rfl
    obtain ⟨t', hrun, hwrote⟩ := ih (FileTree.enter_congr hdirectories hq) hnames hrest
    have hchange : (Session.change fun files =>
        files.saveText "" (Path.join dir table.fileName) text).run.run t = (.ok (), t₁) :=
      Session.run_change hsave
    have hnote : (Session.note (writtenNote table (Path.join dir table.fileName))).run.run t₁ =
        (.ok (), t₂) := rfl
    refine ⟨t', ?_, hwrote.cons htext hfresh⟩
    rw [writeTables, Session.run_bind (Session.run_ofExcept htext), Session.run_bind hchange,
      Session.run_bind hnote, Session.run_bind hrun]
    rfl

/-- **Tables are written** into a directory that is made for them. -/
theorem run_makeDirectories_writeTables {tables : List Csv.Table}
    (hmake : t.files.makeDirectories dir = .ok files) (hnames : (tables.map (·.fileName)).Nodup)
    (htables : ∀ table ∈ tables, IsFileName table.fileName ∧ (∃ text, table.text = .ok text) ∧
      files.holdsDirectory (Path.join dir table.fileName) = false) :
    ∃ q t', files.enter dir = .ok q ∧
      (do makeDirectories dir; writeTables dir tables : Session (List String)).run.run t =
        (.ok (tables.map fun table => Path.join dir table.fileName), t') ∧
      Wrote q tables files t'.files := by
  obtain ⟨q, hq⟩ := FileTree.exists_enter_of_makeDirectories hmake
  have hmade : (makeDirectories dir).run.run t = (.ok (), { t with files }) := by
    refine Session.run_change ?_
    rw [hmake]
    rfl
  have hfree : ∀ table ∈ tables, files.isDirectory (q ++ [table.fileName]) = false := by
    intro table hmem
    obtain ⟨hname, -, hholds⟩ := htables table hmem
    rwa [FileTree.holdsDirectory, FileTree.locate_join files dir hname, hq] at hholds
  obtain ⟨t', hrun, hwrote⟩ := run_writeTables (t := { t with files }) hq hnames
    fun table hmem => ⟨(htables table hmem).1, (htables table hmem).2.1, hfree table hmem⟩
  refine ⟨q, t', hq, ?_, hwrote⟩
  rw [Session.run_bind hmade]
  exact hrun

/-- A table that was written is read from its text. -/
theorem Wrote.ofFile_eq {tables : List Csv.Table} {files' : FileTree}
    (h : Wrote q tables files files') (hq : files.enter dir = .ok q) {table : Csv.Table}
    (hmem : table ∈ tables) (hname : IsFileName table.fileName) :
    ∃ text, table.text = .ok text ∧
      Dataset.ofFile files' (Path.join dir table.fileName) =
        Dataset.ofBytes (Path.join dir table.fileName) text.toUTF8.toList := by
  obtain ⟨text, htext, hfile⟩ := h.table table hmem
  refine ⟨text, htext, ?_⟩
  rw [Dataset.ofFile, FileTree.read_join hname (FileTree.enter_congr h.directories hq) hfile]
  rfl

end Trendline
