import Mathlib.Data.List.Basic
import Trendline.Files.Tree

/-!
# Files in a directory

The path of a file in a directory leads to one place below the place of that
directory.  So a file that was written is read back as it was written, and the
files under other names stay as they were.

* `file?_putFile`: a tree with one file more.
* `follow_append`: a path is followed one part after the other.
* `follow_mono`: it leads to the same place where there are more directories.
* `locate_join`: where the path of a file in a directory leads.
* `write_join_eq_ok_iff`: when a file is written, and what the tree is then.
* `read_join`: reading from a directory.
-/

namespace Trendline

/-- Whether a text is the name of a file: one component of a path that can be followed. -/
def IsFileName (name : String) : Prop :=
  name ≠ "" ∧ '/' ∉ name.toList ∧ name ≠ "." ∧ name ≠ ".." ∧
    name.utf8ByteSize ≤ FileTree.longestName

instance (name : String) : Decidable (IsFileName name) :=
  inferInstanceAs (Decidable (_ ∧ _))

variable {name : String}

theorem IsFileName.toList_ne_nil (h : IsFileName name) : name.toList ≠ [] := by
  simpa using h.1

theorem IsFileName.getLast?_toList_ne (h : IsFileName name) : name.toList.getLast? ≠ some '/' :=
  fun hlast => h.2.1 (List.mem_of_getLast? hlast)

/-! ## Paths -/

namespace Path

/-- The components of a directory, before the name of a file in it. -/
def inside (dir : String) : List String :=
  if dir = "" then []
  else if dir.toList.getLast? = some '/' then components (String.ofList dir.toList.dropLast)
  else components dir

theorem components_append_slash (dir : String) (h : IsFileName name) :
    components (dir ++ "/" ++ name) = components dir ++ [name] := by
  have hlist : (dir ++ "/" ++ name).toList = dir.toList ++ '/' :: name.toList := by simp
  rw [components, components, hlist, List.splitOn_append_cons_of_beq _ _ (beq_self_eq_true _),
    List.splitOn_eq_singleton h.2.1, List.map_append, List.map_singleton]
  simp [h.1]

theorem components_of_isFileName (h : IsFileName name) : components name = [name] := by
  rw [components, List.splitOn_eq_singleton h.2.1]
  simp [h.1]

theorem append_slash_of_getLast? {dir : String} (h : dir.toList.getLast? = some '/') :
    String.ofList dir.toList.dropLast ++ "/" = dir := by
  obtain ⟨cs, hcs⟩ := List.getLast?_eq_some_iff.mp h
  apply String.toList_inj.mp
  rw [hcs]
  simp

theorem isAbsolute_of_isFileName (h : IsFileName name) : isAbsolute name = false := by
  rw [isAbsolute, beq_eq_false_iff_ne]
  exact fun hhead => h.2.1 (List.mem_of_head? hhead)

theorem components_join (dir : String) (h : IsFileName name) :
    components (join dir name) = inside dir ++ [name] := by
  rw [join, inside, isAbsolute_of_isFileName h, Bool.false_or]
  by_cases hempty : dir = ""
  · subst hempty
    exact components_of_isFileName h
  · have hfalse : dir.isEmpty = false := by simpa using hempty
    rw [hfalse, if_neg (by simp), if_neg hempty]
    split
    case isTrue hlast =>
      rw [← components_append_slash _ h, append_slash_of_getLast? hlast]
    case isFalse hlast =>
      exact components_append_slash _ h

theorem toList_join (dir : String) (h : IsFileName name) :
    ∃ before, (join dir name).toList = before ++ name.toList ∧
      (before.head? == some '/') = isAbsolute dir := by
  rw [join, isAbsolute_of_isFileName h, Bool.false_or]
  by_cases hempty : dir = ""
  · subst hempty
    exact ⟨[], rfl, rfl⟩
  · have hfalse : dir.isEmpty = false := by simpa using hempty
    have hne : dir.toList ≠ [] := by simpa using hempty
    rw [hfalse, if_neg (by simp)]
    split
    case isTrue => exact ⟨dir.toList, by simp, rfl⟩
    case isFalse =>
      refine ⟨dir.toList ++ ['/'], by simp, ?_⟩
      rw [isAbsolute, List.head?_append_of_ne_nil _ hne]

theorem isAbsolute_join (dir : String) (h : IsFileName name) :
    isAbsolute (join dir name) = isAbsolute dir := by
  obtain ⟨before, hlist, hhead⟩ := toList_join dir h
  rw [← hhead, isAbsolute, hlist]
  cases before with
  | nil => exact isAbsolute_of_isFileName h
  | cons c before => rfl

theorem isEmpty_join (dir : String) (h : IsFileName name) : (join dir name).isEmpty = false := by
  obtain ⟨before, hlist, -⟩ := toList_join dir h
  rw [String.isEmpty_eq_false_iff, ne_eq, ← String.toList_eq_nil_iff, hlist, List.append_eq_nil_iff]
  exact fun hnil => h.toList_ne_nil hnil.2

theorem getLast?_join (dir : String) (h : IsFileName name) :
    (join dir name).toList.getLast? ≠ some '/' := by
  obtain ⟨before, hlist, -⟩ := toList_join dir h
  rw [hlist, List.getLast?_append_of_ne_nil _ h.toList_ne_nil]
  exact h.getLast?_toList_ne

theorem trimSlashes_of_getLast? {path : String} (h : path.toList.getLast? ≠ some '/') :
    trimSlashes path = path := by
  have hkeep : path.toList.reverse.dropWhile (· == '/') = path.toList.reverse := by
    rw [← List.head?_reverse] at h
    cases hrev : path.toList.reverse with
    | nil => rfl
    | cons c cs =>
      rw [hrev] at h
      exact List.dropWhile_cons_of_neg (by simpa using h)
  rw [trimSlashes, hkeep, List.reverse_reverse, String.ofList_toList]

end Path

/-! ## Trees -/

namespace FileTree

variable {t t' : FileTree} {dir : String} {place : List String} {c : Content}

/-- **A tree with one file more.** -/
theorem file?_putFile (t : FileTree) (place other : List String) (c : Content) :
    (t.putFile place c).file? other = if other = place then some c else t.file? other := by
  have hfilter : ∀ l : List (List String × Content),
      (l.filter (·.1 != place)).lookup other =
        if other = place then none else l.lookup other := by
    intro l
    induction l with
    | nil => simp
    | cons f l ih =>
      obtain ⟨key, content⟩ := f
      by_cases hkey : key = place
      · rw [List.filter_cons_of_neg (by simp [hkey]), ih, List.lookup_cons, hkey]
        split
        case isTrue => rfl
        case isFalse hother => rw [beq_eq_false_iff_ne.mpr hother]
      · rw [List.filter_cons_of_pos (by simp [hkey]), List.lookup_cons, List.lookup_cons, ih]
        by_cases hother : other = place
        · rw [if_pos hother, if_pos hother, hother,
            beq_eq_false_iff_ne.mpr (fun heq => hkey heq.symm)]
        · rw [if_neg hother, if_neg hother]
  rw [file?, putFile, List.lookup_append, hfilter, List.lookup_cons, List.lookup_nil, file?]
  split
  case isTrue hother => rw [hother, beq_self_eq_true, Option.none_or]
  case isFalse hother => rw [beq_eq_false_iff_ne.mpr hother, Option.or_none]

/-- **A path is followed one part after the other.** -/
theorem follow_append (t : FileTree) : ∀ (xs ys : List String) (place : List String),
    t.follow place (xs ++ ys) = (t.follow place xs).bind (t.follow · ys) := by
  intro xs ys
  induction xs with
  | nil => exact fun place => rfl
  | cons name xs ih =>
    intro place
    rw [List.cons_append, follow, follow]
    split
    · rfl
    · split
      · exact ih place
      · split
        · exact ih (above place)
        · split
          · rfl
          · exact ih (place ++ [name])

/-- **A path leads to the same place where there are more directories.** -/
theorem follow_mono (h : ∀ place, t.isDirectory place = true → t'.isDirectory place = true)
    {q : List String} : ∀ (xs : List String) (place : List String),
      t.follow place xs = .ok q → t'.follow place xs = .ok q := by
  intro xs
  induction xs with
  | nil => exact fun place heq => heq
  | cons name xs ih =>
    intro place heq
    rw [follow] at heq ⊢
    have hplace := h place
    -- the refusals are the only branches that look at the files
    grind

theorem isDirectory_congr (h : t'.directories = t.directories) (place : List String) :
    t'.isDirectory place = t.isDirectory place := by
  rw [isDirectory, isDirectory, h]

/-- The place of a directory, which has to be there. -/
def enter (t : FileTree) (dir : String) : Except PathError (List String) :=
  t.follow (if Path.isAbsolute dir then ["/"] else []) (Path.inside dir ++ ["."])

theorem enter_congr (h : t'.directories = t.directories) {q : List String}
    (hq : t.enter dir = .ok q) : t'.enter dir = .ok q :=
  follow_mono (fun place hplace => (isDirectory_congr h place).trans hplace) _ _ hq

theorem follow_dot (t : FileTree) (place : List String) :
    t.follow place ["."] =
      if t.isDirectory place then .ok place
      else .error (if (t.file? place).isSome then .notDirectory else .notFound) := by
  rw [follow, follow]
  by_cases h : t.isDirectory place <;> simp [h]

theorem isDirectory_of_enter {q : List String} (h : t.enter dir = .ok q) :
    t.isDirectory q = true := by
  rw [enter, follow_append] at h
  cases hx : t.follow (if Path.isAbsolute dir then ["/"] else []) (Path.inside dir) with
  | error e => exact absurd (hx ▸ h) (by simp [Except.bind])
  | ok p =>
    rw [hx, Except.bind, follow_dot] at h
    split at h
    · rename_i hdir
      cases h
      exact hdir
    · exact absurd h (by simp)

theorem follow_singleton (t : FileTree) (place : List String) (h : IsFileName name) :
    t.follow place [name] = (t.follow place ["."]).map (· ++ [name]) := by
  rw [follow_dot, follow]
  by_cases hdir : t.isDirectory place
  · have hlong : ¬ longestName < name.utf8ByteSize := Nat.not_lt.mpr h.2.2.2.2
    simp [hdir, h.2.2.1, h.2.2.2.1, hlong, follow, Except.map]
  · simp [hdir, Except.map]

/-- **Where the path of a file in a directory leads.** -/
theorem locate_join (t : FileTree) (dir : String) (h : IsFileName name) :
    t.locate (Path.join dir name) = (t.enter dir).map (· ++ [name]) := by
  rw [locate, Path.isEmpty_join dir h, Path.isAbsolute_join dir h, Path.components_join dir h,
    enter, follow_append, follow_append]
  cases t.follow (if Path.isAbsolute dir then ["/"] else []) (Path.inside dir) with
  | error e => rfl
  | ok p => exact follow_singleton t p h

/-- Writing into a directory that is there fails where a directory has the name of the file. -/
theorem write_join (h : IsFileName name) {q : List String} (hq : t.enter dir = .ok q) :
    t.write (Path.join dir name) c =
      if t.isDirectory (q ++ [name]) then .error .isDirectory
      else .ok (t.putFile (q ++ [name]) c) := by
  rw [write, Path.trimSlashes_of_getLast? (Path.getLast?_join dir h), locate_join t dir h, hq]
  have hthere : t.follow q ["."] = .ok q := by
    rw [follow_dot, isDirectory_of_enter hq, if_pos rfl]
  simp only [Except.map, bind, Except.bind, List.dropLast_concat, hthere,
    Path.getLast?_join dir h, or_false, pure, Except.pure]

/-- **When a file is written**, and what the tree is then. -/
theorem write_join_eq_ok_iff (h : IsFileName name) :
    t.write (Path.join dir name) c = .ok t' ↔
      ∃ q, t.enter dir = .ok q ∧ t.isDirectory (q ++ [name]) = false ∧
        t' = t.putFile (q ++ [name]) c := by
  constructor
  · intro hw
    cases hq : t.enter dir with
    | error e =>
      rw [write, Path.trimSlashes_of_getLast? (Path.getLast?_join dir h), locate_join t dir h,
        hq] at hw
      exact absurd hw (by simp [Except.map, bind, Except.bind])
    | ok q =>
      rw [write_join h hq] at hw
      split at hw
      · exact absurd hw (by simp)
      · rename_i hdir
        exact ⟨q, rfl, by simpa using hdir, (Except.ok.inj hw).symm⟩
  · rintro ⟨q, hq, hdir, rfl⟩
    rw [write_join h hq, hdir]
    rfl

/-- **Reading from a directory.** -/
theorem read_join (h : IsFileName name) {q : List String} (hq : t.enter dir = .ok q)
    (hc : t.file? (q ++ [name]) = some c) : t.read (Path.join dir name) = .ok c := by
  rw [read, locate_join t dir h, hq]
  simp only [Except.map, bind, Except.bind, hc, pure, Except.pure]

end FileTree

end Trendline
