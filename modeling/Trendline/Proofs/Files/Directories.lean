import Trendline.Proofs.Errors
import Trendline.Proofs.Files.Tree

/-!
# Making directories

A directory that was made, with all above it, is there: files can be put into it
by its path, also if there are slashes at the end of the path.

* `components_trimSlashes`: slashes at the end of a path stand for the directory itself.
* `holdsDirectory_of_makeDirectory`: a directory that was made is at its path.
* `exists_enter_of_makeDirectories`: so the directories that were made can be entered.
-/

namespace Trendline

/-! ## Paths -/

namespace Path

theorem exists_toList_eq (path : String) :
    ∃ k, path.toList = (trimSlashes path).toList ++ List.replicate k '/' := by
  have htake : path.toList.reverse.takeWhile (· == '/') =
      List.replicate (path.toList.reverse.takeWhile (· == '/')).length '/' :=
    List.eq_replicate_iff.mpr
      ⟨rfl, fun c hc => eq_of_beq (List.all_eq_true.mp List.all_takeWhile c hc)⟩
  refine ⟨(path.toList.reverse.takeWhile (· == '/')).length, ?_⟩
  calc path.toList
      = path.toList.reverse.reverse := (List.reverse_reverse _).symm
    _ = (path.toList.reverse.takeWhile (· == '/') ++
          path.toList.reverse.dropWhile (· == '/')).reverse := by
        rw [List.takeWhile_append_dropWhile]
    _ = (trimSlashes path).toList ++ (path.toList.reverse.takeWhile (· == '/')).reverse := by
        rw [List.reverse_append, trimSlashes, String.toList_ofList]
    _ = _ := by rw [← List.reverse_replicate, ← htake]

theorem components_slash (cs : List Char) :
    components (String.ofList (cs ++ ['/'])) = components (String.ofList cs) ++ ["."] := by
  rw [components, components, String.toList_ofList, String.toList_ofList,
    List.splitOn_append_cons_of_beq _ _ (beq_self_eq_true _), List.map_append]
  rfl

theorem components_slashes (cs : List Char) : ∀ k : Nat,
    components (String.ofList (cs ++ List.replicate k '/')) =
      components (String.ofList cs) ++ List.replicate k "." := by
  intro k
  induction k with
  | zero => rw [List.replicate_zero, List.replicate_zero, List.append_nil, List.append_nil]
  | succ k ih =>
    rw [List.replicate_succ', List.replicate_succ', ← List.append_assoc, ← List.append_assoc,
      components_slash, ih]

/-- **Slashes at the end of a path** stand for the directory itself. -/
theorem components_trimSlashes (path : String) :
    ∃ k, components path = components (trimSlashes path) ++ List.replicate k "." := by
  obtain ⟨k, hk⟩ := exists_toList_eq path
  have hslashes := components_slashes (trimSlashes path).toList k
  rw [← hk, String.ofList_toList, String.ofList_toList] at hslashes
  exact ⟨k, hslashes⟩

theorem isAbsolute_trimSlashes {path : String} (h : (trimSlashes path).isEmpty = false) :
    isAbsolute path = isAbsolute (trimSlashes path) ∧ path.isEmpty = false := by
  obtain ⟨k, hk⟩ := exists_toList_eq path
  have hne : (trimSlashes path).toList ≠ [] := by simpa using h
  rw [isAbsolute, isAbsolute, hk, List.head?_append_of_ne_nil _ hne]
  refine ⟨rfl, ?_⟩
  rw [String.isEmpty_eq_false_iff, ne_eq, ← String.toList_eq_nil_iff, hk, List.append_eq_nil_iff]
  exact fun hnil => hne hnil.1

theorem components_eq_inside {path : String} (h : path.toList.getLast? = some '/') :
    components path = inside path ++ ["."] := by
  have hne : path ≠ "" := by
    rintro rfl
    cases h
  rw [inside, if_neg hne, if_pos h, ← components_slash]
  obtain ⟨cs, hcs⟩ := List.getLast?_eq_some_iff.mp h
  rw [hcs, List.dropLast_concat, ← hcs, String.ofList_toList]

end Path

/-! ## Trees -/

namespace FileTree

variable {t t' : FileTree} {path : String}

theorem follow_replicate_dot {place : List String} (h : t.isDirectory place = true) :
    ∀ k : Nat, t.follow place (List.replicate k ".") = .ok place := by
  intro k
  induction k with
  | zero => rfl
  | succ k ih =>
    rw [List.replicate_succ, follow, h]
    exact ih

theorem holdsDirectory_iff : t.holdsDirectory path = true ↔
    ∃ place, t.locate path = .ok place ∧ t.isDirectory place = true := by
  rw [holdsDirectory]
  cases t.locate path with
  | error e => simp
  | ok place => simp

/-- **A directory that was made is at its path.** -/
theorem holdsDirectory_of_makeDirectory (h : t.makeDirectory path = .ok t') :
    t'.holdsDirectory path = true := by
  obtain ⟨place, hlocate, h⟩ := bind_eq_ok_iff.mp h
  obtain ⟨above, -, h⟩ := bind_eq_ok_iff.mp h
  split at h
  · cases h
  · have ht' := Except.ok.inj h
    have hmore : ∀ p, t.isDirectory p = true → t'.isDirectory p = true := by
      intro p hp
      rw [← ht']
      simp only [isDirectory, Bool.or_eq_true, List.contains_eq_mem, List.mem_append,
        decide_eq_true_eq] at hp ⊢
      exact hp.imp_right .inl
    have hplace : t'.isDirectory place = true := by
      rw [← ht']
      simp [isDirectory]
    rw [locate] at hlocate
    split at hlocate
    · cases hlocate
    · rename_i hempty
      rw [Bool.not_eq_true] at hempty
      -- the directory was made without the slashes, and is looked up with them
      obtain ⟨habsolute, hne⟩ := Path.isAbsolute_trimSlashes hempty
      obtain ⟨k, hk⟩ := Path.components_trimSlashes path
      refine holdsDirectory_iff.mpr ⟨place, ?_, hplace⟩
      rw [locate, hne, habsolute, hk, follow_append, if_neg Bool.false_ne_true,
        follow_mono hmore _ _ hlocate]
      exact follow_replicate_dot hplace k

/-- A directory at a path can be entered. -/
theorem exists_enter_of_holdsDirectory (h : t.holdsDirectory path = true) :
    ∃ q, t.enter path = .ok q := by
  obtain ⟨place, hlocate, hplace⟩ := holdsDirectory_iff.mp h
  rw [locate] at hlocate
  split at hlocate
  · cases hlocate
  · rename_i hempty
    have hne : path ≠ "" := by
      rintro rfl
      exact hempty rfl
    refine ⟨place, ?_⟩
    rw [enter]
    by_cases hlast : path.toList.getLast? = some '/'
    · rw [← Path.components_eq_inside hlast]
      exact hlocate
    · rw [Path.inside, if_neg hne, if_neg hlast, follow_append, hlocate]
      show t.follow place ["."] = _
      rw [follow_dot, if_pos hplace]

theorem holdsDirectory_of_makeAll {fuel : Nat} (h : makeAll (fuel + 1) t path = .ok t') :
    path = "" ∨ t'.holdsDirectory path = true := by
  rw [makeAll] at h
  split at h
  · rename_i hthere
    rw [Bool.or_eq_true] at hthere
    rw [← Except.ok.inj h]
    exact hthere.imp_left String.isEmpty_iff.mp
  · refine .inr ?_
    split at h
    · rename_i made hmade
      rw [← Except.ok.inj h]
      exact holdsDirectory_of_makeDirectory hmade
    · obtain ⟨parents, -, h⟩ := bind_eq_ok_iff.mp h
      split at h
      · rename_i hholds
        rw [← Except.ok.inj h]
        exact hholds
      · exact holdsDirectory_of_makeDirectory h
    · cases h

/-- **Directories that were made** can be entered. -/
theorem exists_enter_of_makeDirectories (h : t.makeDirectories path = .ok t') :
    ∃ q, t'.enter path = .ok q := by
  rcases holdsDirectory_of_makeAll h with rfl | hholds
  · exact ⟨[], rfl⟩
  · exact exists_enter_of_holdsDirectory hholds

end FileTree

end Trendline
