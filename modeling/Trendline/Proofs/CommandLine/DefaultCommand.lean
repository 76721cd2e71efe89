import Trendline.Program.Run
import Trendline.Proofs.CommandLine.Options
import Trendline.Proofs.CommandLine.Values

/-!
# The default command

Without a command the viewer is meant.  Whether there is one is decided by the words as such, so a
command line of nothing but options of the viewer opens it unless a directory or a list of groups
is called like a command.

* `withDefault_withDefault`: a second look changes nothing.
* `withDefault_viewerWords`: when the name of the viewer is put in front of its options.
* `AreReadable`: which options can be read together.
* `read_viewerWords_eq_ok_iff`: what they are read as after the name of the viewer.
* `not_command_of_readWords`: without a name in front there is no command among them.
* `launch_viewerWords`: which options open the viewer, and on what.
-/

namespace Trendline.CommandLine

/-! ## Putting the name in front -/

theorem withDefault_eq (words : List String) :
    withDefault words = words ∨ withDefault words = "tui" :: words := by
  cases words with
  | nil => exact .inr rfl
  | cons first rest =>
    rw [withDefault]
    split
    · exact .inl rfl
    · split
      · exact .inl rfl
      · split
        · exact .inr rfl
        · exact .inl rfl

theorem withDefault_tui_cons (words : List String) :
    withDefault ("tui" :: words) = "tui" :: words := by
  have hany : (("tui" :: words).any fun word => commandNames.contains word) = true := by
    rw [List.any_cons, show commandNames.contains "tui" = true by decide, Bool.true_or]
  rw [withDefault, if_neg (by decide), if_pos hany]

/-- **A second look changes nothing.** -/
theorem withDefault_withDefault (words : List String) :
    withDefault (withDefault words) = withDefault words := by
  rcases withDefault_eq words with h | h
  · rw [h, h]
  · rw [h, withDefault_tui_cons]

/-! ## Options of the viewer -/

/-- An option of the viewer with its value. -/
inductive ViewOption where
  | dataDir (dir : String)
  | groups (word : String)

namespace ViewOption

/-- The name after the two dashes. -/
def name : ViewOption → String
  | dataDir _ => "data-dir"
  | groups _ => "groups"

def value : ViewOption → String
  | dataDir dir => dir
  | groups word => word

/-- The directory that is named, if one is. -/
def dir? : ViewOption → Option String
  | dataDir dir => some dir
  | groups _ => none

/-- The groups that are named. -/
def values : ViewOption → List Value
  | dataDir _ => []
  | groups word => (parts word).map .parse

/-- Whether the value can be read: a directory is not empty, and no group is blank. -/
def IsReadable : ViewOption → Prop
  | dataDir dir => dir ≠ ""
  | groups word => ∀ part ∈ parts word, Text.isAllBlank part = false

/-- The argument of the viewer that the option is. -/
def argument : ViewOption → Argument (Option String × ViewCommand)
  | dataDir _ => viewGrammar.withDataDir.options[0]
  | groups _ => viewGrammar.withDataDir.options[1]

/-- What the option adds to the settings of the viewer. -/
def put (o : ViewOption) (s : Option String × ViewCommand) : Option String × ViewCommand :=
  (o.dir? <|> s.1, { s.2 with groups := s.2.groups ++ o.values })

variable (o : ViewOption)

theorem name_argument : o.argument.name = o.name := by
  cases o <;> rfl

theorem name_mem : o.name ∈ ["data-dir", "groups"] := by
  cases o with
  | dataDir dir => exact List.mem_cons_self
  | groups word => exact List.mem_cons_of_mem _ List.mem_cons_self

theorem ofString_name : Word.ofString ("--" ++ o.name) = .long o.name none := by
  have hnames : ∀ name ∈ ["data-dir", "groups"],
      Word.ofString ("--" ++ name) = .long name none := by decide
  exact hnames _ o.name_mem

theorem hasOption_argument : viewGrammar.withDataDir.HasOption o.argument where
  found := by cases o <;> rfl
  takesValue := by cases o <;> nofun
  ofString_word := by rw [name_argument, ofString_name]
  not_command := rfl

theorem store_argument_eq_ok_iff {s s' : Option String × ViewCommand} :
    o.argument.store o.value s = .ok s' ↔ o.IsReadable ∧ o.put s = s' := by
  cases o with
  | dataDir dir =>
    show ((((if dir.isEmpty then .error .absent else .ok dir : Except ValueFault String).map
      some).map fun d => (d, s.2)) = .ok s') ↔ dir ≠ "" ∧ _
    rw [ne_eq, ← String.isEmpty_iff]
    split
    · rename_i hempty
      exact iff_of_false nofun fun h => h.1 hempty
    · rename_i hnonempty
      have hput : (dataDir dir).put s = (some dir, s.2) := by
        rw [put, values, List.append_nil]
        rfl
      exact ⟨fun h => ⟨hnonempty, hput.trans (Except.ok.inj h)⟩,
        fun h => congrArg Except.ok (hput.symm.trans h.2)⟩
  | groups word =>
    show (((readGroups word).map fun v => { s.2 with groups := s.2.groups ++ v }).map
      fun c => (s.1, c)) = .ok s' ↔ _
    cases hread : readGroups word with
    | error fault =>
      refine iff_of_false nofun fun h => ?_
      cases hread.symm.trans (readGroups_eq_ok_iff.mpr ⟨h.1, rfl⟩)
    | ok groups =>
      obtain ⟨hblank, hvalues⟩ := readGroups_eq_ok_iff.mp hread
      have hput : (ViewOption.groups word).put s =
          (s.1, { s.2 with groups := s.2.groups ++ groups }) := by
        rw [← hvalues]
        rfl
      exact ⟨fun h => ⟨hblank, hput.trans (Except.ok.inj h)⟩,
        fun h => congrArg Except.ok (hput.symm.trans h.2)⟩

end ViewOption

/-- The words of options. -/
def viewerWords (options : List ViewOption) : List String :=
  options.flatMap fun o => ["--" ++ o.name, o.value]

theorem viewerWords_cons (o : ViewOption) (rest : List ViewOption) :
    viewerWords (o :: rest) = ("--" ++ o.name) :: o.value :: viewerWords rest :=
  rfl

/-- The directories that options name. -/
def dirsOf (options : List ViewOption) : List String :=
  options.filterMap ViewOption.dir?

/-- The groups that options name. -/
def groupsOf (options : List ViewOption) : List Value :=
  options.flatMap ViewOption.values

theorem any_viewerWords (options : List ViewOption) :
    ((viewerWords options).any fun word => commandNames.contains word) = true ↔
      ∃ o ∈ options, o.value ∈ commandNames := by
  induction options with
  | nil => simp [viewerWords]
  | cons o rest ih =>
    have hname : commandNames.contains ("--" ++ o.name) = false := by
      cases o <;> rfl
    rw [viewerWords_cons, List.any_cons, List.any_cons, hname, Bool.false_or, Bool.or_eq_true, ih,
      List.contains_iff_mem, List.exists_mem_cons_iff]

theorem withDefault_viewerWords {options : List ViewOption} (h : options ≠ []) :
    withDefault (viewerWords options) =
      if ∃ o ∈ options, o.value ∈ commandNames then viewerWords options
      else "tui" :: viewerWords options := by
  obtain ⟨o, rest, rfl⟩ := List.exists_cons_of_ne_nil h
  have hnames : ∀ name ∈ ["data-dir", "groups"],
      "--" ++ name ∉ questions ∧ ("--" ++ name).toList.head? = some '-' := by decide
  obtain ⟨hquestion, hdash⟩ := hnames _ o.name_mem
  rw [viewerWords_cons, withDefault, if_neg hquestion, if_pos hdash, ← viewerWords_cons]
  simp only [any_viewerWords]

/-! ## Reading the options -/

theorem take_argument_eq_ok_iff {r r' : Reading (Option String × ViewCommand)} (o : ViewOption) :
    r.take o.argument o.value = .ok r' ↔
      (o.dir?.isSome → "data-dir" ∉ r.given) ∧ o.IsReadable ∧
        r' = { r with settings := o.put r.settings, given := o.name :: r.given } := by
  have harity : (o.argument.arity ≠ .many → o.argument.name ∉ r.given) ↔
      (o.dir?.isSome → "data-dir" ∉ r.given) := by
    cases o with
    | dataDir dir => exact ⟨fun h _ => h nofun, fun h _ => h rfl⟩
    | groups word => exact iff_of_true (fun h => absurd rfl h) nofun
  rw [Reading.take_eq_ok_iff, harity]
  refine and_congr_right fun _ => ?_
  simp only [o.store_argument_eq_ok_iff, o.name_argument, and_assoc, exists_and_left,
    exists_eq_left']

/-- Whether at most one option names a directory, and none if one was given before. -/
def NameOneDir (given : List String) (options : List ViewOption) : Prop :=
  (dirsOf options).length ≤ 1 ∧ (dirsOf options ≠ [] → "data-dir" ∉ given)

theorem nameOneDir_cons_iff {given : List String} {o : ViewOption} {rest : List ViewOption} :
    NameOneDir given (o :: rest) ↔
      (o.dir?.isSome → "data-dir" ∉ given) ∧ NameOneDir (o.name :: given) rest := by
  cases o with
  | dataDir dir =>
    have hdirs : dirsOf (.dataDir dir :: rest) = dir :: dirsOf rest := rfl
    have hlater : NameOneDir ("data-dir" :: given) rest ↔ dirsOf rest = [] := by
      rw [NameOneDir]
      exact ⟨fun h => by_contra fun hne => h.2 hne List.mem_cons_self, fun h => by simp [h]⟩
    rw [ViewOption.name, hlater, NameOneDir, hdirs]
    simp [ViewOption.dir?, and_comm]
  | groups word =>
    have hdirs : dirsOf (.groups word :: rest) = dirsOf rest := rfl
    rw [NameOneDir, NameOneDir, hdirs]
    simp [ViewOption.dir?, ViewOption.name]

/-- **Options taken in turn**: all have to be readable, and only one may name a directory. -/
theorem foldlM_take_iff : ∀ {options : List ViewOption}
    {r out : Reading (Option String × ViewCommand)},
    options.foldlM (fun r o => r.take o.argument o.value) r = .ok out ↔
      (∀ o ∈ options, o.IsReadable) ∧ NameOneDir r.given options ∧
      out = { r with
        settings := options.foldl (fun s o => o.put s) r.settings
        given := options.foldl (fun given o => o.name :: given) r.given } := by
  intro options
  induction options with
  | nil =>
    intro r out
    exact ⟨fun h => ⟨nofun, ⟨Nat.zero_le 1, nofun⟩, (Except.ok.inj h).symm⟩,
      fun h => congrArg Except.ok h.2.2.symm⟩
  | cons o rest ih =>
    intro r out
    rw [List.foldlM_cons, bind_eq_ok_iff, List.forall_mem_cons, nameOneDir_cons_iff]
    constructor
    · rintro ⟨next, htake, hrest⟩
      obtain ⟨hnew, hreadable, rfl⟩ := (take_argument_eq_ok_iff o).mp htake
      obtain ⟨hreadables, hone, rfl⟩ := ih.mp hrest
      exact ⟨⟨hreadable, hreadables⟩, ⟨hnew, hone⟩, rfl⟩
    · rintro ⟨⟨hreadable, hreadables⟩, ⟨hnew, hone⟩, rfl⟩
      exact ⟨_, (take_argument_eq_ok_iff o).mpr ⟨hnew, hreadable, rfl⟩,
        ih.mpr ⟨hreadables, hone, rfl⟩⟩

/-- What options come to: the last directory that is named, and all groups. -/
theorem foldl_put : ∀ (options : List ViewOption) (s : Option String × ViewCommand),
    options.foldl (fun s o => o.put s) s =
      ((dirsOf options).getLast? <|> s.1,
        { s.2 with groups := s.2.groups ++ groupsOf options }) := by
  intro options
  induction options with
  | nil =>
    intro s
    simp [dirsOf, groupsOf]
  | cons o rest ih =>
    intro s
    have hgroups : groupsOf (o :: rest) = o.values ++ groupsOf rest := rfl
    rw [List.foldl_cons, ih, ViewOption.put, hgroups, List.append_assoc]
    cases o with
    | dataDir dir =>
      have hdirs : dirsOf (.dataDir dir :: rest) = dir :: dirsOf rest := rfl
      rw [hdirs, List.getLast?_cons]
      cases (dirsOf rest).getLast? <;> rfl
    | groups word => rfl

/-- Whether options can be read: their values do not begin like an option and can be read, and at
most one names a directory. -/
structure AreReadable (options : List ViewOption) : Prop where
  plain : ∀ o ∈ options, o.value.toList.head? ≠ some '-' ∨ o.value = "-"
  readable : ∀ o ∈ options, o.IsReadable
  oneDir : (dirsOf options).length ≤ 1

theorem viewerWords_eq_pairWords (options : List ViewOption) :
    viewerWords options = Grammar.pairWords (options.map fun o => (o.argument, o.value)) := by
  rw [viewerWords, Grammar.pairWords, List.flatMap_map]
  simp only [ViewOption.name_argument]

/-- **The options of the viewer** are read if they can be, and nothing else is. -/
theorem read_viewerWords_eq_ok_iff {options : List ViewOption}
    {s : Option String × ViewCommand} :
    viewGrammar.withDataDir.read (none, {}) (viewerWords options) = .ok s ↔
      AreReadable options ∧ s = ((dirsOf options).getLast?, ⟨groupsOf options⟩) := by
  have hoptions : ∀ p ∈ options.map fun o => (o.argument, o.value),
      viewGrammar.withDataDir.HasOption p.1 :=
    List.forall_mem_map.mpr fun o _ => o.hasOption_argument
  rw [viewerWords_eq_pairWords, Grammar.read_eq_ok_iff]
  simp only [Grammar.readsTo_pairWords_iff hoptions (viewGrammar.withDataDir.start (none, {})) rfl,
    List.forall_mem_map, List.foldlM_map, Word.ofString_eq_plain_iff, true_and]
  have hput : options.foldl (fun s o => o.put s) (none, {}) =
      ((dirsOf options).getLast?, ⟨groupsOf options⟩) := by
    simp [foldl_put]
  constructor
  · rintro ⟨out, ⟨hplain, settled, hsettle, hfold⟩, -, rfl⟩
    obtain rfl := Except.ok.inj hsettle
    obtain ⟨hreadable, hone, rfl⟩ := foldlM_take_iff.mp hfold
    exact ⟨⟨hplain, hreadable, hone.1⟩, hput⟩
  · rintro ⟨⟨hplain, hreadable, hone⟩, rfl⟩
    exact ⟨_, ⟨hplain, _, rfl,
      foldlM_take_iff.mpr ⟨hreadable, ⟨hone, fun _ => List.not_mem_nil⟩, rfl⟩⟩, rfl, hput⟩

/-! ## Opening the viewer -/

theorem read_tui_cons (words : List String) :
    Invocation.read ("tui" :: words) =
      (viewGrammar.withDataDir.read (none, {}) words).map fun s => ⟨s.1, .tui s.2⟩ := by
  have hread : topGrammar.readWords (topGrammar.start none) ("tui" :: words) =
      .ok (topGrammar.start none, some ("tui", words)) := by
    rw [Grammar.readWords, if_pos (by decide)]
  have hcommand : readCommand "tui" words =
      viewGrammar.withDataDir.read (none, {}) words >>= fun s => .ok (s.1, .tui s.2) :=
    rfl
  rw [Invocation.read, hread, ok_bind]
  dsimp only
  rw [hcommand]
  cases viewGrammar.withDataDir.read (none, {}) words with
  | error ending => rfl
  | ok s =>
    obtain ⟨dir?, command⟩ := s
    cases dir? <;> rfl

theorem read_tui_viewerWords_eq_ok_iff {options : List ViewOption} {dir? : Option String}
    {command : ViewCommand} :
    Invocation.read ("tui" :: viewerWords options) = .ok ⟨dir?, .tui command⟩ ↔
      AreReadable options ∧ dir? = (dirsOf options).getLast? ∧ command = ⟨groupsOf options⟩ := by
  rw [← Prod.mk.injEq, ← read_viewerWords_eq_ok_iff, read_tui_cons]
  cases viewGrammar.withDataDir.read (none, {}) (viewerWords options) with
  | error ending => exact iff_of_false nofun nofun
  | ok s =>
    constructor
    · rintro ⟨⟩
      rfl
    · rintro ⟨⟩
      rfl

theorem hasOption_dataDirArgument : topGrammar.HasOption dataDirArgument where
  found := rfl
  takesValue := nofun
  ofString_word := ViewOption.ofString_name (.dataDir "")
  not_command := rfl

/-- Read without a command, the options of the viewer end before one: where the name of an option
stands there is none, and the word after it is its value. -/
theorem not_command_of_readWords : ∀ {options : List ViewOption} {r last : Reading (Option String)}
    {c : Option (String × List String)}, r.positional = [] →
    topGrammar.readWords r (viewerWords options) = .ok (last, c) → c = none := by
  intro options
  induction options with
  | nil =>
    intro r last c _ h
    exact (Prod.mk.inj (Except.ok.inj h)).2.symm
  | cons o rest ih =>
    intro r last c hpositional h
    have hname : topGrammar.commands.contains ("--" ++ o.name) = false := by
      have hnames : ∀ name ∈ ["data-dir", "groups"],
          topGrammar.commands.contains ("--" ++ name) = false := by decide
      exact hnames _ o.name_mem
    rw [viewerWords_cons] at h
    cases hseparated : r.separated with
    | true =>
      rw [Grammar.readWords, if_neg (by rw [hname]; simp)] at h
      obtain ⟨next, hword, -⟩ := bind_eq_ok_iff.mp h
      rw [Grammar.readWord, if_pos hseparated] at hword
      exact absurd hword (Grammar.readPositional_nil hpositional _)
    | false =>
      cases o with
      | groups word =>
        rw [Grammar.readWords, if_neg (by rw [hname]; simp)] at h
        obtain ⟨next, hword, -⟩ := bind_eq_ok_iff.mp h
        rw [Grammar.readWord, if_neg (by simp [hseparated]), ViewOption.ofString_name] at hword
        cases hword
      | dataDir dir =>
        obtain ⟨next, hnext, hrest⟩ := hasOption_dataDirArgument.readWords_rest hseparated h
        exact ih (hnext.trans hpositional) hrest

theorem read_viewerWords_ne_ok (options : List ViewOption) (i : Invocation) :
    Invocation.read (viewerWords options) ≠ .ok i := by
  intro h
  rw [Invocation.read, bind_eq_ok_iff] at h
  obtain ⟨⟨top, c⟩, hread, h⟩ := h
  obtain rfl := not_command_of_readWords rfl hread
  obtain ⟨settled, -, h⟩ := bind_eq_ok_iff.mp h
  cases h

end Trendline.CommandLine

namespace Trendline

open CommandLine

theorem launch_eq_viewer_iff {files : FileTree} {env : Environment} {words : List String}
    {settings : FigureSettings} {t : Transcript} :
    launch files env words = .viewer settings t ↔
      ∃ dir? command, Invocation.read (withDefault words) = .ok ⟨dir?, .tui command⟩ ∧
        let dir := dataDirectory dir? ((env.withFile files).get? dataDirVariable)
        settings = figureSettings dir command.groups none ∧
          t = { files, notes := [dataDirNote dir] } := by
  rw [launch]
  split
  · rename_i ending h
    refine iff_of_false nofun ?_
    rintro ⟨dir?, command, hread, -⟩
    cases h.symm.trans hread
  · rename_i i h
    obtain ⟨dir?, command⟩ := i
    rw [h]
    cases command with
    | fit c | plot c | sample c =>
      refine iff_of_false nofun ?_
      rintro ⟨_, _, hread, -⟩
      cases hread
    | tui c =>
      constructor
      · rintro ⟨⟩
        exact ⟨dir?, c, rfl, rfl, rfl⟩
      · rintro ⟨_, _, ⟨⟩, rfl, rfl⟩
        rfl

/-- **The default command.**  Of the viewer's options alone, the words get its name in front of
them unless a value is called like a command, and stay as they are otherwise.  The viewer then
opens on the directory and the groups that are named, if the options can be read. -/
theorem launch_viewerWords {options : List ViewOption} (h : options ≠ []) (files : FileTree)
    (env : Environment) :
    (withDefault (viewerWords options) =
      if ∃ o ∈ options, o.value ∈ commandNames then viewerWords options
      else "tui" :: viewerWords options) ∧
    (∀ settings t, launch files env (viewerWords options) = .viewer settings t ↔
      (∀ o ∈ options, o.value ∉ commandNames) ∧ AreReadable options ∧
        let dir := dataDirectory (dirsOf options).getLast?
          ((env.withFile files).get? dataDirVariable)
        settings = figureSettings dir (groupsOf options) none ∧
          t = { files, notes := [dataDirNote dir] }) ∧
    ∀ words, withDefault (withDefault words) = withDefault words := by
  refine ⟨withDefault_viewerWords h, fun settings t => ?_, withDefault_withDefault⟩
  rw [launch_eq_viewer_iff, withDefault_viewerWords h]
  split
  · rename_i hnamed
    obtain ⟨o, ho, hname⟩ := hnamed
    refine iff_of_false ?_ fun hnot => hnot.1 o ho hname
    rintro ⟨dir?, command, hread, -⟩
    exact read_viewerWords_ne_ok options _ hread
  · rename_i hfree
    have hnames : ∀ o ∈ options, o.value ∉ commandNames :=
      fun o ho hname => hfree ⟨o, ho, hname⟩
    constructor
    · rintro ⟨dir?, command, hread, hsettings, ht⟩
      obtain ⟨hreadable, rfl, rfl⟩ := read_tui_viewerWords_eq_ok_iff.mp hread
      exact ⟨hnames, hreadable, hsettings, ht⟩
    · rintro ⟨-, hreadable, hsettings, ht⟩
      exact ⟨_, _, read_tui_viewerWords_eq_ok_iff.mpr ⟨hreadable, rfl, rfl⟩, hsettings, ht⟩

/-- A directory and two groups. -/
def benchOptions : List ViewOption :=
  [.dataDir "bench", .groups "2,8"]

theorem launch_viewerWords_bench :
    benchOptions ≠ [] ∧
    withDefault ["--data-dir", "bench", "--groups", "2,8"] =
      ["tui", "--data-dir", "bench", "--groups", "2,8"] ∧
    launch {} ⟨[]⟩ ["--data-dir", "bench", "--groups", "2,8"] =
      .viewer { dataDir := "bench", groups := [.parse "2", .parse "8"] }
        { files := {}, notes := [dataDirNote "bench"] } := by
  have hne : benchOptions ≠ [] := nofun
  have hreadable : AreReadable benchOptions :=
    { plain := by decide
      readable := by
        have hdir : "bench" ≠ "" := by decide
        have hgroups : ∀ part ∈ parts "2,8", Text.isAllBlank part = false := by decide
        exact List.forall_mem_cons.mpr ⟨hdir, List.forall_mem_singleton.mpr hgroups⟩
      oneDir := by decide }
  obtain ⟨hwords, hlaunch, -⟩ := launch_viewerWords hne {} ⟨[]⟩
  exact ⟨hne, hwords, (hlaunch _ _).mpr ⟨by decide, hreadable, rfl, rfl⟩⟩

/-- A directory that is called like a command. -/
theorem not_launch_viewerWords_plot :
    withDefault ["--data-dir", "plot"] ≠ ["tui", "--data-dir", "plot"] ∧
    AreReadable [.dataDir "plot"] ∧
    launch {} ⟨[]⟩ ["--data-dir", "plot"] =
      .finished (.ofEnding {} (.misuse .missingCommand)) := by
  have hdir : "plot" ≠ "" := by decide
  exact ⟨by decide, ⟨by decide, List.forall_mem_singleton.mpr hdir, by decide⟩, rfl⟩

end Trendline
