import Ccbd.Lib.FileTree
import Ccbd.Provider.Plugins

/-!
# Plugins in a sandbox home

A spawn links the plugins of its agent into the sandbox home of the provider. The name of a
plugin is joined to the directory of the links as it is, and whatever stands there is removed
first, a directory with all that is in it.

An absolute name, or one that goes up, names a place outside of the sandbox, and a name that
continues another plugin's, be it with a separator only, leads through its link into the cache.
All changes stay below the home if the names are plain and end in a name, no link target is on the
way to another one, and the home does not hold links on these ways already.
-/

namespace Ccbd

open Lib Lib.Path Lib.FileTree Disk

section

variable (denies : Change → Location → Option String)

/-- The text of a path's directory. -/
def parentText (p : String) : String :=
  let skip := List.dropWhile fun segment : List Char => segment = [] ∨ segment = ['.']
  let front := skip (skip (p.toList.splitOn '/').reverse).tail
  if front = [] ∧ isAbsolute p then "/" else String.ofList (['/'].intercalate front.reverse)

/-- An error of the file system with what was tried. -/
def homeErr (action path : String) (m : EStateM IoError Disk Unit) : EStateM CcbdError Disk Unit :=
  fun d =>
    match m d with
    | .ok _ d' => .ok () d'
    | .error err d' => .error (.environmentNotSupported (action ++ " " ++ path ++ ": " ++ err.text)) d'

def forceSymlink (source target : String) : EStateM CcbdError Disk Unit := do
  match parent (components target) with
  | none => throw (.environmentNotSupported ("symlink target has no parent: " ++ target))
  | some parent =>
    homeErr "create symlink parent" (parentText target) (createDirAll denies parent.reverse)
    let tree := (← get).tree
    let path := systemPath target
    if tree.isSymlink path ∨ tree.isFile path then
      homeErr "remove existing symlink target" target (removeFile denies path)
    else if tree.isDir path then
      homeErr "remove existing symlink directory" target (removeDirAll denies target)
    homeErr "create symlink" target (symlink denies source path)

/-- Links one plugin into each of the directories. -/
def materializePlugin (provider : String) (dirs : List String) (plugin : ResolvedPlugin) :
    EStateM CcbdError Disk Unit := do
  if (← get).tree.isDir (components plugin.cacheDir) then
    let _ ← forEach (fun dir => forceSymlink denies plugin.cacheDir (join dir plugin.name)) dirs
  else
    throw (.environmentNotSupported (provider ++ " plugin cache not found for " ++ plugin.name ++
      ": " ++ plugin.cacheDir))

def materializeClaudePlugins (claudeDir : String) (plugins : List ResolvedPlugin) :
    EStateM CcbdError Disk Unit := do
  let _ ← forEach (materializePlugin denies "claude"
    [join claudeDir "plugins/cache", join claudeDir "plugins"]) plugins

def materializeCodexPlugins (codexHome : String) (plugins : List ResolvedPlugin) :
    EStateM CcbdError Disk Unit := do
  let _ ← forEach (materializePlugin denies "codex" [join codexHome "plugins/cache"]) plugins

/-- The plugins of a claude agent, from their specs into the home. -/
def prepareClaudePlugins (env : PluginEnv) (cloned : GitUrlSpec → Except CcbdError Unit)
    (sourceHome home : String) (specs : List String) : EStateM CcbdError Disk Unit := do
  let plugins ← ofResult (resolvePluginsForProvider env cloned "claude" sourceHome specs)
  materializeClaudePlugins denies (join home ".claude") plugins

/-- The plugins of a codex agent, from their specs into the codex home. -/
def prepareCodexPlugins (env : PluginEnv) (cloned : GitUrlSpec → Except CcbdError Unit)
    (sourceHome codexHome : String) (specs : List String) : EStateM CcbdError Disk Unit := do
  let plugins ← ofResult (resolvePluginsForProvider env cloned "codex" sourceHome specs)
  materializeCodexPlugins denies codexHome plugins

end

/-! ## Where the links go -/

def PluginSpec.name : PluginSpec → String
  | idOnly name => name
  | git spec => spec.name

/-- The names of the accepted specs. -/
def specNames (specs : List String) : List String :=
  specs.filterMap fun raw => (parsePluginSpec raw).toOption.map PluginSpec.name

/-- The names that a path goes through. -/
def nameParts (p : String) : Location :=
  (p.toList.splitOn '/').filter fun segment => segment ≠ [] ∧ segment ≠ ['.']

/-- The locations of all links. -/
def linkLocations (home : Location) (dirs : List Location) (names : List String) : List Location :=
  names.flatMap fun name => dirs.map fun dir => home ++ dir ++ nameParts name

def claudeLinkDirs : List Location :=
  [[".claude".toList, "plugins".toList, "cache".toList], [".claude".toList, "plugins".toList]]

def codexLinkDirs : List Location := [["plugins".toList, "cache".toList]]

/-- The names are plain and end in a name, the home is a real directory, no link stands between it and the place
of a plugin, and no such place is on the way to another one. -/
structure PlainSandbox (t : FileTree) (home : String) (at_ : Location) (dirs : List Location)
    (names : List String) : Prop where
  plain : ∀ name ∈ names, Plain name
  ends : ∀ name ∈ names, lastSegment name ∉ [[], ['.']]
  spelled : components home = spell at_
  real : ∀ l, l <+: at_ → t.at? l = some .dir
  clear : ∀ l ∈ linkLocations at_ dirs names, ∀ m, at_ <+: m → m <+: l → m ≠ l →
    ∀ target, t.at? m ≠ some (.link target)
  apart : ∀ l ∈ linkLocations at_ dirs names, ∀ m ∈ linkLocations at_ dirs names, l <+: m → l = m

variable {denies : Change → Location → Option String} {home : Location}

theorem Lib.Preserves.homeErr {I : Disk → Prop} (h : Preserves I m)
    (action path : String) : Preserves I (homeErr action path m) := by
  intro d hd
  have := h d hd
  unfold Ends at *
  unfold Ccbd.homeErr
  cases e : m d <;> simp_all

variable {plugins : List ResolvedPlugin} {l : Location} {env : PluginEnv} {provider sourceHome : String}

theorem parent_spell (ne : m ≠ []) : parent (spell m) = some (spell m.dropLast) := by
  obtain ⟨front, name, rfl⟩ := (List.eq_nil_or_concat' m).resolve_left ne
  simp [parent, spell_concat]

theorem forceSymlink_confined (source : String) (spelled : components target = spell m)
    (ends : systemPath target = components target) (hm : m ∈ targets) (apart : ∀ m' ∈ targets, m <+: m' → m = m') (below : Below home m) :
    Preserves (Confined home targets) (forceSymlink denies source target) := by
  have ne : m ≠ [] := List.ne_nil_of_length_pos (Nat.zero_lt_of_lt below.length_lt)
  have linked : Preserves (Confined home targets)
      (homeErr "create symlink" target (symlink denies source (spell m))) :=
    (Confined.symlink hm apart).homeErr _ _
  unfold forceSymlink
  simp only [ends, spelled, parent_spell ne]
  refine ((Confined.createDirAll hm (List.dropLast_prefix m)).homeErr _ _).bind fun _ d h => ?_
  rw [ends_bind, ends_get]
  show Ends (if _ then _ else _) d _
  split
  · exact (((Confined.removeFile hm below).homeErr _ _).bind fun _ => linked) d h
  split
  · exact (((Confined.removeDirAll (ends.trans spelled) hm below).homeErr _ _).bind fun _ => linked) d h
  · exact linked d h

theorem materializePlugin_confined
    (place : ∀ dir ∈ dirs, ∃ m ∈ targets, components (join dir plugin.name) = spell m ∧
      systemPath (join dir plugin.name) = components (join dir plugin.name) ∧ Below home m) (apart : ∀ m ∈ targets, ∀ m' ∈ targets, m <+: m' → m = m') :
    Preserves (Confined home targets) (materializePlugin denies provider dirs plugin) := by
  intro d h
  rw [materializePlugin, ends_bind, ends_get]
  show Ends (if _ then _ else _) d _
  split
  · refine (Preserves.bind (Preserves.forEach fun dir hdir => ?_) fun _ => .pure ()) d h
    obtain ⟨m, hm, spelled, ends, below⟩ := place dir hdir
    exact forceSymlink_confined _ spelled ends hm (apart m hm) below
  · exact h

theorem segments_of_plain (plain : Plain name) : segments name = (nameParts name).map .normal := by
  have down := plain.2
  unfold Descends at down
  unfold segments nameParts
  generalize name.toList.splitOn '/' = parts at *
  induction parts with
  | nil => rfl
  | cons segment rest ih =>
    rw [List.mem_cons, not_or] at down
    rw [List.flatMap_cons, ih down.2, List.filter_cons, Path.inner]
    split_ifs <;> simp_all

theorem components_link (nonempty : dir ≠ "") (spelled : components dir = spell (at_ ++ base))
    (plain : Plain name) : components (join dir name) = spell (at_ ++ base ++ nameParts name) := by
  rw [components_join_relative nonempty plain.1, spelled, segments_of_plain plain]
  simp [spell]

theorem resolvePlugin_name (h : resolvePlugin env cloned provider sourceHome raw = .ok plugin) :
    ∃ spec, parsePluginSpec raw = .ok spec ∧ spec.name = plugin.name := by
  obtain ⟨spec, parsed, h⟩ := bind_eq_ok.mp h
  refine ⟨spec, parsed, ?_⟩
  cases spec with
  | idOnly name =>
    cases h
    rfl
  | git spec =>
    obtain ⟨cacheDir, -, h⟩ := bind_eq_ok.mp h
    cases h
    rfl

theorem name_mem_specNames
    (h : resolvePluginsForProvider env cloned provider sourceHome specs = .ok plugins) :
    ∀ plugin ∈ plugins, plugin.name ∈ specNames specs := by
  induction specs generalizing plugins with
  | nil =>
    cases h
    simp
  | cons raw specs ih =>
    rw [resolvePluginsForProvider, List.mapM_cons] at h
    obtain ⟨first, resolved, h⟩ := bind_eq_ok.mp h
    obtain ⟨rest, resolvedRest, h⟩ := bind_eq_ok.mp h
    cases h
    obtain ⟨spec, parsed, name⟩ := resolvePlugin_name resolved
    have names : specNames (raw :: specs) = first.name :: specNames specs := by
      simp [specNames, parsed, Except.toOption, name]
    rw [names, List.forall_mem_cons]
    exact ⟨List.mem_cons_self, fun plugin hp => List.mem_cons_of_mem _ (ih resolvedRest plugin hp)⟩

theorem PlainSandbox.confined (h : PlainSandbox t homeDir home dirs names)
    (inside : ∀ dir ∈ dirs, dir ≠ []) :
    Confined home (linkLocations home dirs names) ⟨t, []⟩ where
  real := h.real
  inside := by
    intro l hl
    obtain ⟨name, -, hl⟩ := List.mem_flatMap.mp hl
    obtain ⟨dir, hdir, rfl⟩ := List.mem_map.mp hl
    refine ⟨⟨dir ++ nameParts name, by simp⟩, ?_⟩
    simp [inside dir hdir]
  clear := by
    intro l hl m before ne target link
    by_cases above : m <+: home
    · cases (h.real m above).symm.trans link
    · have inside : home <+: l := by
        obtain ⟨name, -, hl⟩ := List.mem_flatMap.mp hl
        obtain ⟨dir, -, rfl⟩ := List.mem_map.mp hl
        exact ⟨dir ++ nameParts name, by simp⟩
      exact h.clear l hl m (below_of_not_above inside before above).1 before ne target link
  log := by simp

theorem PlainSandbox.materialize (h : PlainSandbox t homeDir home dirs names)
    (inside : ∀ dir ∈ dirs, dir ≠ [])
    (spelled : ∀ path ∈ paths, path ≠ "" ∧ ∃ dir ∈ dirs, components path = spell (home ++ dir))
    (named : ∀ plugin ∈ plugins, plugin.name ∈ names) :
    Ends (forEach (materializePlugin denies provider paths) plugins) ⟨t, []⟩ fun _ d =>
      ∀ e ∈ d.log, Below home e.2 := by
  have confined := h.confined inside
  refine ((Preserves.forEach fun plugin hp => ?_) _ confined).mono fun _ _ after => after.log
  refine materializePlugin_confined (fun path hpath => ?_) h.apart
  obtain ⟨nonempty, dir, hdir, e⟩ := spelled path hpath
  have mem : home ++ dir ++ nameParts plugin.name ∈ linkLocations home dirs names :=
    List.mem_flatMap.mpr ⟨_, named plugin hp, List.mem_map.mpr ⟨dir, hdir, rfl⟩⟩
  have plain := h.plain _ (named plugin hp)
  have ends := lastSegment_join (p := path) plain.1 ▸ h.ends _ (named plugin hp)
  exact ⟨_, mem, components_link nonempty e plain, systemPath_of_name ends, confined.inside _ mem⟩

theorem PlainSandbox.home_ne_empty (h : PlainSandbox t homeDir home dirs names) : homeDir ≠ "" := by
  rintro rfl
  have : components "" = [] := by decide +kernel
  cases this.symm.trans h.spelled

theorem components_join_spelled (q : String) (parts : Location) (nonempty : p ≠ "")
    (spelled : components p = spell l) (relative : isAbsolute q = false)
    (known : segments q = parts.map .normal) : components (join p q) = spell (l ++ parts) := by
  rw [components_join_relative nonempty relative, spelled, known]
  simp [spell]

theorem PlainSandbox.claudePaths (h : PlainSandbox t homeDir home claudeLinkDirs names) :
    ∀ path ∈ [join (join homeDir ".claude") "plugins/cache", join (join homeDir ".claude") "plugins"],
      path ≠ "" ∧ ∃ dir ∈ claudeLinkDirs, components path = spell (home ++ dir) := by
  have nonempty := h.home_ne_empty
  have claudeDir := components_join_spelled ".claude" [".claude".toList] nonempty h.spelled
    (by decide +kernel) (by decide +kernel)
  have cache := components_join_spelled "plugins/cache" ["plugins".toList, "cache".toList]
    (join_ne_empty nonempty _) claudeDir (by decide +kernel) (by decide +kernel)
  have plugins := components_join_spelled "plugins" ["plugins".toList]
    (join_ne_empty nonempty _) claudeDir (by decide +kernel) (by decide +kernel)
  rw [List.append_assoc] at cache plugins
  simp only [List.forall_mem_cons]
  exact ⟨⟨join_ne_empty (join_ne_empty nonempty _) _, _, List.mem_cons_self, cache⟩,
    ⟨join_ne_empty (join_ne_empty nonempty _) _, _, List.mem_cons_of_mem _ List.mem_cons_self,
      plugins⟩, by simp⟩

theorem PlainSandbox.codexPaths (h : PlainSandbox t homeDir home codexLinkDirs names) :
    ∀ path ∈ [join homeDir "plugins/cache"],
      path ≠ "" ∧ ∃ dir ∈ codexLinkDirs, components path = spell (home ++ dir) := by
  have cache := components_join_spelled "plugins/cache" ["plugins".toList, "cache".toList]
    h.home_ne_empty h.spelled (by decide +kernel) (by decide +kernel)
  rw [List.forall_mem_singleton]
  exact ⟨join_ne_empty h.home_ne_empty _, _, List.mem_singleton_self _, cache⟩

/-- The plugins of an agent are linked into its sandbox home and nothing outside of it is
touched, for every list of specs, every state of the file system and every refusal of it, if
the specs' names and the home are as `PlainSandbox` says. -/
theorem preparePlugins_confined (denies : Change → Location → Option String) (env : PluginEnv)
    (cloned : GitUrlSpec → Except CcbdError Unit) (sourceHome homeDir : String) (home : Location)
    (specs : List String) (t : FileTree) :
    (PlainSandbox t homeDir home claudeLinkDirs (specNames specs) →
      Ends (prepareClaudePlugins denies env cloned sourceHome homeDir specs) ⟨t, []⟩ fun _ d =>
        ∀ e ∈ d.log, Below home e.2) ∧
    (PlainSandbox t homeDir home codexLinkDirs (specNames specs) →
      Ends (prepareCodexPlugins denies env cloned sourceHome homeDir specs) ⟨t, []⟩ fun _ d =>
        ∀ e ∈ d.log, Below home e.2) := by
  constructor
  · intro h
    rw [prepareClaudePlugins, ends_bind, ends_ofResult]
    cases resolved : resolvePluginsForProvider env cloned "claude" sourceHome specs with
    | error err => simp
    | ok plugins =>
      refine ends_bind.mpr ((h.materialize (by decide) h.claudePaths
        (name_mem_specNames resolved)).mono fun r d below => ?_)
      cases r <;> exact below
  · intro h
    rw [prepareCodexPlugins, ends_bind, ends_ofResult]
    cases resolved : resolvePluginsForProvider env cloned "codex" sourceHome specs with
    | error err => simp
    | ok plugins =>
      refine ends_bind.mpr ((h.materialize (by decide) h.codexPaths
        (name_mem_specNames resolved)).mono fun r d below => ?_)
      cases r <;> exact below

/-- A tree of directories. -/
def dirTree (dirs : List Location) : FileTree := ⟨fun l => if l ∈ dirs then some .dir else none, []⟩

theorem at?_dirTree (mem : l ∈ dirs) : (dirTree dirs).at? l = some .dir := by
  simp [dirTree, FileTree.at?, mem]

theorem dirTree_ne_link (dirs : List Location) (l : Location) (target : String) :
    (dirTree dirs).at? l ≠ some (.link target) := by
  unfold dirTree FileTree.at?
  split_ifs <;> simp

/-- The cache of the plugin `a` below `/s` and the given directory, with a plugin `a/b` in it, the
sandbox home `/h`, and a directory `/v`. -/
def pluginTree (provider : List Char) : FileTree :=
  dirTree [[['h']], [['v']], [['s']], [['s'], provider], [['s'], provider, "plugins".toList],
    [['s'], provider, "plugins".toList, "cache".toList],
    [['s'], provider, "plugins".toList, "cache".toList, ['a']],
    [['s'], provider, "plugins".toList, "cache".toList, ['a'], ['b']]]

theorem pluginTree_home (provider : List Char) :
    ∀ l, l <+: [['h']] → (pluginTree provider).at? l = some .dir := by
  intro l before
  rcases List.prefix_cons_iff.mp before with rfl | ⟨rest, rfl, below⟩
  · rfl
  · cases List.prefix_nil.mp below
    exact at?_dirTree List.mem_cons_self

theorem plainSandbox_claude :
    PlainSandbox (pluginTree ".claude".toList) "/h" [['h']] claudeLinkDirs (specNames ["a"]) where
  plain := by decide +kernel
  ends := by decide +kernel
  spelled := by decide +kernel
  real := pluginTree_home _
  clear _ _ _ _ _ _ := dirTree_ne_link _ _
  apart := by decide +kernel

theorem plainSandbox_codex :
    PlainSandbox (pluginTree ".codex".toList) "/h" [['h']] codexLinkDirs (specNames ["a"]) where
  plain := by decide +kernel
  ends := by decide +kernel
  spelled := by decide +kernel
  real := pluginTree_home _
  clear _ _ _ _ _ _ := dirTree_ne_link _ _
  apart := by decide +kernel

theorem exists_claudeSandbox :
    ∃ env cloned sourceHome homeDir home specs t,
      PlainSandbox t homeDir home claudeLinkDirs (specNames specs) ∧
      Ends (prepareClaudePlugins (fun _ _ => none) env cloned sourceHome homeDir specs) ⟨t, []⟩
        fun _ d => d.log.isEmpty = false :=
  ⟨⟨none, none⟩, fun _ => .ok (), "/s", "/h", _, ["a"], _, plainSandbox_claude, by decide +kernel⟩

theorem exists_codexSandbox :
    ∃ env cloned sourceHome homeDir home specs t,
      PlainSandbox t homeDir home codexLinkDirs (specNames specs) ∧
      Ends (prepareCodexPlugins (fun _ _ => none) env cloned sourceHome homeDir specs) ⟨t, []⟩
        fun _ d => d.log.isEmpty = false :=
  ⟨⟨none, none⟩, fun _ => .ok (), "/s", "/h", _, ["a"], _, plainSandbox_codex, by decide +kernel⟩

theorem preparePlugins_confined_one :
    (∃ env cloned sourceHome homeDir home specs t,
      Ends (prepareClaudePlugins (fun _ _ => none) env cloned sourceHome homeDir specs) ⟨t, []⟩
        fun _ d => d.log.isEmpty = false ∧ ∀ e ∈ d.log, Below home e.2) ∧
    ∃ env cloned sourceHome homeDir home specs t,
      Ends (prepareCodexPlugins (fun _ _ => none) env cloned sourceHome homeDir specs) ⟨t, []⟩
        fun _ d => d.log.isEmpty = false ∧ ∀ e ∈ d.log, Below home e.2 := by
  constructor
  · obtain ⟨env, cloned, sourceHome, homeDir, home, specs, t, sandbox, touched⟩ :=
      exists_claudeSandbox
    exact ⟨env, cloned, sourceHome, homeDir, home, specs, t,
      touched.and ((preparePlugins_confined _ _ _ _ _ _ _ _).1 sandbox)⟩
  · obtain ⟨env, cloned, sourceHome, homeDir, home, specs, t, sandbox, touched⟩ :=
      exists_codexSandbox
    exact ⟨env, cloned, sourceHome, homeDir, home, specs, t,
      touched.and ((preparePlugins_confined _ _ _ _ _ _ _ _).2 sandbox)⟩

/-- The plugin `/v` makes a spawn remove the directory `/v`. The plugins `a` and `a/b` make it
remove `a/b` from the cache that the plugins come from, through the link it has just made, and
`a` and `a/` all that `a` has there. -/
theorem not_preparePlugins_confined :
    (∃ t env cloned, (∀ l, l <+: [['h']] → t.at? l = some .dir) ∧
      Ends (prepareClaudePlugins (fun _ _ => none) env cloned "/s" "/h" ["/v"]) ⟨t, []⟩ fun _ d =>
        ∃ e ∈ d.log, e.1 = .removeTree ∧ ¬ Below [['h']] e.2) ∧
    ∀ second ∈ ["a/b", "a/"], ∃ t env cloned, (∀ l, l <+: [['h']] → t.at? l = some .dir) ∧
      Ends (prepareCodexPlugins (fun _ _ => none) env cloned "/s" "/h" ["a", second]) ⟨t, []⟩
        fun _ d => ∃ e ∈ d.log, e.1 = .removeTree ∧ ¬ Below [['h']] e.2 := by
  refine ⟨⟨pluginTree ".claude".toList, ⟨none, none⟩, fun _ => .ok (), pluginTree_home _, ?_⟩,
    fun second mem =>
      ⟨pluginTree ".codex".toList, ⟨none, none⟩, fun _ => .ok (), pluginTree_home _, ?_⟩⟩
  · decide +kernel
  · revert second
    decide +kernel

end Ccbd
