import Ccbd.Db.Schema

/-!
# Bundles

A bundle is a directory of the project that contributes skills, hooks, rules and MCP
servers to an agent. `resolve_bundle` reads its files; here `BundleFiles` is what it
returns for the present files. Resolving the bundles of an agent merges the
contributions into the declared extensions and records their digests.
-/

namespace Ccbd

open Lib

inductive BundleRole where
  | master
  | worker
deriving DecidableEq, Repr

def BundleRole.debug : BundleRole → String
  | master => "Master"
  | worker => "Worker"

structure BundleContribution where
  name : String
  skills : List ResolvedSkill := []
  hooks : Hooks := .empty
  rules : List String := []
  mcp : List McpServerConfig := []
  digest : String

/-- What `resolve_bundle` returns for a bundle name and a role. -/
abbrev BundleFiles := String → BundleRole → Except CcbdError BundleContribution

def bundleErr {α : Type} (details : String) : Except CcbdError α :=
  .error (.environmentNotSupported details)

/-- The text of a string in quotes. -/
def quoted (s : String) : String := "\"" ++ s ++ "\""

def validateBundleCapability (provider : String) (role : BundleRole) (c : BundleContribution) :
    Except CcbdError Unit :=
  if provider = "codex" ∨ provider = "antigravity" then
    if role = .master ∧ c.rules ≠ [] then
      bundleErr (provider ++ " master bundle rules are unsupported for bundle " ++ quoted c.name)
    else .ok ()
  else if c.skills ≠ [] then
    bundleErr ("bundle " ++ quoted c.name ++ " includes skills, but PR-2 supports bundle skills " ++
      "only for provider claude; provider " ++ quoted provider ++ " must wait for PR-3/PR-4")
  else if c.hooks.rows.isEmpty = false then
    bundleErr ("bundle " ++ quoted c.name ++ " includes hooks, but PR-2 supports bundle hooks " ++
      "only for provider claude; provider " ++ quoted provider ++ " must wait for PR-3/PR-4")
  else if c.rules ≠ [] then
    bundleErr ("bundle " ++ quoted c.name ++ " includes " ++ role.debug ++ " rules, but PR-2 " ++
      "supports bundle rules only for provider claude; provider " ++ quoted provider ++
      " must wait for PR-3/PR-4")
  else .ok ()

def validateBundleCapabilities (provider : String) (role : BundleRole)
    (contributions : List BundleContribution) : Except CcbdError Unit :=
  if provider = "claude" then .ok ()
  else contributions.forM (validateBundleCapability provider role)

/-! ## Merging -/

inductive SkillSource where
  | project
  | path (sourceDir : String)

/-- The extensions under construction, with the skills known by name. -/
structure MergeState where
  skillsByName : Table String SkillSource
  extensions : ExtensionConfig

def MergeState.start (extensions : ExtensionConfig) : MergeState where
  skillsByName := extensions.resolvedSkills.foldl
    (fun t skill => t.upsert skill.name (.path skill.sourceDir))
    (extensions.skills.foldl (fun t name => t.upsert name .project) .empty)
  extensions := extensions

def mergeSkill (st : MergeState) (skill : ResolvedSkill) : Except CcbdError MergeState :=
  match st.skillsByName.get? skill.name with
  | some .project =>
    bundleErr ("bundle skill " ++ skill.name ++ " conflicts with project skill of the same name")
  | some (.path existing) =>
    if existing = skill.sourceDir then .ok st
    else bundleErr ("bundle skill " ++ skill.name ++ " conflicts: " ++ existing ++ " vs " ++
      skill.sourceDir)
  | none => .ok
    { skillsByName := st.skillsByName.upsert skill.name (.path skill.sourceDir)
      extensions :=
        { st.extensions with resolvedSkills := st.extensions.resolvedSkills ++ [skill] } }

/-- Adds the groups that are not there yet. -/
def mergeHookGroups (target groups : List HookGroup) : List HookGroup :=
  groups.foldl (fun target group => if group ∈ target then target else target ++ [group]) target

/-- `entry(event).or_default()` adds the event even if it has no groups. -/
def mergeHookEvent (hooks : Hooks) (event : String × List HookGroup) : Hooks :=
  hooks.upsert event.1 (mergeHookGroups ((hooks.get? event.1).getD []) event.2)

def mergeHooks (hooks contributed : Hooks) : Hooks := contributed.rows.foldl mergeHookEvent hooks

def mergeMcpServer (mcp : List McpServerConfig) (server : McpServerConfig) :
    Except CcbdError (List McpServerConfig) :=
  match mcp.find? (·.name = server.name) with
  | some existing =>
    if existing = server then .ok mcp
    else bundleErr ("bundle MCP server " ++ server.name ++
      " conflicts with an existing server of the same name")
  | none => .ok (mcp ++ [server])

def mergeContribution (st : MergeState) (c : BundleContribution) : Except CcbdError MergeState := do
  let st ← c.skills.foldlM mergeSkill st
  let mcp ← c.mcp.foldlM mergeMcpServer st.extensions.mcp
  return { st with
    extensions :=
      { st.extensions with
        hooks := mergeHooks st.extensions.hooks c.hooks
        rules := st.extensions.rules ++ c.rules
        mcp := mcp } }

def mergeContributions (extensions : ExtensionConfig) (contributions : List BundleContribution) :
    Except CcbdError ExtensionConfig := do
  let st ← contributions.foldlM mergeContribution (.start extensions)
  return st.extensions

/-! ## Resolution -/

def BundleContribution.digestEntry (c : BundleContribution) : BundleDigestEntry :=
  ⟨c.name, c.digest⟩

def resolveBundlesForProvider (files : BundleFiles) (provider : String) (role : BundleRole)
    (base : ExtensionConfig) : Except CcbdError ExtensionConfig :=
  if base.bundle = [] then .ok base
  else do
    let contributions ← base.bundle.mapM (files · role)
    validateBundleCapabilities provider role contributions
    let extensions ← mergeContributions base contributions
    return { extensions with
      bundleDigest := some ⟨contributions.map BundleContribution.digestEntry⟩ }

def digestForBundles (files : BundleFiles) (role : BundleRole) (bundleNames : List String) :
    Except CcbdError (Option BundleDigest) :=
  if bundleNames = [] then .ok none
  else do
    let entries ← bundleNames.mapM fun name => do
      let bundle ← files name role
      return bundle.digestEntry
    return some ⟨entries⟩

/-! ## When the contributed hooks change nothing -/

theorem mem_mergeHookGroups :
    g ∈ mergeHookGroups target groups ↔ g ∈ target ∨ g ∈ groups := by
  unfold mergeHookGroups
  induction groups generalizing target with
  | nil => simp
  | cons group groups ih =>
    rw [List.foldl_cons, ih, List.mem_cons, ← or_assoc]
    refine or_congr_left ?_
    split_ifs with known
    · exact ⟨.inl, fun h => h.elim id fun e => e ▸ known⟩
    · simp

theorem mergeHookGroups_of_subset (h : groups ⊆ target) :
    mergeHookGroups target groups = target := by
  unfold mergeHookGroups
  induction groups with
  | nil => rfl
  | cons group groups ih =>
    rw [List.foldl_cons, if_pos (h List.mem_cons_self)]
    exact ih (List.subset_of_cons_subset h)

/-- The event is there, with all the groups. -/
def Hooks.Covers (hooks : Hooks) (event : String × List HookGroup) : Prop :=
  ∃ existing ∈ hooks.get? event.1, event.2 ⊆ existing

section Covers

variable {hooks : Hooks}

theorem covers_mergeHookEvent : (mergeHookEvent hooks event).Covers event := by
  refine ⟨mergeHookGroups ((hooks.get? event.1).getD []) event.2, ?_, fun g hg => ?_⟩
  · simp [mergeHookEvent, Table.get?_upsert]
  · exact mem_mergeHookGroups.mpr (.inr hg)

theorem Hooks.Covers.mergeHookEvent (h : hooks.Covers event) :
    (mergeHookEvent hooks event').Covers event := by
  obtain ⟨existing, found, subset⟩ := h
  rw [Option.mem_def] at found
  by_cases e : event.1 = event'.1
  · refine ⟨mergeHookGroups existing event'.2, ?_, fun g hg => ?_⟩
    · simp [Ccbd.mergeHookEvent, Table.get?_upsert, ← e, found]
    · exact mem_mergeHookGroups.mpr (.inl (subset hg))
  · exact ⟨existing, by simp [Ccbd.mergeHookEvent, Table.get?_upsert, e, found], subset⟩

theorem mergeHookEvent_of_covers (h : hooks.Covers event) : mergeHookEvent hooks event = hooks := by
  obtain ⟨existing, found, subset⟩ := h
  rw [mergeHookEvent, found, Option.getD_some, mergeHookGroups_of_subset subset]
  exact Table.upsert_of_get? found

theorem Hooks.Covers.foldl_mergeHookEvent (h : hooks.Covers event)
    (events : List (String × List HookGroup)) :
    (events.foldl Ccbd.mergeHookEvent hooks).Covers event := by
  induction events generalizing hooks with
  | nil => exact h
  | cons first rest ih => exact ih h.mergeHookEvent

theorem covers_mergeHooks (he : event ∈ contributed.rows) :
    (mergeHooks hooks contributed).Covers event := by
  unfold mergeHooks
  obtain ⟨before, after, split⟩ := List.append_of_mem he
  rw [split, List.foldl_append, List.foldl_cons]
  exact covers_mergeHookEvent.foldl_mergeHookEvent after

theorem mergeHooks_of_covers (h : ∀ event ∈ contributed.rows, hooks.Covers event) :
    mergeHooks hooks contributed = hooks := by
  unfold mergeHooks
  generalize contributed.rows = events at h
  induction events with
  | nil => rfl
  | cons first rest ih =>
    rw [List.foldl_cons, mergeHookEvent_of_covers (h first List.mem_cons_self)]
    exact ih fun event he => h event (List.mem_cons_of_mem _ he)

end Covers

/-- The hooks after all contributions. -/
def mergedHooks (hooks : Hooks) (contributions : List BundleContribution) : Hooks :=
  contributions.foldl (fun hooks c => mergeHooks hooks c.hooks) hooks

theorem Hooks.Covers.mergedHooks (h : hooks.Covers event) (cs : List BundleContribution) :
    (mergedHooks hooks cs).Covers event := by
  induction cs generalizing hooks with
  | nil => exact h
  | cons c cs ih => exact ih (h.foldl_mergeHookEvent _)

variable {files : BundleFiles} {role : BundleRole} {cs : List BundleContribution}

theorem covers_mergedHooks (hooks : Hooks) (hc : c ∈ cs) (he : event ∈ c.hooks.rows) :
    (mergedHooks hooks cs).Covers event := by
  obtain ⟨before, after, rfl⟩ := List.append_of_mem hc
  rw [mergedHooks, List.foldl_append, List.foldl_cons]
  exact (covers_mergeHooks he).mergedHooks after

theorem mergedHooks_of_covers
    (h : ∀ c ∈ cs, ∀ event ∈ c.hooks.rows, hooks.Covers event) : mergedHooks hooks cs = hooks := by
  unfold mergedHooks
  induction cs with
  | nil => rfl
  | cons c cs ih =>
    rw [List.foldl_cons, mergeHooks_of_covers (h c List.mem_cons_self)]
    exact ih fun c hc => h c (List.mem_cons_of_mem _ hc)

/-- The merged hooks are the declared ones exactly if those already cover every event of
every bundle. -/
theorem mergedHooks_same_iff :
    (∀ event, (mergedHooks hooks cs).get? event = hooks.get? event) ↔
      ∀ c ∈ cs, ∀ event ∈ c.hooks.rows, hooks.Covers event := by
  constructor
  · intro same c hc event he
    obtain ⟨existing, found, subset⟩ := covers_mergedHooks hooks hc he
    exact ⟨existing, same event.1 ▸ found, subset⟩
  · intro h event
    rw [mergedHooks_of_covers h]

/-! ## What resolution returns -/

theorem foldlM_mergeSkill_ok {skills : List ResolvedSkill}
    (h : skills.foldlM mergeSkill st = .ok st') :
    ∃ resolved, st'.extensions = { st.extensions with resolvedSkills := resolved } := by
  induction skills generalizing st with
  | nil =>
    cases h
    exact ⟨_, rfl⟩
  | cons skill skills ih =>
    obtain ⟨st₁, h₁, h₂⟩ := bind_eq_ok.mp h
    obtain ⟨resolved, e⟩ := ih h₂
    unfold mergeSkill at h₁
    split at h₁
    · cases h₁
    · split_ifs at h₁
      · cases h₁; exact ⟨resolved, e⟩
      · cases h₁
    · cases h₁; exact ⟨resolved, e⟩

theorem foldlM_mergeContribution_ok (h : cs.foldlM mergeContribution st = .ok st') :
    ∃ rules mcp resolved, st'.extensions = { st.extensions with
      hooks := mergedHooks st.extensions.hooks cs, rules := rules, mcp := mcp,
      resolvedSkills := resolved } := by
  induction cs generalizing st with
  | nil =>
    cases h
    exact ⟨_, _, _, rfl⟩
  | cons c cs ih =>
    obtain ⟨st₁, h₁, h₂⟩ := bind_eq_ok.mp h
    obtain ⟨rules, mcp, resolved, e⟩ := ih h₂
    obtain ⟨st₂, h₃, h₁⟩ := bind_eq_ok.mp h₁
    obtain ⟨mcp₁, -, h₁⟩ := bind_eq_ok.mp h₁
    obtain ⟨resolved₁, e₁⟩ := foldlM_mergeSkill_ok h₃
    cases h₁
    rw [e₁] at e
    exact ⟨rules, mcp, resolved, e⟩

theorem mapM_digestEntry {names : List String} (h : names.mapM (files · role) = .ok cs) :
    (names.mapM fun name => do
      let bundle ← files name role
      return bundle.digestEntry) = .ok (cs.map BundleContribution.digestEntry) := by
  rw [mapM_eq_ok] at h ⊢
  refine List.forall₂_map_right_iff.mpr (h.imp fun name c hc => ?_)
  rw [hc]
  rfl

theorem mem_of_mapM_ok {names : List String} (h : names.mapM (files · role) = .ok cs)
    {c : BundleContribution} : c ∈ cs ↔ ∃ name ∈ names, files name role = .ok c := by
  rw [mapM_eq_ok] at h
  induction h with
  | nil => simp
  | cons first _ ih => simp [ih, first, eq_comm]

theorem resolveBundlesForProvider_eq_ok :
    resolveBundlesForProvider files provider role base = .ok ext ↔
      base.bundle = [] ∧ ext = base ∨ base.bundle ≠ [] ∧ ∃ cs st,
        base.bundle.mapM (files · role) = .ok cs ∧
        validateBundleCapabilities provider role cs = .ok () ∧
        cs.foldlM mergeContribution (.start base) = .ok st ∧
        ext = { st.extensions with
          bundleDigest := some ⟨cs.map BundleContribution.digestEntry⟩ } := by
  unfold resolveBundlesForProvider mergeContributions
  split_ifs with empty
  · simp [empty, eq_comm]
  · simp only [bind_eq_ok, pure, Except.pure]
    grind

/-- Resolved extensions are the declared ones with the contributed hooks, and carry the
digests `digest_for_bundles` computes. -/
theorem resolveBundlesForProvider_ok (none : base.bundleDigest = none)
    (h : resolveBundlesForProvider files provider role base = .ok ext) :
    ∃ cs rules mcp resolved, base.bundle.mapM (files · role) = .ok cs ∧
      digestForBundles files role base.bundle = .ok ext.bundleDigest ∧
      ext = { base with
        hooks := mergedHooks base.hooks cs, rules := rules, mcp := mcp, resolvedSkills := resolved,
        bundleDigest := ext.bundleDigest } := by
  obtain ⟨empty, rfl⟩ | ⟨empty, cs, st, hcs, -, hst, rfl⟩ := resolveBundlesForProvider_eq_ok.mp h
  · refine ⟨[], _, _, _, by rw [empty]; rfl, ?_, rfl⟩
    rw [digestForBundles, if_pos empty, none]
  · obtain ⟨rules, mcp, resolved, e⟩ := foldlM_mergeContribution_ok hst
    refine ⟨cs, rules, mcp, resolved, hcs, ?_, ?_⟩
    · rw [digestForBundles, if_neg empty, mapM_digestEntry hcs]
      rfl
    · rw [e]; rfl

end Ccbd
