import Ccbd.Db.Schema
import Ccbd.Lib.Path

/-!
# Plugin specs and the git cache

A plugin is declared by a text: an id, or a name with the URL of a git repository and
optionally a ref. A repository is cloned once per URL and ref, into a directory below the git
cache root that is made from its host, path and name and from the ref.

The path is checked segment by segment, the host and the ref as a whole: they may hold
separators. The directory lies below the root exactly when these two do not lead out of it. If
they are single segments, two specs share a directory exactly when they have one ref and their
URLs have one host and, up to `.git`, one path.
-/

namespace Ccbd

open Lib Lib.Path

/-! ## Texts -/

/-- The parts before and after the first occurrence of `sep`. -/
def splitOnce (sep : List Char) : List Char → Option (List Char × List Char)
  | [] => if sep = [] then some ([], []) else none
  | c :: cs =>
    match sep.isPrefixOf? (c :: cs) with
    | some rest => some ([], rest)
    | none => (splitOnce sep cs).map fun (before, after) => (c :: before, after)

/-- The parts before and after the last `sep`. -/
def rsplitOnce (sep : Char) (s : List Char) : Option (List Char × List Char) :=
  (splitOnce [sep] s.reverse).map fun (after, before) => (before.reverse, after.reverse)

/-- A text read from its end, without the `.git` it begins with. -/
def trimGit : List Char → List Char
  | 't' :: 'i' :: 'g' :: '.' :: rest => trimGit rest
  | s => s

/-! ## Specs -/

structure GitUrlSpec where
  name : String
  url : String
  host : String
  owner : String
  repo : String
  reference : String
deriving DecidableEq, Repr

inductive PluginSpec where
  | idOnly (name : String)
  | git (spec : GitUrlSpec)
deriving DecidableEq, Repr

structure ResolvedPlugin where
  name : String
  cacheDir : String
deriving DecidableEq, Repr

def pluginErr {α : Type} (details : String) : Except CcbdError α :=
  .error (.environmentNotSupported details)

def sanitizeSegment (segment : List Char) : Option (List Char) :=
  if segment = [] ∨ segment = ['.'] ∨ segment = ['.', '.'] ∨ '\\' ∈ segment then none
  else some segment

def sanitizePath (path : List Char) : Option (List Char) :=
  ((path.splitOn '/').mapM sanitizeSegment).map (['/'].intercalate ·)

/-- The host and the path of a repository. -/
def splitGitUrl (url : String) : Except CcbdError (List Char × List Char) :=
  let text := url.toList
  let withoutScheme := ("https://".toList.isPrefixOf? text).or
    (("http://".toList.isPrefixOf? text).or ("ssh://".toList.isPrefixOf? text))
  match withoutScheme with
  | some rest =>
    match splitOnce ['/'] rest with
    | some parts => .ok parts
    | none => pluginErr ("git url missing owner/repo path: " ++ url)
  | none =>
    match splitOnce ['@'] text with
    | some (_, rest) =>
      match splitOnce [':'] rest with
      | some parts => .ok parts
      | none => pluginErr ("ssh git url missing host:path: " ++ url)
    | none =>
      match splitOnce [':'] text with
      | some parts => .ok parts
      | none => pluginErr ("git url missing host:path: " ++ url)

def parseGitCacheKey (url : String) : Except CcbdError (String × String × String) := do
  let (host, path) ← splitGitUrl url
  let segments := path.splitOn '/'
  if segments.length < 2 then pluginErr ("git url path must include owner/repo: " ++ url)
  let repo := (trimGit (segments.getLast?.getD []).reverse).reverse
  let owner := ['/'].intercalate segments.dropLast
  match sanitizeSegment host with
  | none => pluginErr ("invalid git host in url: " ++ url)
  | some host =>
    match sanitizePath owner with
    | none => pluginErr ("invalid git owner path in url: " ++ url)
    | some owner =>
      match sanitizeSegment repo with
      | none => pluginErr ("invalid git repo in url: " ++ url)
      | some repo => .ok (String.ofList host, String.ofList owner, String.ofList repo)

def parsePluginSpec (raw : String) : Except CcbdError PluginSpec := do
  match splitOnce "@git@".toList raw.toList with
  | none => .ok (.idOnly raw)
  | some (name, rest) =>
    if name = [] then pluginErr ("plugin git spec has empty name: " ++ raw)
    let (url, reference) := (rsplitOnce '#' rest).getD (rest, "main".toList)
    if url = [] then pluginErr ("plugin git spec has empty url: " ++ raw)
    if reference = [] then pluginErr ("plugin git spec has empty ref: " ++ raw)
    let (host, owner, repo) ← parseGitCacheKey (String.ofList url)
    .ok (.git ⟨String.ofList name, String.ofList url, host, owner, repo, String.ofList reference⟩)

/-! ## Cache directories -/

/-- The environment variables that are read. -/
structure PluginEnv where
  xdgCacheHome : Option String
  home : Option String

variable (env : PluginEnv) (cloned : GitUrlSpec → Except CcbdError Unit)

def envHomeDir : Except CcbdError String :=
  match env.home.filter (· ≠ "") with
  | some home => .ok home
  | none => pluginErr "HOME is not set for git plugin provisioning"

def envCacheRoot : Except CcbdError String :=
  match env.xdgCacheHome.filter (· ≠ "") with
  | some cache => .ok cache
  | none => (envHomeDir env).map (join · ".cache")

def gitCacheRoot : Except CcbdError String :=
  (envCacheRoot env).map (join · "ah/cache/git")

/-- The directory that `clone_or_update` clones into and returns. -/
def GitUrlSpec.cacheDir (spec : GitUrlSpec) : Except CcbdError String := do
  let root ← gitCacheRoot env
  match sanitizeSegment spec.reference.toList with
  | none => pluginErr ("invalid git ref for plugin " ++ spec.name ++ ": " ++ spec.reference)
  | some reference =>
    .ok (join (join (join (join root spec.host) spec.owner) spec.repo) (String.ofList reference))

/-- `cloned` is what became of the clone, if one was needed. -/
def cloneOrUpdate (spec : GitUrlSpec) : Except CcbdError String := do
  let target ← spec.cacheDir env
  cloned spec
  .ok target

def resolveIdOnly (provider sourceHome name : String) : ResolvedPlugin where
  name := name
  cacheDir :=
    let providerCache :=
      if provider = "claude" then ".claude/plugins/cache"
      else if provider = "codex" then ".codex/plugins/cache"
      else ""
    join (join sourceHome providerCache) name

def resolvePlugin (provider sourceHome raw : String) : Except CcbdError ResolvedPlugin := do
  match ← parsePluginSpec raw with
  | .idOnly name => .ok (resolveIdOnly provider sourceHome name)
  | .git spec =>
    let cacheDir ← cloneOrUpdate env cloned spec
    .ok { name := spec.name, cacheDir }

def resolvePluginsForProvider (provider sourceHome : String) (plugins : List String) :
    Except CcbdError (List ResolvedPlugin) :=
  plugins.mapM (resolvePlugin env cloned provider sourceHome)

variable {env cloned}

/-! ## Where a cache directory lies -/

/-- A text that can be put after a directory and leads down from there. -/
def Plain (p : String) : Prop := isAbsolute p = false ∧ Descends p

instance (p : String) : Decidable (Plain p) := inferInstanceAs (Decidable (_ ∧ _))

theorem sanitizeSegment_eq_some {segment : List Char} :
    sanitizeSegment segment = some clean ↔
      segment = clean ∧ segment ∉ [[], ['.'], ['.', '.']] ∧ '\\' ∉ segment := by
  unfold sanitizeSegment
  split
  · grind
  · simp_all

theorem mapM_sanitizeSegment {parts clean : List (List Char)}
    (h : parts.mapM sanitizeSegment = some clean) :
    parts = clean ∧ ∀ part ∈ parts, part ∉ [[], ['.'], ['.', '.']] := by
  induction parts generalizing clean with
  | nil => simp_all
  | cons part parts ih =>
    simp only [List.mapM_cons, Option.bind_eq_bind, Option.bind_eq_some_iff, Option.pure_def,
      Option.some.injEq] at h
    obtain ⟨first, sanitized, rest, sanitizedRest, rfl⟩ := h
    obtain ⟨rfl, named, -⟩ := sanitizeSegment_eq_some.mp sanitized
    obtain ⟨rfl, allNamed⟩ := ih sanitizedRest
    exact ⟨rfl, List.forall_mem_cons.mpr ⟨named, allNamed⟩⟩

/-- The path of a repository is kept as it is, and leads down. -/
theorem sanitizePath_eq_some (h : sanitizePath path = some clean) :
    path = clean ∧ Plain (String.ofList clean) := by
  obtain ⟨parts, sanitized, rfl⟩ := Option.map_eq_some_iff.mp h
  obtain ⟨rfl, named⟩ := mapM_sanitizeSegment sanitized
  rw [List.intercalate_splitOn]
  refine ⟨rfl, ?_, ?_⟩
  · refine isAbsolute_eq_false fun first => ?_
    rw [String.toList_ofList] at first
    exact named [] first (by simp)
  · simp only [Descends, String.toList_ofList]
    exact fun up => named _ up (by simp)

theorem segments_sanitizePath (h : sanitizePath path = some clean) :
    segments (String.ofList clean) = (clean.splitOn '/').map .normal := by
  obtain ⟨parts, sanitized, rfl⟩ := Option.map_eq_some_iff.mp h
  obtain ⟨rfl, named⟩ := mapM_sanitizeSegment sanitized
  rw [List.intercalate_splitOn, segments, String.toList_ofList, List.map_eq_flatMap]
  exact List.flatMap_congr fun part mem => inner_of_name (named part mem)

theorem trimGit_suffix (s : List Char) : trimGit s <:+ s := by
  fun_induction trimGit s with
  | case1 rest ih => exact ih.trans (List.suffix_append ['t', 'i', 'g', '.'] rest)
  | case2 => exact List.suffix_refl _

theorem trimGit_append (s rest : List Char) :
    trimGit (s ++ '/' :: rest) = trimGit s ++ '/' :: rest := by
  fun_induction trimGit s with
  | case1 s ih => exact ih
  | case2 s other =>
    rw [trimGit]
    rintro later e
    rcases s with _ | ⟨a, _ | ⟨b, _ | ⟨c, _ | ⟨d, s⟩⟩⟩⟩ <;> simp_all

theorem intercalate_dropLast (long : 2 ≤ (path.splitOn '/').length) :
    ['/'].intercalate (path.splitOn '/').dropLast ++
      '/' :: (path.splitOn '/').getLast?.getD [] = path := by
  obtain ⟨front, last, e⟩ :=
    (List.eq_nil_or_concat' (path.splitOn '/')).resolve_left (List.splitOn_ne_nil _ _)
  have single : ∀ segment ∈ front ++ [last], '/' ∉ segment :=
    fun _ mem => notMem_of_mem_splitOn (e ▸ mem)
  have some : front ≠ [] := by
    rintro rfl
    simp [e] at long
  have split : (['/'].intercalate front ++ '/' :: last).splitOn '/' = path.splitOn '/' := by
    rw [List.splitOn_append_cons_self, List.splitOn_intercalate _ (by grind) some,
      List.splitOn_eq_singleton (single last (by simp)), e]
  rw [e, List.dropLast_concat, List.getLast?_concat, Option.getD_some]
  simpa only [List.intercalate_splitOn] using congrArg ['/'].intercalate split

/-- What parsing a URL says of its parts. -/
structure CleanKey (host owner repo : String) : Prop where
  host_named : host.toList ∉ [[], ['.'], ['.', '.']]
  owner_names : segments owner = (owner.toList.splitOn '/').map .normal
  owner : Plain owner
  repo_single : '/' ∉ repo.toList
  repo_name : segments repo = [.normal repo.toList]

theorem CleanKey.host_ne {host owner repo : String} (clean : CleanKey host owner repo) :
    host ≠ "" := by
  rintro rfl
  exact clean.host_named (by simp)

/-- The parts are the host and the path of the URL, without a `.git` at its end. -/
theorem parseGitCacheKey_eq_ok (h : parseGitCacheKey url = .ok (host, owner, repo)) :
    CleanKey host owner repo ∧ ∃ path, splitGitUrl url = .ok (host.toList, path) ∧
      trimGit path.reverse = (owner.toList ++ '/' :: repo.toList).reverse := by
  obtain ⟨⟨hostText, path⟩, found, h⟩ := bind_eq_ok.mp h
  simp only at h
  split at h
  · cases h
  rename_i long
  split at h
  · cases h
  rename_i cleanHost hostOk
  split at h
  · cases h
  rename_i cleanOwner ownerOk
  split at h
  · cases h
  rename_i cleanRepo repoOk
  cases h
  obtain ⟨rfl, hostNamed, -⟩ := sanitizeSegment_eq_some.mp hostOk
  obtain ⟨repoEq, repoNamed, -⟩ := sanitizeSegment_eq_some.mp repoOk
  obtain ⟨ownerEq, ownerPlain⟩ := sanitizePath_eq_some ownerOk
  have single : '/' ∉ cleanRepo := by
    have last : '/' ∉ (path.splitOn '/').getLast?.getD [] := by
      cases e : (path.splitOn '/').getLast? with
      | none => simp
      | some segment => exact notMem_of_mem_splitOn (List.mem_of_getLast? e)
    rw [← repoEq, List.mem_reverse]
    exact fun mem => last (List.mem_reverse.mp ((trimGit_suffix _).mem mem))
  rw [repoEq] at repoNamed
  have whole := intercalate_dropLast (by omega : 2 ≤ (path.splitOn '/').length)
  refine ⟨⟨by simpa using hostNamed, ?_, ownerPlain, by simpa using single, ?_⟩, path,
    by simpa using found, ?_⟩
  · rw [segments_sanitizePath ownerOk, String.toList_ofList]
  · rw [segments_of_name (by rwa [String.toList_ofList]) (by rwa [String.toList_ofList])]
  · rw [← whole, ownerEq, List.reverse_append, List.reverse_cons, List.append_assoc,
      List.singleton_append, trimGit_append, ← List.reverse_reverse (trimGit _), repoEq]
    simp

theorem parsePluginSpec_key (h : parsePluginSpec raw = .ok (.git spec)) :
    parseGitCacheKey spec.url = .ok (spec.host, spec.owner, spec.repo) := by
  unfold parsePluginSpec at h
  split at h
  · cases h
  · simp only at h
    split at h
    · cases h
    split at h
    · cases h
    split at h
    · cases h
    obtain ⟨⟨host, owner, repo⟩, key, h⟩ := bind_eq_ok.mp h
    cases h
    exact key

theorem parsePluginSpec_clean
    (h : parsePluginSpec raw = .ok (.git spec)) : CleanKey spec.host spec.owner spec.repo :=
  (parseGitCacheKey_eq_ok (parsePluginSpec_key h)).1

theorem envHomeDir_ne_empty (h : envHomeDir env = .ok home) : home ≠ "" := by
  unfold envHomeDir at h
  split at h
  · rename_i found
    cases h
    simpa using (Option.filter_eq_some_iff.mp found).2
  · cases h

theorem gitCacheRoot_ne_empty (h : gitCacheRoot env = .ok root) : root ≠ "" := by
  obtain ⟨cacheRoot, chosen, rfl⟩ := map_eq_ok.mp h
  refine join_ne_empty ?_ _
  unfold envCacheRoot at chosen
  split at chosen
  · rename_i found
    cases chosen
    simpa using (Option.filter_eq_some_iff.mp found).2
  · obtain ⟨home, found, rfl⟩ := map_eq_ok.mp chosen
    exact join_ne_empty (envHomeDir_ne_empty found) _

namespace GitUrlSpec

variable {spec : GitUrlSpec}

theorem cacheDir_eq_ok : spec.cacheDir env = .ok dir ↔
    (∃ root, gitCacheRoot env = .ok root ∧
      dir = join (join (join (join root spec.host) spec.owner) spec.repo) spec.reference) ∧
    (sanitizeSegment spec.reference.toList).isSome = true := by
  unfold cacheDir
  cases gitCacheRoot env with
  | error err => simp [bind, Except.bind]
  | ok root =>
    cases clean : sanitizeSegment spec.reference.toList with
    | none => simp [bind, Except.bind, pluginErr]
    | some reference =>
      obtain ⟨rfl, -⟩ := sanitizeSegment_eq_some.mp clean
      simp [bind, Except.bind, eq_comm]

/-- The parts of a repository as one relative path. -/
def key (spec : GitUrlSpec) : List Component :=
  segments spec.host ++ segments spec.owner ++ segments spec.repo ++ segments spec.reference

theorem components_repoDir (clean : CleanKey spec.host spec.owner spec.repo)
    (nonempty : join root spec.host ≠ "") (relative : isAbsolute spec.reference = false) :
    components (join (join (join (join root spec.host) spec.owner) spec.repo) spec.reference) =
      components (join root spec.host) ++ segments spec.owner ++ segments spec.repo ++
        segments spec.reference := by
  have owner := join_ne_empty nonempty spec.owner
  rw [components_join_relative (join_ne_empty owner _) relative,
    components_join_relative owner (isAbsolute_of_single clean.repo_single),
    components_join_relative nonempty clean.owner.1]

/-- A cache directory of plain parts is its key put below the root. -/
theorem components_cacheDir (clean : CleanKey spec.host spec.owner spec.repo)
    (found : gitCacheRoot env = .ok root) (made : spec.cacheDir env = .ok dir)
    (host : isAbsolute spec.host = false) (reference : isAbsolute spec.reference = false) :
    components dir = components root ++ spec.key := by
  obtain ⟨⟨root', found', rfl⟩, -⟩ := cacheDir_eq_ok.mp made
  cases found.symm.trans found'
  have nonempty := gitCacheRoot_ne_empty found
  rw [components_repoDir clean (join_ne_empty nonempty _) reference,
    components_join_relative nonempty host]
  simp [key]

theorem key_ne_nil (clean : CleanKey spec.host spec.owner spec.repo) : spec.key ≠ [] := by
  simp [key, clean.repo_name]

theorem forall_mem_key (clean : CleanKey spec.host spec.owner spec.repo) :
    (∀ c ∈ spec.key, ∃ name, c = .normal name) ↔ Descends spec.host ∧ Descends spec.reference := by
  have repo : ∀ c ∈ segments spec.repo, ∃ name, c = .normal name := by simp [clean.repo_name]
  have owner := descends_iff.mp clean.owner.2
  rw [descends_iff, descends_iff, key]
  simp only [List.forall_mem_append]
  exact ⟨fun h => ⟨h.1.1.1, h.2⟩, fun h => ⟨⟨⟨h.1, owner⟩, repo⟩, h.2⟩⟩

theorem spelledBelow_of_plain (clean : CleanKey spec.host spec.owner spec.repo)
    (found : gitCacheRoot env = .ok root) (made : spec.cacheDir env = .ok dir)
    (host : Plain spec.host) (reference : Plain spec.reference) : SpelledBelow root dir := by
  obtain ⟨names, e⟩ :=
    exists_eq_map_normal.mpr ((forall_mem_key clean).mpr ⟨host.2, reference.2⟩)
  refine ⟨names, ?_, ?_⟩
  · rintro rfl
    exact key_ne_nil clean e
  · rw [components_cacheDir clean found made host.1 reference.1, e]

theorem key_of_single (clean : CleanKey spec.host spec.owner spec.repo)
    (accepted : (sanitizeSegment spec.reference.toList).isSome = true)
    (host : '/' ∉ spec.host.toList) (reference : '/' ∉ spec.reference.toList) :
    spec.key = (spec.host.toList :: (spec.owner.toList ++ '/' :: spec.repo.toList).splitOn '/' ++
      [spec.reference.toList]).map .normal := by
  obtain ⟨ref, accepted⟩ := Option.isSome_iff_exists.mp accepted
  obtain ⟨-, named, -⟩ := sanitizeSegment_eq_some.mp accepted
  rw [key, segments_of_name host clean.host_named, clean.owner_names, clean.repo_name,
    segments_of_name reference named, List.splitOn_append_cons_self,
    List.splitOn_eq_singleton clean.repo_single]
  simp

/-- An environment whose cache root is a relative path. -/
def relativeEnv : PluginEnv := ⟨some "x", none⟩

theorem head?_relativeRoot (cs : List Component) :
    (components (join "x" "ah/cache/git") ++ cs).head? = some (.normal ['x']) := by
  have : components (join "x" "ah/cache/git") =
      [.normal ['x'], .normal ['a', 'h'], .normal ['c', 'a', 'c', 'h', 'e'],
        .normal ['g', 'i', 't']] := by decide +kernel
  rfl

/-- Below every root only plain parts lead. -/
theorem plain_of_spelledBelow (clean : CleanKey spec.host spec.owner spec.repo)
    (accepted : (sanitizeSegment spec.reference.toList).isSome = true)
    (below : ∀ env root dir, gitCacheRoot env = .ok root → spec.cacheDir env = .ok dir →
      SpelledBelow root dir) : Plain spec.host ∧ Plain spec.reference := by
  have found : gitCacheRoot relativeEnv = .ok (join "x" "ah/cache/git") := rfl
  have made := cacheDir_eq_ok.mpr ⟨⟨_, found, rfl⟩, accepted⟩
  obtain ⟨names, -, spelled⟩ := below _ _ _ found made
  -- an absolute part would begin the directory anew, and the root is relative
  have relativeRef : isAbsolute spec.reference = false := by
    rw [← Bool.not_eq_true]
    intro absolute
    rw [join_absolute absolute] at spelled
    have := congrArg List.head? spelled
    rw [head?_components absolute, head?_relativeRoot] at this
    cases this
  have relativeHost : isAbsolute spec.host = false := by
    rw [← Bool.not_eq_true]
    intro absolute
    rw [components_repoDir clean (by rw [join_absolute absolute]; exact clean.host_ne) relativeRef,
      join_absolute absolute] at spelled
    have := congrArg List.head? spelled
    rw [List.append_assoc, List.append_assoc, List.head?_append, head?_components absolute,
      head?_relativeRoot] at this
    cases this
  rw [components_cacheDir clean found made relativeHost relativeRef] at spelled
  have names := exists_eq_map_normal.mp ⟨names, List.append_cancel_left spelled⟩
  obtain ⟨host, reference⟩ := (forall_mem_key clean).mp names
  exact ⟨⟨relativeHost, host⟩, relativeRef, reference⟩

end GitUrlSpec

/-- URLs with one host and, up to `.git` at its end, one path. -/
def SameRepository (url url' : String) : Prop :=
  ∃ host path path', splitGitUrl url = .ok (host, path) ∧ splitGitUrl url' = .ok (host, path') ∧
    trimGit path.reverse = trimGit path'.reverse

/-- Specs with single segments have one key just if they have one repository and one ref. -/
theorem key_eq_iff {spec spec' : GitUrlSpec} (parsed : parsePluginSpec raw = .ok (.git spec))
    (parsed' : parsePluginSpec raw' = .ok (.git spec'))
    (accepted : (sanitizeSegment spec.reference.toList).isSome = true)
    (accepted' : (sanitizeSegment spec'.reference.toList).isSome = true)
    (host : '/' ∉ spec.host.toList) (reference : '/' ∉ spec.reference.toList)
    (host' : '/' ∉ spec'.host.toList) (reference' : '/' ∉ spec'.reference.toList) :
    spec.key = spec'.key ↔
      SameRepository spec.url spec'.url ∧ spec.reference = spec'.reference := by
  obtain ⟨clean, path, found, trimmed⟩ := parseGitCacheKey_eq_ok (parsePluginSpec_key parsed)
  obtain ⟨clean', path', found', trimmed'⟩ := parseGitCacheKey_eq_ok (parsePluginSpec_key parsed')
  rw [GitUrlSpec.key_of_single clean accepted host reference,
    GitUrlSpec.key_of_single clean' accepted' host' reference',
    List.map_inj_right fun _ _ => Component.normal.inj]
  constructor
  · intro same
    obtain ⟨front, last⟩ := List.append_inj' same rfl
    obtain ⟨hosts, parts⟩ := List.cons.inj front
    have paths := congrArg (['/'].intercalate ·) parts
    simp only [List.intercalate_splitOn] at paths
    refine ⟨⟨_, path, path', found, hosts ▸ found', ?_⟩, String.toList_inj.mp (by simpa using last)⟩
    rw [trimmed, trimmed', paths]
  · rintro ⟨⟨common, _, _, split, split', same⟩, refs⟩
    obtain ⟨hosts, rfl⟩ := Prod.mk.inj (Except.ok.inj (found.symm.trans split))
    obtain ⟨hosts', rfl⟩ := Prod.mk.inj (Except.ok.inj (found'.symm.trans split'))
    rw [trimmed, trimmed'] at same
    rw [List.reverse_injective same, refs, hosts, hosts']

/-- A git spec that is accepted and whose ref passes its check gets a cache directory below the
git cache root, whatever that is, exactly when its host and its ref are relative and do not go
up. Two specs whose hosts and refs are single segments share their directory exactly when they
name one repository and one ref. -/
theorem gitCache_confined_distinct (raw : String) (spec : GitUrlSpec)
    (parsed : parsePluginSpec raw = .ok (.git spec)) :
    ((sanitizeSegment spec.reference.toList).isSome = true →
      ((∀ env root dir, gitCacheRoot env = .ok root → spec.cacheDir env = .ok dir →
          SpelledBelow root dir) ↔ Plain spec.host ∧ Plain spec.reference)) ∧
    ∀ raw' spec' env dir dir', parsePluginSpec raw' = .ok (.git spec') →
      '/' ∉ spec.host.toList → '/' ∉ spec.reference.toList →
      '/' ∉ spec'.host.toList → '/' ∉ spec'.reference.toList →
      spec.cacheDir env = .ok dir → spec'.cacheDir env = .ok dir' →
      (components dir = components dir' ↔
        SameRepository spec.url spec'.url ∧ spec.reference = spec'.reference) := by
  have clean := parsePluginSpec_clean parsed
  constructor
  · intro accepted
    refine ⟨GitUrlSpec.plain_of_spelledBelow clean accepted, fun plain env root dir found made => ?_⟩
    exact GitUrlSpec.spelledBelow_of_plain clean found made plain.1 plain.2
  · intro raw' spec' env dir dir' parsed' host reference host' reference' made made'
    obtain ⟨⟨root, found, -⟩, accepted⟩ := GitUrlSpec.cacheDir_eq_ok.mp made
    obtain ⟨-, accepted'⟩ := GitUrlSpec.cacheDir_eq_ok.mp made'
    rw [GitUrlSpec.components_cacheDir clean found made (isAbsolute_of_single host)
        (isAbsolute_of_single reference),
      GitUrlSpec.components_cacheDir (parsePluginSpec_clean parsed') found made'
        (isAbsolute_of_single host') (isAbsolute_of_single reference'),
      List.append_cancel_left_eq]
    exact key_eq_iff parsed parsed' accepted accepted' host reference host' reference'

def cacheEnv : PluginEnv := ⟨some "/c", none⟩

/-- One repository by two URLs, and two refs of it. -/
theorem gitCache_confined_distinct_tags :
    SpelledBelow "/c/ah/cache/git" "/c/ah/cache/git/h/o/r/v" ∧
      SameRepository "https://h/o/r" "git@h:o/r.git" ∧
      components "/c/ah/cache/git/h/o/r/v" ≠ components "/c/ah/cache/git/h/o/r/w" := by
  have parsed : parsePluginSpec "p@git@https://h/o/r#v" =
      .ok (.git ⟨"p", "https://h/o/r", "h", "o", "r", "v"⟩) := by decide +kernel
  have parsedSsh : parsePluginSpec "p@git@git@h:o/r.git#v" =
      .ok (.git ⟨"p", "git@h:o/r.git", "h", "o", "r", "v"⟩) := by decide +kernel
  have parsed' : parsePluginSpec "p@git@https://h/o/r#w" =
      .ok (.git ⟨"p", "https://h/o/r", "h", "o", "r", "w"⟩) := by decide +kernel
  have found : gitCacheRoot cacheEnv = .ok "/c/ah/cache/git" := by decide +kernel
  have made : GitUrlSpec.cacheDir cacheEnv ⟨"p", "https://h/o/r", "h", "o", "r", "v"⟩ =
      .ok "/c/ah/cache/git/h/o/r/v" := by decide +kernel
  have madeSsh : GitUrlSpec.cacheDir cacheEnv ⟨"p", "git@h:o/r.git", "h", "o", "r", "v"⟩ =
      .ok "/c/ah/cache/git/h/o/r/v" := by decide +kernel
  have made' : GitUrlSpec.cacheDir cacheEnv ⟨"p", "https://h/o/r", "h", "o", "r", "w"⟩ =
      .ok "/c/ah/cache/git/h/o/r/w" := by decide +kernel
  have ⟨below, shared⟩ := gitCache_confined_distinct _ _ parsed
  refine ⟨(below (by decide +kernel)).mpr (by decide +kernel) _ _ _ found made, ?_, ?_⟩
  · exact ((shared _ _ _ _ _ parsedSsh (by decide) (by decide) (by decide) (by decide) made
      madeSsh).mp rfl).1
  · rw [Ne, shared _ _ _ _ _ parsed' (by decide) (by decide) (by decide) (by decide) made made']
    exact fun ⟨_, refs⟩ => absurd refs (by decide)

/-- An absolute ref is the cache directory itself, and a ref with a separator can continue the
path of another repository. -/
theorem not_gitCache_confined_distinct :
    (∃ raw spec env root dir, parsePluginSpec raw = .ok (.git spec) ∧
      gitCacheRoot env = .ok root ∧ spec.cacheDir env = .ok dir ∧ ¬ SpelledBelow root dir) ∧
    ∃ raw spec raw' spec' env dir, parsePluginSpec raw = .ok (.git spec) ∧
      parsePluginSpec raw' = .ok (.git spec') ∧
      spec.url ≠ spec'.url ∧ spec.reference ≠ spec'.reference ∧
      spec.cacheDir env = .ok dir ∧ spec'.cacheDir env = .ok dir := by
  constructor
  · refine ⟨"p@git@https://h/o/r#/etc", ⟨"p", "https://h/o/r", "h", "o", "r", "/etc"⟩, cacheEnv,
      "/c/ah/cache/git", "/etc", by decide +kernel, by decide +kernel, by decide +kernel, ?_⟩
    rintro ⟨names, -, spelled⟩
    have above : components "/c/ah/cache/git" <+: components "/etc" := ⟨_, spelled.symm⟩
    exact absurd above (by decide +kernel)
  · exact ⟨"p@git@https://h/o/r#x/y", ⟨"p", "https://h/o/r", "h", "o", "r", "x/y"⟩,
      "p@git@https://h/o/r/x#y", ⟨"p", "https://h/o/r/x", "h", "o/r", "x", "y"⟩, cacheEnv,
      "/c/ah/cache/git/h/o/r/x/y", by decide +kernel, by decide +kernel, by decide, by decide,
      by decide +kernel, by decide +kernel⟩

end Ccbd
