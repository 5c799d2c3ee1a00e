import Ccbd.Provider.Extensions
import Mathlib.Data.Int.Cast.Lemmas

/-!
# Configuration fingerprints

`compute_config_hash` builds a JSON value of the configuration and hashes its text. A
`serde_json` object is sorted by key, so the value does not depend on the order of a map.
The digest of the text (`deterministic_json`, then SHA-256) is a parameter.
-/

namespace Ccbd

open Lib

inductive ConfigRole where
  | master (cmd : String)
  | agent (provider : String) (env : Table String String)

structure ConfigFingerprintInput where
  role : ConfigRole
  hooks : Hooks
  plugins : List String
  skills : List String
  settings : Table String Json
  bundle : Option BundleDigest

/-- The object of a map. -/
def mapJson {ρ : Type} (t : Table String ρ) (f : ρ → Json) : Json :=
  .obj ((t.selectOrderBy (fun _ _ => true) fun x y => x.1 ≤ y.1).map fun r => (r.1, f r.2))

def strsJson (xs : List String) : Json := .arr (xs.map .str)

def HookItem.json (item : HookItem) : Json :=
  .obj (("command", .str item.command) ::
    (match item.timeout with
      | some n => [("timeout", .num n)]
      | none => []) ++ [("type", .str item.hookType)])

def HookGroup.json (group : HookGroup) : Json :=
  .obj [("hooks", .arr (group.hooks.map HookItem.json)), ("matcher", .str group.matcher)]

def hookGroupsJson (groups : List HookGroup) : Json := .arr (groups.map HookGroup.json)

def BundleDigest.json (digest : BundleDigest) : Json :=
  .obj [("bundles", .arr (digest.bundles.map fun e =>
    .obj [("digest", .str e.digest), ("name", .str e.name)]))]

def ConfigRole.json : ConfigRole → Json
  | master cmd => .obj [("cmd", .str cmd), ("kind", .str "master")]
  | agent provider env =>
    .obj [("env", mapJson env .str), ("kind", .str "agent"), ("provider", .str provider)]

namespace ConfigFingerprintInput

/-- The field for the bundles; an empty digest counts as none. -/
def bundleFields (input : ConfigFingerprintInput) : List (String × Json) :=
  match input.bundle with
  | some digest => if digest.bundles.isEmpty then [] else [("bundle", digest.json)]
  | none => []

def settingsFields (input : ConfigFingerprintInput) : List (String × Json) :=
  if input.settings.rows.isEmpty then [] else [("settings", mapJson input.settings id)]

/-- The value that is hashed. -/
def json (input : ConfigFingerprintInput) : Json :=
  .obj (input.bundleFields ++
    [("hooks", mapJson input.hooks hookGroupsJson),
      ("plugins", strsJson (input.plugins.insertionSort (· ≤ ·))),
      ("role", input.role.json)] ++
    input.settingsFields ++ [("skills", strsJson (input.skills.insertionSort (· ≤ ·)))])

end ConfigFingerprintInput

def computeConfigHash (digest : Json → String) (input : ConfigFingerprintInput) : String :=
  digest input.json

/-! ## The fingerprint determines the hooks -/

theorem mapJson_injective {ρ : Type} {f : ρ → Json} (hf : Function.Injective f)
    {t t' : Table String ρ} (h : mapJson t f = mapJson t' f) (k : String) :
    t.get? k = t'.get? k := by
  have hpair : Function.Injective fun r : String × ρ => (r.1, f r.2) := by
    rintro ⟨k₁, r₁⟩ ⟨k₂, r₂⟩ e
    simp only [Prod.mk.injEq] at e ⊢
    exact ⟨e.1, hf e.2⟩
  have rows := List.map_injective_iff.mpr hpair (Json.obj.inj h)
  have same : ∀ r, t.get? k = some r ↔ t'.get? k = some r := by
    intro r
    have mem := congrArg ((k, r) ∈ ·) rows
    simpa [Table.mem_selectOrderBy] using mem
  exact Option.ext same

theorem HookItem.json_injective : Function.Injective HookItem.json := by
  rintro ⟨_, _, t⟩ ⟨_, _, t'⟩ h
  cases t <;> cases t' <;> simp_all [HookItem.json]

theorem HookGroup.json_injective : Function.Injective HookGroup.json := by
  rintro ⟨m, hs⟩ ⟨m', hs'⟩ h
  simp only [HookGroup.json, Json.obj.injEq, List.cons.injEq, Prod.mk.injEq, true_and,
    Json.arr.injEq, Json.str.injEq, and_true] at h
  obtain ⟨items, rfl⟩ := h
  rw [List.map_injective_iff.mpr HookItem.json_injective items]

theorem hookGroupsJson_injective : Function.Injective hookGroupsJson := by
  intro gs gs' h
  exact List.map_injective_iff.mpr HookGroup.json_injective (Json.arr.inj h)

namespace ConfigFingerprintInput

/-- Two inputs that differ at most in their hooks have one fingerprint only if they have
the same hooks. -/
theorem hooks_of_json_eq {input : ConfigFingerprintInput} {hooks : Hooks}
    (h : { input with hooks := hooks }.json = input.json) (event : String) :
    hooks.get? event = input.hooks.get? event := by
  have fields := Json.obj.inj h
  simp only [bundleFields, settingsFields, List.append_assoc, List.append_cancel_left_eq] at fields
  simp only [List.cons_append, List.cons.injEq, Prod.mk.injEq, true_and, and_true] at fields
  exact mapJson_injective hookGroupsJson_injective fields event

end ConfigFingerprintInput

end Ccbd
