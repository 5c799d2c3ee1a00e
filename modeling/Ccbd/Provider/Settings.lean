import Ccbd.Lib.Json
import Ccbd.Lib.Table

/-!
# Settings of a provider

`merge_provider_settings` lays the settings of a provider over those of the home, object by
object. What stands at a path afterwards is told by the overlay where it mentions the path and
by the settings below where it does not.
-/

namespace Ccbd

open Lib

/-- `Map::insert`. -/
def insertField (key : String) (value : Json) : List (String × Json) → List (String × Json)
  | [] => [(key, value)]
  | f :: fs => if f.1 = key then (key, value) :: fs else f :: insertField key value fs

mutual

/-- What an entry of the overlay makes of the value under its key: objects are merged, anything
else is replaced. -/
def mergeValue (existing : Option Json) : Json → Json
  | .obj incoming =>
    match existing with
    | some (.obj fields) => .obj (mergeProviderSettings fields incoming)
    | _ => .obj incoming
  | value => value

def mergeProviderSettings (settings : List (String × Json)) :
    List (String × Json) → List (String × Json)
  | [] => settings
  | (key, value) :: rest =>
    mergeProviderSettings (insertField key (mergeValue (settings.lookup key) value) settings) rest

end

/-- The overlay says what stands at the path: it has an entry there, or something that is no
object on the way. -/
def mentions : Json → List String → Bool
  | .obj fields, key :: path => (fields.lookup key).any (mentions · path)
  | _, _ => true

/-! ## One object -/

theorem lookup_insertField (key : String) (value : Json) (fields : List (String × Json))
    (k : String) :
    (insertField key value fields).lookup k = if k = key then some value else fields.lookup k := by
  fun_induction insertField key value fields <;> grind

theorem insertField_of_lookup (h : fields.lookup key = some value) :
    insertField key value fields = fields := by
  fun_induction insertField key value fields <;> grind

/-- Under a key of the overlay stands what its entry makes of the value that was there. -/
theorem lookup_mergeProviderSettings (distinct : (overlay.map Prod.fst).Nodup)
    (settings : List (String × Json)) (k : String) :
    (mergeProviderSettings settings overlay).lookup k =
      ((overlay.lookup k).map (mergeValue (settings.lookup k))).or (settings.lookup k) := by
  induction overlay generalizing settings with
  | nil => simp [mergeProviderSettings]
  | cons f rest ih =>
    obtain ⟨key, value⟩ := f
    rw [List.map_cons, List.nodup_cons] at distinct
    have absent : rest.lookup key = none := Table.lookup_eq_none.mpr distinct.1
    rw [mergeProviderSettings, ih distinct.2, lookup_insertField, List.lookup_cons]
    grind

theorem distinct_of_valid (valid : (Json.obj fields).Valid) : (fields.map Prod.fst).Nodup := by
  cases valid
  assumption

theorem valid_of_lookup (valid : (Json.obj fields).Valid) (h : fields.lookup key = some v) :
    v.Valid := by
  cases valid with
  | obj distinct values => exact values (key, v) ((Table.lookup_eq_some_iff distinct).mp h)

/-! ## Paths -/

theorem at?_mergeValue_of_not_mentions (valid : overlay.Valid) (before : base.at? path = some v)
    (apart : mentions overlay path = false) : (mergeValue (some base) overlay).at? path = some v := by
  induction path generalizing base overlay with
  | nil => cases overlay <;> cases apart
  | cons key path ih =>
    cases overlay with
    | obj incoming =>
      obtain ⟨b, here, below⟩ := Option.bind_eq_some_iff.mp before
      cases base with
      | obj fields =>
        have merged := lookup_mergeProviderSettings (distinct_of_valid valid) fields key
        cases entry : incoming.lookup key with
        | none => simp_all [mergeValue, Json.at?, Json.get?]
        | some o =>
          have inside := ih (valid_of_lookup valid entry) below (by simpa [mentions, entry] using apart)
          simp_all [mergeValue, Json.at?, Json.get?]
      | _ => cases here
    | _ => cases apart

theorem at?_mergeValue_of_leaf (valid : overlay.Valid) (there : overlay.at? path = some v)
    (leaf : v.isObj = false) (base : Option Json) : (mergeValue base overlay).at? path = some v := by
  induction path generalizing base overlay with
  | nil =>
    cases there
    cases v <;> first | rfl | cases leaf
  | cons key path ih =>
    obtain ⟨o, entry, below⟩ := Option.bind_eq_some_iff.mp there
    cases overlay with
    | obj incoming =>
      have inside := ih (valid_of_lookup valid entry) below
      have merged := lookup_mergeProviderSettings (distinct_of_valid valid) (k := key)
      cases base with
      | none => exact there
      | some b =>
        cases b with
        | obj fields => simp_all [mergeValue, Json.at?, Json.get?]
        | _ => exact there
    | _ => cases entry

theorem mergeProviderSettings_of_fixed (h : ∀ f ∈ overlay,
    ∃ x, settings.lookup f.1 = some x ∧ mergeValue (some x) f.2 = x) :
    mergeProviderSettings settings overlay = settings := by
  induction overlay with
  | nil => rw [mergeProviderSettings]
  | cons f rest ih =>
    rw [List.forall_mem_cons] at h
    obtain ⟨⟨x, there, same⟩, later⟩ := h
    rw [mergeProviderSettings, there, same, insertField_of_lookup there]
    exact ih later

theorem mergeValue_twice (valid : overlay.Valid) (base : Option Json) :
    mergeValue (some (mergeValue base overlay)) overlay = mergeValue base overlay := by
  induction valid generalizing base with
  | @obj incoming distinct values ih =>
    have entry (f : String × Json) (mem : f ∈ incoming) : incoming.lookup f.1 = some f.2 :=
      (Table.lookup_eq_some_iff distinct).mpr mem
    have fresh : mergeProviderSettings incoming incoming = incoming := by
      refine mergeProviderSettings_of_fixed fun f mem => ⟨f.2, entry f mem, ?_⟩
      have own : mergeValue none f.2 = f.2 := by cases f.2 <;> rfl
      have twice := ih f mem none
      rwa [own] at twice
    cases base with
    | none => exact congrArg Json.obj fresh
    | some b =>
      cases b with
      | obj fields =>
        refine congrArg Json.obj (mergeProviderSettings_of_fixed fun f mem => ?_)
        refine ⟨_, ?_, ih f mem (fields.lookup f.1)⟩
        rw [lookup_mergeProviderSettings distinct, entry f mem, Option.map_some, Option.some_or]
      | _ => exact congrArg Json.obj fresh
  | _ => rfl

/-- The settings stand where the overlay mentions nothing, the overlay stands where it has
something other than an object, and a second merge changes nothing. -/
theorem mergeProviderSettings_rightBiased (valid : (Json.obj overlay).Valid)
    (base : List (String × Json)) :
    (∀ path v, (Json.obj base).at? path = some v → mentions (.obj overlay) path = false →
      (Json.obj (mergeProviderSettings base overlay)).at? path = some v) ∧
    (∀ path v, (Json.obj overlay).at? path = some v → v.isObj = false →
      (Json.obj (mergeProviderSettings base overlay)).at? path = some v) ∧
    mergeProviderSettings (mergeProviderSettings base overlay) overlay =
      mergeProviderSettings base overlay := by
  refine ⟨fun path v => at?_mergeValue_of_not_mentions valid, fun path v there leaf => ?_, ?_⟩
  · exact at?_mergeValue_of_leaf valid there leaf (some (.obj base))
  · exact Json.obj.inj (mergeValue_twice valid (some (.obj base)))

/-- The overlay replaces one entry of an object and keeps the other. -/
theorem mergeProviderSettings_theme :
    (Json.obj (mergeProviderSettings [("ui", .obj [("theme", .str "dark"), ("zoom", .num 2)])]
      [("ui", .obj [("theme", .null)])])).at? ["ui", "theme"] = some .null := by
  have valid : (Json.obj [("ui", .obj [("theme", .null)])]).Valid :=
    .obj (by decide) (by simpa using .obj (by decide) (by simpa using .null))
  exact (mergeProviderSettings_rightBiased valid _).2.1 _ _ rfl rfl

end Ccbd
