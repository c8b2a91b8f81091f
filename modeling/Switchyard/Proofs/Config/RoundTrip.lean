import Switchyard.Config.Json
import Switchyard.Proofs.Json.RoundTrip
import Switchyard.Proofs.Names.Keyed
import Switchyard.Proofs.Names.Registration

/-!
# Configurations come back from their text

Reading the text of a configuration gives the configuration back, its routes in their order
(`RouterConfig.ofJsonText_toJsonText`). The printer and the reader of values are inverse where a
value holds neither numbers nor breaks, as those of configurations do; here a record is read
back from its value, and the fields that writing leaves out are found empty.
-/

namespace Switchyard

open Json (Value)

/-! ## Maps and sets -/

/-- Members that a map's values were written to are read back, where each value is. -/
theorem decodeMembers_map {α : Type} {read : Value → Decoded α} {write : α → Value}
    (hread : ∀ value, read (write value) = .ok value) (entries : List (String × α)) :
    decodeMembers read (entries.map fun entry => (entry.1, write entry.2)) = .ok entries := by
  induction entries with
  | nil => rfl
  | cons entry entries ih =>
    rw [List.map_cons, decodeMembers, hread, ih]
    rfl

theorem decodeMap_object {α : Type} {read : Value → Decoded α} {write : α → Value}
    (hread : ∀ value, read (write value) = .ok value) (entries : List (String × α)) :
    decodeMap read (.object (entries.map fun entry => (entry.1, write entry.2)) true) =
      .ok entries := by
  rw [decodeMap, decodeMembers_map hread]
  rfl

theorem Params.ofJson_toJson (params : Params) : Params.ofJson params.toJson = .ok params := by
  have hread : ∀ text, decodeString (.string text) = .ok text := fun _ => rfl
  rw [Params.ofJson, Params.toJson, decodeMap_object hread]
  exact congrArg Except.ok params.ofList_entries

theorem decodeItems_map (names : List String) : decodeItems (names.map .string) = .ok names := by
  induction names with
  | nil => rfl
  | cons name names ih =>
    rw [List.map_cons, decodeItems, ih]
    rfl

theorem NameSet.ofJson_toJson (set : NameSet) : NameSet.ofJson set.toJson = .ok set := by
  rw [NameSet.toJson, NameSet.ofJson, decodeItems_map]
  exact congrArg Except.ok set.ofNames_names

/-! ## Records -/

/-- What a field holds after its member was read, which is left out where the map is empty. -/
def Keyed.written? {α : Type} (map : Keyed α) : Option (Keyed α) :=
  if map.isEmpty then none else some map

/-- A field that was left out is found empty. -/
@[simp] theorem Keyed.getD_written? {α : Type} (map : Keyed α) :
    map.written?.getD .empty = map := by
  unfold Keyed.written?
  split
  · rename_i h
    exact (Keyed.eq_empty_of_isEmpty h).symm
  · rfl

theorem RouteFields.readAll_memberUnless {α : Type} (set : Option (Keyed α) → RouteFields)
    {map : Keyed α} {name : String} {value : Value} (rest : List (String × Value))
    (hread : (set none).read name value = .ok (set (some map))) :
    (set none).readAll (memberUnless map.isEmpty name value ++ rest) =
      (set map.written?).readAll rest := by
  unfold memberUnless Keyed.written?
  split
  · rfl
  · rw [List.singleton_append, readAll, hread]

/-- The members that the record of a route is written to fill the fields that are not empty. -/
theorem RouteConfig.readAll_members (config : RouteConfig) :
    RouteFields.readAll {} (("path", .string config.path) ::
      memberUnless config.defaults.isEmpty "defaults" (Params.toJson config.defaults) ++
      memberUnless config.constraints.isEmpty "constraints" (Params.toJson config.constraints) ++
      memberUnless config.schemes.isEmpty "schemes" (NameSet.toJson config.schemes) ++
      memberUnless config.methods.isEmpty "methods" (NameSet.toJson config.methods)) =
      .ok { path := some config.path, defaults := config.defaults.written?,
            constraints := config.constraints.written?, schemes := config.schemes.written?,
            methods := config.methods.written? } := by
  have hpath : RouteFields.read {} "path" (.string config.path) =
      .ok { path := some config.path } := rfl
  -- The last member is read like the others, with no member behind it.
  rw [← List.append_nil (memberUnless config.methods.isEmpty _ _)]
  simp only [List.cons_append, List.append_assoc, RouteFields.readAll, hpath]
  rw [RouteFields.readAll_memberUnless
      (fun defaults => { path := some config.path, defaults })
      _ (by simp [RouteFields.read, readOnce, Params.ofJson_toJson, Except.map]),
    RouteFields.readAll_memberUnless
      (fun constraints => { path := some config.path, defaults := _, constraints })
      _ (by simp [RouteFields.read, readOnce, Params.ofJson_toJson, Except.map]),
    RouteFields.readAll_memberUnless
      (fun schemes => { path := some config.path, defaults := _, constraints := _, schemes })
      _ (by simp [RouteFields.read, readOnce, NameSet.ofJson_toJson, Except.map]),
    RouteFields.readAll_memberUnless
      (fun methods =>
        { path := some config.path, defaults := _, constraints := _, schemes := _, methods })
      _ (by simp [RouteFields.read, readOnce, NameSet.ofJson_toJson, Except.map]),
    RouteFields.readAll]

/-- The record of a route is read back from its value. -/
theorem RouteConfig.ofJson_toJson (config : RouteConfig) :
    RouteConfig.ofJson config.toJson = .ok config := by
  rw [RouteConfig.toJson, RouteConfig.ofJson, config.readAll_members]
  simp [RouteFields.finish]

theorem RouterConfig.ofJson_toJson (config : RouterConfig) :
    RouterConfig.ofJson config.toJson = .ok config := by
  have hroutes : RouterFields.read {} "routes" (.object (config.routes.entries.map fun entry =>
      (entry.1, entry.2.toJson)) true) = .ok { routes := some config.routes } := by
    have hmap := decodeMap_object RouteConfig.ofJson_toJson config.routes.entries
    simp [RouterFields.read, hmap, readOnce, Except.map, Roster.ofList_entries]
  have hparams : RouterFields.readAll { routes := some config.routes }
      (memberUnless config.defaultParams.isEmpty "default_params"
        (Params.toJson config.defaultParams)) =
      .ok { routes := some config.routes, defaultParams := config.defaultParams.written? } := by
    unfold memberUnless Keyed.written?
    split
    · rfl
    · simp [RouterFields.readAll, RouterFields.read, readOnce, Params.ofJson_toJson, Except.map]
  rw [RouterConfig.toJson, RouterConfig.ofJson, RouterFields.readAll, hroutes]
  simp [hparams, RouterFields.finish]

/-! ## Texts -/

theorem Params.plain_toJson (params : Params) : params.toJson.Plain := by
  refine .object fun member hmem => ?_
  obtain ⟨entry, -, rfl⟩ := List.mem_map.mp hmem
  exact .string entry.2

theorem NameSet.plain_toJson (set : NameSet) : set.toJson.Plain := by
  refine .array fun item hmem => ?_
  obtain ⟨name, -, rfl⟩ := List.mem_map.mp hmem
  exact .string name

theorem plain_of_mem_memberUnless {isEmpty : Bool} {name : String} {value : Value}
    (h : value.Plain) : ∀ member ∈ memberUnless isEmpty name value, member.2.Plain := by
  intro member hmem
  unfold memberUnless at hmem
  split at hmem
  · cases hmem
  · rw [List.mem_singleton.mp hmem]
    exact h

theorem RouteConfig.plain_toJson (config : RouteConfig) : config.toJson.Plain := by
  refine .object ?_
  simp only [List.forall_mem_append, List.forall_mem_cons]
  exact ⟨⟨⟨⟨.string config.path, plain_of_mem_memberUnless (Params.plain_toJson _)⟩,
    plain_of_mem_memberUnless (Params.plain_toJson _)⟩,
    plain_of_mem_memberUnless (NameSet.plain_toJson _)⟩,
    plain_of_mem_memberUnless (NameSet.plain_toJson _)⟩

theorem RouterConfig.plain_toJson (config : RouterConfig) : config.toJson.Plain := by
  refine .object (List.forall_mem_cons.mpr ⟨.object fun member hmem => ?_, ?_⟩)
  · obtain ⟨entry, -, rfl⟩ := List.mem_map.mp hmem
    exact entry.2.plain_toJson
  · exact plain_of_mem_memberUnless (Params.plain_toJson _)

/-- Every configuration is written, and read back as it was. -/
theorem RouterConfig.ofJsonText_toJsonText (config : RouterConfig) :
    RouterConfig.ofJsonText config.toJsonText = .ok config := by
  have hread : Value.read config.toJsonText.toList = (config.toJson, true) := by
    rw [RouterConfig.toJsonText, Json.Value.text, String.toList_ofList]
    exact Json.Value.read_print config.plain_toJson 0
  have hparse : RouterConfig.parseJson config.toJsonText = .ok config := by
    rw [RouterConfig.parseJson, hread]
    simp [RouterConfig.ofJson_toJson]
  rw [RouterConfig.ofJsonText, hparse]
  rfl

end Switchyard
