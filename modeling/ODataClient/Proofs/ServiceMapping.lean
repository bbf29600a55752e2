import Mathlib.Data.List.Dedup
import Mathlib.Data.List.Perm.Subperm
import ODataClient.Proofs.Dictionary
import ODataClient.Proofs.Json.RoundTrip
import ODataClient.Service.Directory

/-!
# Mapping files that have been written

The mapping of services is written as a text and read by later runs. What is read is what was
written, and services with file names of their own find what was chosen for them.
-/

namespace ODataClient

theorem Json.asDictionary?_of_written {α : Type} {read : Json → Option α} {write : α → Json}
    (reads : ∀ value, read (write value) = some value) (entries : List (String × α)) :
    asDictionary? read (.object (entries.map fun entry => (entry.1, write entry.2))) =
      some (Dictionary.ofEntries entries) := by
  have opened (members : List (String × Json)) : asDictionary? read (.object members) =
      (members.mapM fun member => (read member.2).map fun result => (member.1, result)).bind
        fun entries => some (Dictionary.ofEntries entries) := rfl
  have each : (entries.map fun entry => (entry.1, write entry.2)).mapM
      (fun member => (read member.2).map fun result => (member.1, result)) = some entries := by
    induction entries with
    | nil => rfl
    | cons entry entries ih =>
        rw [List.map_cons, List.mapM_cons, ih]
        simp [reads]
  rw [opened, each, Option.bind_some]

namespace ServiceMapping

theorem isTextual_toJson (mapping : ServiceMapping) : mapping.toJson.IsTextual := by
  refine .object fun member isMember => ?_
  simp only [List.mem_cons, List.not_mem_nil, or_false] at isMember
  obtain rfl | rfl | rfl := isMember <;> exact .text _

theorem ofJson?_toJson (mapping : ServiceMapping) : ofJson? mapping.toJson = some mapping := by
  rfl

end ServiceMapping

namespace ServiceMappings

variable {mappings : ServiceMappings} {services : List Service} {service : Service}

/-- What is read of a mapping file is what was written. -/
theorem parse_render (path : String) (distinct : (mappings.map Prod.fst).Nodup) :
    parse path mappings.render = .ok mappings := by
  let value : Json := .object (mappings.map fun entry => (entry.1, entry.2.toJson))
  have textual : value.IsTextual := by
    refine .object fun member isMember => ?_
    obtain ⟨entry, -, rfl⟩ := List.mem_map.1 isMember
    exact entry.2.isTextual_toJson
  have read : value.asDictionary? ServiceMapping.ofJson? = some mappings := by
    rw [Json.asDictionary?_of_written ServiceMapping.ofJson?_toJson,
      Dictionary.ofEntries_of_nodup distinct]
  have text : mappings.render = value.render ++ "\n" := rfl
  simp only [parse, text, Json.parse?_render textual, Option.bind_some, read]

theorem parse_render_ofServices (path : String) (services : List Service) :
    parse path (ofServices services).render = .ok (ofServices services) :=
  parse_render path Dictionary.nodup_keys_ofEntries

theorem mem_keys_ofServices {name : String} :
    name ∈ (ofServices services).map Prod.fst ↔ name ∈ services.map (·.fileName) := by
  rw [ofServices, Dictionary.mem_keys_ofEntries, List.map_map]
  rfl

theorem ofServices_of_nodup (distinct : (services.map (·.fileName)).Nodup) :
    ofServices services = services.map fun service => (service.fileName, service.mapping) := by
  apply Dictionary.ofEntries_of_nodup
  rwa [List.map_map]

/-- A service whose file name no other has finds what was chosen for it, whatever its namespace. -/
theorem lookup?_ofServices (distinct : (services.map (·.fileName)).Nodup)
    (member : service ∈ services) (ns : String) :
    (ofServices services).lookup? service.fileName ns = some service.mapping := by
  have entry : (service.fileName, service.mapping) ∈ ofServices services := by
    rw [ofServices_of_nodup distinct]
    exact List.mem_map_of_mem member
  have found : Dictionary.get? (ofServices services) service.fileName = some service.mapping :=
    Dictionary.get?_of_mem Dictionary.nodup_keys_ofEntries entry
  rw [lookup?, found, Option.some_or]

/-- Of the services with one file name, only the last is kept. -/
theorem get?_ofServices (services : List Service) (name : String) :
    Dictionary.get? (ofServices services) name =
      (services.reverse.find? (·.fileName = name)).map Service.mapping := by
  induction services using List.reverseRecOn with
  | nil => rfl
  | append_singleton services service ih =>
      rw [ofServices, List.map_append, List.map_singleton, Dictionary.ofEntries_concat,
        Dictionary.get?_insert, ← ofServices, ih, List.reverse_append, List.reverse_singleton,
        List.singleton_append, List.find?_cons]
      by_cases same : service.fileName = name
      · simp [same]
      · simp [same, Ne.symm same]

/-- Mappings hold what was chosen for each of some services. -/
def Keeps (mappings : ServiceMappings) (services : List Service) : Prop :=
  ∀ service ∈ services, ∃ name, (name, service.mapping) ∈ mappings

/-- There are as many entries as there are file names, and services in directories of their own need
an entry each. -/
theorem keeps_ofServices_iff (apart : (services.map (·.directoryName)).Nodup) :
    (ofServices services).Keeps services ↔ (services.map (·.fileName)).Nodup := by
  constructor
  · intro keeps
    let names := services.map (·.fileName)
    have distinct : (services.map Service.mapping).Nodup := by
      apply List.Nodup.of_map ServiceMapping.directoryName
      rwa [List.map_map]
    have kept : services.map Service.mapping ⊆ (ofServices services).map Prod.snd := by
      intro mapping member
      obtain ⟨service, isService, rfl⟩ := List.mem_map.1 member
      obtain ⟨name, entry⟩ := keeps service isService
      exact List.mem_map_of_mem entry
    have keys : (ofServices services).map Prod.fst ⊆ names.dedup := fun name member =>
      List.mem_dedup.2 (mem_keys_ofServices.1 member)
    -- as many entries as services, and no more entries than different names
    have enough : names.length ≤ names.dedup.length := by
      calc
        names.length = (services.map Service.mapping).length := by simp [names]
        _ ≤ ((ofServices services).map Prod.snd).length :=
          (List.Nodup.subperm distinct kept).length_le
        _ = ((ofServices services).map Prod.fst).length := by simp
        _ ≤ names.dedup.length :=
          (List.Nodup.subperm Dictionary.nodup_keys_ofEntries keys).length_le
    have all : names.dedup = names := (List.dedup_sublist names).eq_of_length_le enough
    change names.Nodup
    rw [← all]
    exact List.nodup_dedup names
  · intro distinct service member
    rw [ofServices_of_nodup distinct]
    exact ⟨service.fileName, List.mem_map_of_mem member⟩

end ServiceMappings

end ODataClient
