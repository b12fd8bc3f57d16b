import Mathlib.Data.List.Nodup
import ConnectionConfig.Property.Schema

/-!
# The entries of the standard schema

Every property has an entry of its own, and is found by its key. Keys hold letters only, so that
nothing in them has to be escaped.
-/

namespace ConnectionConfig

namespace Property

/-- A property is known by its key. -/
theorem name_inj {p q : Property} : p.name = q.name ↔ p = q :=
  ⟨fun h ↦ List.inj_on_of_nodup_map nodup_names (mem_all p) (mem_all q) h, fun h ↦ by rw [h]⟩

end Property

namespace Schema

/-- A key with an entry is supported. -/
theorem supports_name {schema : Schema} {e : SchemaEntry} (h : e ∈ schema.entries) :
    schema.supports e.name = true := by
  rw [supports, find?, List.find?_isSome]
  exact ⟨e, h, beq_self_eq_true _⟩

/-- A key that is supported has an entry. -/
theorem exists_of_supports {schema : Schema} {name : String} (h : schema.supports name = true) :
    ∃ e ∈ schema.entries, e.name = name := by
  obtain ⟨e, he, hn⟩ := List.find?_isSome.mp h
  exact ⟨e, he, eq_of_beq hn⟩

/-- The entries of the standard schema are those of the properties. -/
theorem mem_entries_standard {e : SchemaEntry} :
    e ∈ standard.entries ↔ ∃ p : Property, p.entry = e := by
  rw [standard, List.mem_map]
  exact ⟨fun ⟨p, _, h⟩ ↦ ⟨p, h⟩, fun ⟨p, h⟩ ↦ ⟨p, Property.mem_all p, h⟩⟩

/-- Different entries of the standard schema have different keys. -/
theorem nodup_names_standard : (standard.entries.map SchemaEntry.name).Nodup := by
  rw [standard, List.map_map]
  exact Property.nodup_names

/-- Keys of the standard schema hold letters and digits only. -/
theorem isAlphanum_of_mem_name {e : SchemaEntry} (h : e ∈ standard.entries) :
    ∀ c ∈ e.name.toList, c.isAlphanum = true := by
  have hall : standard.entries.all (fun e ↦ e.name.toList.all Char.isAlphanum) = true := by
    decide +kernel
  exact List.all_eq_true.mp (List.all_eq_true.mp hall e h)

end Schema

end ConnectionConfig
