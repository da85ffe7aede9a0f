import EntityProps.Manifest
import EntityProps.Proofs.Saving

/-!
# Texts of manifests

Manifests are only read. Still every manifest has a text that is read as this
manifest, whatever the names and annotations in it are (`exists_ofToml`): the
document with one section for each entity.
-/

namespace EntityProps.Manifest

open Toml

/-- The entries in which an entity is written. -/
def entityEntries (e : Entity) : Entries :=
  ("name", .str e.name) :: optionalEntry "kind" (e.kind.map Kind.data) ++
    [("annotation", .str e.text)]

/-- The entries in which a manifest is written. -/
def entries (m : Manifest) : Entries :=
  [("entity", .list (m.entities.map fun e => .table (entityEntries e)))]

theorem exists_str_of_mem {e : Entity} {x : String × Data} (hx : x ∈ entityEntries e) :
    ∃ s, x.2 = .str s := by
  simp only [entityEntries, List.cons_append, List.mem_cons, List.mem_append, List.not_mem_nil,
    or_false, mem_optionalEntry_iff, Option.map_eq_some_iff] at hx
  rcases hx with rfl | ⟨_, ⟨kind, -, rfl⟩, rfl⟩ | rfl
  · exact ⟨_, rfl⟩
  · exact ⟨_, rfl⟩
  · exact ⟨_, rfl⟩

theorem arePairs_entity (e : Entity) : ArePairs (entityEntries e) := by
  refine arePairs_of_fields (Entity.record .toml).fields (by decide) (by decide) ?_ ?_
  · simp only [entityEntries, List.map_cons, List.map_append, List.cons_append]
    exact ((keys_optionalEntry "kind" _).append (List.Sublist.refl _)).cons_cons _
  · intro x hx
    obtain ⟨s, hs⟩ := exists_str_of_mem hx
    rw [hs]
    exact .scalar (.str s)

theorem read_entity (e : Entity) :
    (Entity.record .toml).read .toml (.table (entityEntries e)) = .ok e := by
  obtain ⟨name, kind, text⟩ := e
  refine Record.read_table ?_ ?_
  · cases kind with
    | none => rfl
    | some kind => cases kind <;> rfl
  · simp [Entity.record, entityEntries]

theorem ofData_entries (m : Manifest) : ofData .toml (.table m.entries) = .ok m := by
  refine Record.read_table ?_ (by simp [record])
  have hset : ∀ d : Data, (record .toml).set {} "entity" d =
      (d.asList ((Entity.record .toml).read .toml)).map fun es => { entities := es } :=
    fun _ => rfl
  rw [entries, Record.setAll_singleton]
  refine (hset _).trans ?_
  rw [Data.asList_map fun e _ => read_entity e]
  rfl

theorem isDocument_entries (m : Manifest) : IsDocument m.entries := by
  refine ⟨?_, List.pairwise_singleton _ _⟩
  rw [entries, List.forall_mem_singleton]
  exact Config.isEntry_tables (by decide) arePairs_entity _

theorem not_overflows_entity (e : Entity) : ¬ Overflows (.table (entityEntries e)) := by
  rw [overflows_table_iff]
  rintro ⟨x, hx, h⟩
  obtain ⟨s, hs⟩ := exists_str_of_mem hx
  rw [hs] at h
  exact Config.not_overflows_str s h

/-- Every manifest is written in some text. -/
theorem exists_ofToml (m : Manifest) : ∃ text, ofToml text = .ok m := by
  cases hwrite : write? m.entries with
  | none =>
    rw [write?_eq_none_iff m.isDocument_entries] at hwrite
    simp only [entries, List.exists_mem_cons_iff, List.not_mem_nil, false_and, exists_false,
      or_false, overflows_list_iff, List.mem_map, exists_exists_and_eq_and] at hwrite
    obtain ⟨e, -, h⟩ := hwrite
    exact absurd h (not_overflows_entity e)
  | some text =>
    refine ⟨text, ?_⟩
    rw [ofToml, read?_of_write? m.isDocument_entries hwrite,
      List.perm_singleton.mp (perm_parts m.entries)]
    exact m.ofData_entries

end EntityProps.Manifest
