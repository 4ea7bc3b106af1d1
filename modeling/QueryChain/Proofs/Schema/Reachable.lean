import QueryChain.Compile
import QueryChain.Proofs.Plan.Columns

namespace QueryChain.Schema

/-! Registries in use, and what every one of them keeps.

A registry starts empty over a catalog, and each call resolves an entity or
compiles a query.  Its descriptors stay what they are and agree with the catalog.
-/

inductive Registry.Reachable (catalog : Catalog) : Registry → Prop where
  | ofCatalog : Reachable catalog (.ofCatalog catalog)
  | resolve {registry : Registry} (entity : Entity) :
      Reachable catalog registry → Reachable catalog (registry.resolve entity).2
  | compileAt {registry : Registry} (settings : Settings) (root : Entity) (query : Query) :
      Reachable catalog registry → Reachable catalog (registry.compileAt settings root query).2

/-- A registry over a catalog whose descriptors hold the tables of the catalog. -/
structure Registry.Faithful (catalog : Catalog) (registry : Registry) : Prop where
  catalog_eq : registry.catalog = catalog
  table_eq : ∀ entity descriptor, registry.find? entity = some descriptor →
    catalog.lookup entity = some descriptor.table

namespace Registry

variable {catalog : Catalog} {registry : Registry} {entity other : Entity} {descriptor : Descriptor}

theorem find?_add (table : Table) :
    (registry.add entity table).2.find? other =
      if entity = other then some (registry.add entity table).1 else registry.find? other :=
  Dictionary.get?_insert ..

theorem resolve_kept (found : registry.find? other = some descriptor) :
    (registry.resolve entity).2.find? other = some descriptor := by
  unfold resolve
  split
  · exact found
  · rename_i absent
    split
    · exact found
    · rw [find?_add]
      split
      · rename_i same
        rw [same, found] at absent
        cases absent
      · exact found

theorem resolve_find? (faithful : registry.Faithful catalog)
    (mapped : (catalog.lookup entity).isSome) :
    ∃ descriptor, (registry.resolve entity).2.find? entity = some descriptor := by
  obtain ⟨table, held⟩ := Option.isSome_iff_exists.mp mapped
  rw [Catalog.lookup_eq_some, ← faithful.catalog_eq] at held
  unfold resolve
  split
  · rename_i descriptor found
    exact ⟨descriptor, found⟩
  · simp only [held]
    exact ⟨_, by rw [find?_add, if_pos rfl]⟩

theorem resolve_faithful (faithful : registry.Faithful catalog) (entity : Entity) :
    (registry.resolve entity).2.Faithful catalog := by
  unfold resolve
  split
  · exact faithful
  · split
    · exact faithful
    · rename_i table held
      refine ⟨faithful.catalog_eq, ?_⟩
      intro other descriptor found
      rw [find?_add] at found
      split at found
      · rename_i same
        cases found
        rw [← same, Catalog.lookup_eq_some, ← faithful.catalog_eq]
        exact held
      · exact faithful.table_eq other descriptor found

theorem resolveAll_faithful (faithful : registry.Faithful catalog) (entities : List Entity) :
    (registry.resolveAll entities).Faithful catalog := by
  induction entities generalizing registry with
  | nil => exact faithful
  | cons entity rest ih => exact ih (resolve_faithful faithful entity)

theorem resolveAll_kept (entities : List Entity) (found : registry.find? other = some descriptor) :
    (registry.resolveAll entities).find? other = some descriptor := by
  induction entities generalizing registry with
  | nil => exact found
  | cons entity rest ih => exact ih (resolve_kept found)

theorem resolveAll_find? {entities : List Entity} (faithful : registry.Faithful catalog)
    (member : entity ∈ entities) (mapped : (catalog.lookup entity).isSome) :
    ∃ descriptor, (registry.resolveAll entities).find? entity = some descriptor := by
  induction entities generalizing registry with
  | nil => cases member
  | cons first rest ih =>
      rcases List.mem_cons.mp member with rfl | later
      · obtain ⟨descriptor, found⟩ := resolve_find? faithful mapped
        exact ⟨descriptor, resolveAll_kept rest found⟩
      · exact ih (resolve_faithful faithful first) later

/-- A registry that holds some entities agrees with its catalog on them. -/
theorem Faithful.lookup_within (faithful : registry.Faithful catalog) {entities : List Entity}
    (held : ∀ entity ∈ entities, ∃ descriptor, registry.find? entity = some descriptor) :
    registry.lookup.within entities = catalog.lookup.within entities := by
  funext entity
  unfold Lookup.within
  split
  · rename_i member
    obtain ⟨descriptor, found⟩ := held entity member
    rw [Registry.lookup, found, faithful.table_eq entity descriptor found]
    rfl
  · rfl

theorem Reachable.compile (reachable : Reachable catalog registry) (settings : Settings)
    (query : Query) : Reachable catalog (registry.compile settings query).2 :=
  reachable.compileAt settings query.source query

theorem Reachable.faithful (reachable : Reachable catalog registry) :
    registry.Faithful catalog := by
  induction reachable with
  | ofCatalog => exact ⟨rfl, by intro entity descriptor found; cases found⟩
  | resolve entity _ ih => exact resolve_faithful ih entity
  | compileAt settings root query _ ih => exact resolveAll_faithful ih _

end Registry

end QueryChain.Schema
