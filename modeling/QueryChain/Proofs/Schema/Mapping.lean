import QueryChain.Proofs.Schema.Allocation

namespace QueryChain.Schema

/-! Which mappings describe a table, and which table that is.  A resolved entity has the table
of its mapping. -/

variable {entity : Entity} {mapping : Mapping} {table : Table}

/-- Nothing is repeated where the texts differ from those seen before and from each other. -/
theorem firstRepeated?_eq_none {seen texts : List String} :
    firstRepeated? seen texts = none ↔ (∀ text ∈ texts, text ∉ seen) ∧ texts.Nodup := by
  induction texts generalizing seen with
  | nil => simp [firstRepeated?]
  | cons text rest ih =>
      by_cases repeated : text ∈ seen
      · simp [firstRepeated?, repeated]
      · rw [firstRepeated?, if_neg repeated, ih]
        grind

theorem Mapping.toTable_eq_ok :
    mapping.toTable entity = .ok table ↔
      mapping.table ≠ "" ∧ mapping.columns ≠ [] ∧
        (mapping.columns.map Column.property).Nodup ∧
        ∃ key, mapping.key = some key ∧ table = ⟨mapping.table, key, mapping.columns⟩ := by
  have distinct := @firstRepeated?_eq_none [] (mapping.columns.map Column.property)
  unfold toTable
  by_cases named : mapping.table = ""
  · simp [named]
  by_cases columns : mapping.columns = []
  · simp [named, columns]
  cases keyed : mapping.key with
  | none => simp [named, columns]
  | some key =>
      cases repeated : firstRepeated? [] (mapping.columns.map Column.property) with
      | some property =>
          have twice : ¬(mapping.columns.map Column.property).Nodup := by
            intro once
            simp [distinct.mpr ⟨by simp, once⟩] at repeated
          simp [named, columns, twice]
      | none =>
          have once := (distinct.mp repeated).2
          simp only [named, columns, once, ne_eq, not_false_eq_true, true_and]
          simp [named, columns]
          exact eq_comm

theorem Catalog.table_eq_ok {catalog : Catalog} :
    catalog.table entity = .ok table ↔
      ∃ mapping, catalog.find? entity = some mapping ∧ mapping.toTable entity = .ok table := by
  unfold Catalog.table
  cases catalog.find? entity <;> simp

theorem Registry.Reachable.resolve_toTable {catalog : Catalog} {registry : Registry}
    {descriptor : Descriptor} (reachable : Reachable catalog registry)
    (resolved : (registry.resolve entity).1 = .ok descriptor) :
    ∃ mapping, catalog.find? entity = some mapping ∧
      mapping.toTable entity = .ok descriptor.table := by
  have held := (reachable.resolve entity).faithful.table_eq _ _ (resolve_ok resolved)
  exact Catalog.table_eq_ok.mp (Catalog.lookup_eq_some.mp held)

end QueryChain.Schema
