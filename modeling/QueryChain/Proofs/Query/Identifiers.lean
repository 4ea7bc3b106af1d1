import QueryChain.Proofs.Query.Scope
import QueryChain.Proofs.Query.Materialization
import QueryChain.Proofs.Schema.Mapping
import QueryChain.Proofs.Sql.Identifier

namespace QueryChain

open Schema

/-! Names of tables and columns in statements, as a server reads them.

The tables and columns of a statement are those of descriptors, and a descriptor takes its
names from a mapping.  None of the places that write a name looks at it: the name is read back
exactly if it holds no closing bracket.
-/

/-- What a server reads where a statement names a table or a column of a descriptor. -/
structure Schema.Descriptor.Delimits (descriptor : Descriptor) (mapping : Mapping) : Prop where
  table : ∀ rest, Sql.readIdentifier? (descriptor.source.text.toList ++ rest) =
      some (mapping.table.toList, ' ' :: (descriptor.qualifier.toList ++ rest)) ↔
    ']' ∉ mapping.table.toList
  columns : descriptor.references = mapping.columns.map descriptor.reference
  column : ∀ column ∈ mapping.columns, ∀ rest : List Char, rest.head? ≠ some ']' →
    (Sql.readReference? ((descriptor.reference column).text.toList ++ rest) =
        some (descriptor.qualifier.toList, column.name.toList, rest) ↔
      ']' ∉ column.name.toList)
  different : ∀ column ∈ mapping.columns, ∀ other ∈ mapping.columns,
    column.name ≠ other.name →
    (descriptor.reference column).text ≠ (descriptor.reference other).text

/-- A descriptor of one of some entities, with the names of its mapping. -/
def Schema.Descriptor.Maps (catalog : Catalog) (entities : List Entity) (descriptor : Descriptor) :
    Prop :=
  ∃ entity ∈ entities, ∃ mapping,
    catalog.find? entity = some mapping ∧ descriptor.Delimits mapping

namespace Schema.Registry

variable {catalog : Catalog} {registry after : Registry} {entity : Entity} {descriptor : Descriptor}

/-- An alias is a word of letters, so that it ends where a period follows. -/
theorem Numbered.qualifier_regular (numbered : registry.Numbered)
    (found : registry.find? entity = some descriptor) : '.' ∉ descriptor.qualifier.toList := by
  obtain ⟨rank, held⟩ := List.mem_iff_getElem?.mp (Dictionary.mem_of_get? found)
  rw [numbered.qualifier_eq held]
  intro period
  have lower := (isWord_word (freeIndex rank)).lower '.' period
  exact absurd lower.1 (by decide)

theorem Reachable.delimits (reachable : Reachable catalog registry)
    (resolved : (registry.resolve entity).1 = .ok descriptor) :
    ∃ mapping, catalog.find? entity = some mapping ∧ descriptor.Delimits mapping := by
  obtain ⟨mapping, found, mapped⟩ := reachable.resolve_toTable resolved
  obtain ⟨_, _, _, key, _, described⟩ := Mapping.toTable_eq_ok.mp mapped
  have regular := (reachable.resolve entity).numbered.qualifier_regular (resolve_ok resolved)
  have name : descriptor.source.table = mapping.table := congrArg Table.name described
  refine ⟨mapping, found, ?_, ?_, ?_, ?_⟩
  · intro rest
    have read := descriptor.source.read_iff rest
    rwa [name] at read
  · rw [Descriptor.references, described]
  · intro column _ rest follows
    exact Sql.Reference.read_iff regular follows
  · intro column _ other _ different same
    exact different (Sql.Reference.name_eq_of_text_eq same)

/-- A statement names the tables and columns of descriptors only. -/
theorem Reachable.named (reachable : Reachable catalog registry) {settings : Settings}
    {query : Query} {compiled : Compiled}
    (compiles : registry.compile settings query = (.ok compiled, after)) :
    ∃ descriptors : List Descriptor,
      query.tables.map after.find? = descriptors.map some ∧ compiled.Scoped descriptors := by
  obtain ⟨plan, walkable, planned, rfl, names⟩ := reachable.compiled_planned compiles
  have following := reachable.compile settings query
  rw [compiles] at following
  obtain ⟨descriptors, held⟩ := exists_map_some names.held
  have inScope := planned.plan_scoped walkable.acceptable
  exact ⟨descriptors, held,
    inScope.written names.faithful following.numbered walkable.acceptable.distinct held⟩

/-- The name of a table or a column is read back from every place of a statement that names it,
exactly if it holds no closing bracket. -/
theorem Reachable.name_read_iff (reachable : Reachable catalog registry) :
    (∀ entity descriptor, (registry.resolve entity).1 = .ok descriptor →
      ∃ mapping, catalog.find? entity = some mapping ∧ descriptor.Delimits mapping) ∧
    ∀ settings query compiled after, registry.compile settings query = (.ok compiled, after) →
      (∀ source ∈ compiled.statement.sources, ∃ descriptor : Descriptor,
        descriptor.Maps catalog query.tables ∧ source = descriptor.source) ∧
      ∀ reference, reference ∈ compiled.statement.references ∨
          .reference reference ∈ compiled.statement.predicate →
        ∃ descriptor : Descriptor,
          descriptor.Maps catalog query.tables ∧ reference ∈ descriptor.references := by
  refine ⟨fun _ _ resolved => reachable.delimits resolved, ?_⟩
  intro settings query compiled after compiles
  obtain ⟨descriptors, held, inScope⟩ := reachable.named compiles
  have following := reachable.compile settings query
  rw [compiles] at following
  have maps : ∀ descriptor ∈ descriptors, descriptor.Maps catalog query.tables := by
    intro descriptor member
    have listed : some descriptor ∈ query.tables.map after.find? := by
      rw [held]
      exact List.mem_map_of_mem member
    obtain ⟨entity, table, found⟩ := List.mem_map.mp listed
    have resolved : (after.resolve entity).1 = .ok descriptor := by
      rw [Registry.resolve, found]
    exact ⟨entity, table, following.delimits resolved⟩
  refine ⟨?_, ?_⟩
  · intro source member
    rw [Sql.Statement.sources, inScope.sources] at member
    obtain ⟨descriptor, listed, rfl⟩ := List.mem_map.mp member
    exact ⟨descriptor, maps descriptor listed, rfl⟩
  · intro reference member
    have known : reference ∈ descriptors.flatMap Descriptor.references := by
      rcases member with outside | inside
      · exact inScope.references reference outside
      · exact inScope.predicate _ inside
    obtain ⟨descriptor, listed, refers⟩ := List.mem_flatMap.mp known
    exact ⟨descriptor, maps descriptor listed, refers⟩

end Schema.Registry

namespace Sample

theorem query_names : Registry.Reachable catalog (.ofCatalog catalog) ∧ ∃ compiled after,
    (Registry.ofCatalog catalog).compile {} query = (.ok compiled, after) ∧
      ∀ source ∈ compiled.statement.sources, ∃ descriptor : Descriptor,
        descriptor.Maps catalog query.tables ∧ source = descriptor.source := by
  obtain ⟨compiled, after, compiles⟩ := query_compiles
  have names := Registry.Reachable.name_read_iff (@Registry.Reachable.ofCatalog catalog)
  exact ⟨.ofCatalog, compiled, after, compiles, (names.2 {} query compiled after compiles).1⟩

/-- Players in a table whose name holds a closing bracket. -/
def spilling : Catalog := ⟨[(players, (Mapping.onto "Pl]ayer").withKey "Id" .integer)]⟩

/-- The name ends at its own bracket, and what is left of it spills into the statement. -/
theorem table_spilled : ∃ descriptor,
    ((Registry.ofCatalog spilling).resolve players).1 = .ok descriptor ∧
      descriptor.table.name = "Pl]ayer" ∧
      ∀ rest, Sql.readIdentifier? (descriptor.source.text.toList ++ rest) =
        some ("Pl".toList, "ayer] ".toList ++ (descriptor.qualifier.toList ++ rest)) := by
  obtain ⟨descriptor, resolved, name⟩ : ∃ descriptor,
      ((Registry.ofCatalog spilling).resolve players).1 = .ok descriptor ∧
        descriptor.table.name = "Pl]ayer" := ⟨_, rfl, rfl⟩
  refine ⟨descriptor, resolved, name, ?_⟩
  intro rest
  have text : descriptor.source.text.toList ++ rest =
      '[' :: ("Pl".toList ++
        ']' :: ("ayer] ".toList ++ (descriptor.qualifier.toList ++ rest))) := by
    simp [Descriptor.source, name, Sql.Source.text, Sql.bracketed, String.toList_append]
  rw [text, Sql.readIdentifier?, Sql.readName?_iff (by simp)]
  decide

end Sample

end QueryChain
