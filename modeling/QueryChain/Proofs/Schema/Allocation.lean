import QueryChain.Proofs.Dictionary
import QueryChain.Proofs.Schema.Reachable
import QueryChain.Proofs.Schema.Word

namespace QueryChain

/-! Which alias an entity gets, over whole runs of a registry.

The aliases of a registry are the free words in order, one for each entity that it
holds.  A call keeps this, whether it resolves an entity or fails, and so does a run.
-/

namespace Schema.Registry

variable {catalog : Catalog} {registry : Registry} {entity other : Entity}
  {descriptor another : Descriptor}

/-- The calls of a run with what they return. -/
def answers (registry : Registry) :
    List Entity → List (Entity × Except ConfigurationError Descriptor)
  | [] => []
  | entity :: rest => (entity, (registry.resolve entity).1) ::
      (registry.resolve entity).2.answers rest

/-- The entities that the calls of a run resolved, one for each call. -/
def successes (registry : Registry) (calls : List Entity) : List Entity :=
  (registry.answers calls).filterMap fun (entity, outcome) => outcome.toOption.map fun _ => entity

/-- The entities that a run resolved, in the order of their first success. -/
def served (registry : Registry) (calls : List Entity) : List Entity :=
  (registry.successes calls).eraseDups

/-- What a run comes to: an alias for each entity that it resolves, by rank. -/
structure Allocates (start : Registry) (calls : List Entity) : Prop where
  ranks : ∀ rank entity, (start.served calls)[rank]? = some entity → ∃ descriptor,
    HasRank rank descriptor.qualifier ∧
      (start.resolveAll calls).find? entity = some descriptor ∧
      ∀ outcome, (entity, outcome) ∈ start.answers calls → outcome = .ok descriptor
  separate : ∀ entity other descriptor another,
    (entity, .ok descriptor) ∈ start.answers calls →
    (other, .ok another) ∈ start.answers calls → descriptor.qualifier = another.qualifier →
      entity = other
  failures : ∀ earlier entity later cause, calls = earlier ++ entity :: later →
    ((start.resolveAll earlier).resolve entity).1 = .error cause →
      start.catalog.table entity = .error cause ∧
        start.resolveAll (earlier ++ [entity]) = start.resolveAll earlier
  size : (start.resolveAll calls).size = (start.served calls).length

/-- The aliases of a registry are the free words in order. -/
structure Numbered (registry : Registry) : Prop where
  distinct : (registry.descriptors.map Prod.fst).Nodup
  aliases : registry.descriptors.map (fun entry => entry.2.qualifier) =
    (List.range registry.size).map freeWord
  next : nextFree registry.nextAlias = freeIndex registry.size

/-- A call finds what is held, fails without a trace, or adds a table. -/
theorem resolve_cases (registry : Registry) (entity : Entity) :
    (∃ descriptor, registry.find? entity = some descriptor ∧
      registry.resolve entity = (.ok descriptor, registry)) ∨
    (∃ cause, registry.find? entity = none ∧ registry.catalog.table entity = .error cause ∧
      registry.resolve entity = (.error cause, registry)) ∨
    (∃ table, registry.find? entity = none ∧ registry.catalog.table entity = .ok table ∧
      registry.resolve entity =
        (.ok (registry.add entity table).1, (registry.add entity table).2)) := by
  unfold resolve
  cases held : registry.find? entity with
  | some descriptor => exact .inl ⟨descriptor, rfl, rfl⟩
  | none =>
      cases mapped : registry.catalog.table entity with
      | error cause => exact .inr (.inl ⟨cause, rfl, rfl, rfl⟩)
      | ok table => exact .inr (.inr ⟨table, rfl, rfl, rfl⟩)

theorem resolve_catalog : (registry.resolve entity).2.catalog = registry.catalog := by
  obtain ⟨_, _, call⟩ | ⟨_, _, _, call⟩ | ⟨_, _, _, call⟩ :=
    registry.resolve_cases entity <;>
    rw [call]
  rfl

theorem resolve_ok (resolved : (registry.resolve entity).1 = .ok descriptor) :
    (registry.resolve entity).2.find? entity = some descriptor := by
  obtain ⟨_, held, call⟩ | ⟨_, _, _, call⟩ | ⟨table, _, _, call⟩ :=
    registry.resolve_cases entity <;>
    rw [call] at resolved ⊢ <;> cases resolved
  · exact held
  · rw [find?_add, if_pos rfl]

theorem resolve_error {cause : ConfigurationError}
    (failed : (registry.resolve entity).1 = .error cause) :
    registry.catalog.table entity = .error cause ∧ (registry.resolve entity).2 = registry := by
  obtain ⟨_, _, call⟩ | ⟨_, _, mapped, call⟩ | ⟨_, _, _, call⟩ :=
    registry.resolve_cases entity <;>
    rw [call] at failed ⊢ <;> cases failed
  exact ⟨mapped, rfl⟩

/-- A table that is added comes last, under the next free word. -/
theorem add_descriptors (absent : registry.find? entity = none) (table : Table) :
    (registry.add entity table).2.descriptors =
      registry.descriptors ++ [(entity, ⟨table, word (nextFree registry.nextAlias)⟩)] :=
  Dictionary.insert_of_absent (Dictionary.get?_eq_none.mp absent)

theorem add_size (absent : registry.find? entity = none) (table : Table) :
    (registry.add entity table).2.size = registry.size + 1 := by
  simp [size, add_descriptors absent]

theorem ofCatalog_numbered (catalog : Catalog) : (ofCatalog catalog).Numbered :=
  ⟨List.nodup_nil, rfl, rfl⟩

theorem Numbered.add (numbered : registry.Numbered) (absent : registry.find? entity = none)
    (table : Table) : (registry.add entity table).2.Numbered := by
  have unused : entity ∉ registry.descriptors.map Prod.fst := Dictionary.get?_eq_none.mp absent
  refine ⟨?_, ?_, ?_⟩
  · rw [add_descriptors absent, List.map_append, List.nodup_append]
    refine ⟨numbered.distinct, by simp, ?_⟩
    intro name member added new same
    cases List.mem_singleton.mp new
    cases same
    exact unused member
  · rw [add_size absent, add_descriptors absent, List.map_append, numbered.aliases,
      List.range_succ, List.map_append]
    simp [freeWord, numbered.next]
  · rw [add_size absent, freeIndex, ← numbered.next]
    rfl

theorem Numbered.resolve (numbered : registry.Numbered) (entity : Entity) :
    (registry.resolve entity).2.Numbered := by
  obtain ⟨_, _, call⟩ | ⟨_, _, _, call⟩ | ⟨table, absent, _, call⟩ :=
    registry.resolve_cases entity
  · rw [call]
    exact numbered
  · rw [call]
    exact numbered
  · rw [call]
    exact numbered.add absent table

theorem Numbered.resolveAll (numbered : registry.Numbered) (calls : List Entity) :
    (registry.resolveAll calls).Numbered := by
  induction calls generalizing registry with
  | nil => exact numbered
  | cons entity rest ih => exact ih (numbered.resolve entity)

theorem Reachable.numbered (reachable : Reachable catalog registry) : registry.Numbered := by
  induction reachable with
  | ofCatalog => exact ofCatalog_numbered catalog
  | resolve entity _ ih => exact ih.resolve entity
  | compileAt settings root query _ ih => exact ih.resolveAll _

theorem Numbered.qualifier_eq (numbered : registry.Numbered) {rank : Nat}
    (held : registry.descriptors[rank]? = some (entity, descriptor)) :
    descriptor.qualifier = freeWord rank := by
  have aliases := congrArg (·[rank]?) numbered.aliases
  have bounded : rank < registry.size := (List.getElem?_eq_some_iff.mp held).1
  simpa [held, bounded] using aliases

/-- Entities under one alias are one entity. -/
theorem Numbered.eq_of_qualifier_eq (numbered : registry.Numbered)
    (found : registry.find? entity = some descriptor)
    (foundToo : registry.find? other = some another)
    (same : descriptor.qualifier = another.qualifier) : entity = other := by
  obtain ⟨rank, held⟩ := List.mem_iff_getElem?.mp (Dictionary.mem_of_get? found)
  obtain ⟨rankToo, heldToo⟩ := List.mem_iff_getElem?.mp (Dictionary.mem_of_get? foundToo)
  rw [numbered.qualifier_eq held, numbered.qualifier_eq heldToo] at same
  cases freeWord_injective same
  cases held.symm.trans heldToo
  rfl

theorem answers_ok {calls : List Entity}
    (answered : (entity, .ok descriptor) ∈ registry.answers calls) :
    (registry.resolveAll calls).find? entity = some descriptor := by
  induction calls generalizing registry with
  | nil => cases answered
  | cons first rest ih =>
      rcases List.mem_cons.mp answered with now | later
      · obtain ⟨rfl, resolved⟩ := Prod.mk.inj now
        exact resolveAll_kept rest (resolve_ok resolved.symm)
      · exact ih later

theorem answers_error {calls : List Entity} {cause : ConfigurationError}
    (answered : (entity, .error cause) ∈ registry.answers calls) :
    registry.catalog.table entity = .error cause := by
  induction calls generalizing registry with
  | nil => cases answered
  | cons first rest ih =>
      rcases List.mem_cons.mp answered with now | later
      · obtain ⟨rfl, failed⟩ := Prod.mk.inj now
        exact (resolve_error failed.symm).1
      · rw [← ih later, resolve_catalog]

theorem eraseDups_of_nodup {items : List Entity} (distinct : items.Nodup) :
    items.eraseDups = items := by
  induction items with
  | nil => rfl
  | cons item rest ih =>
      obtain ⟨absent, distinct⟩ := List.nodup_cons.mp distinct
      have kept : rest.filter (fun other => !other == item) = rest := by
        apply List.filter_eq_self.mpr
        intro other member
        have different : other ≠ item := fun same => absent (same ▸ member)
        simpa using different
      rw [List.eraseDups_cons, kept, ih distinct]

/-- A call for what is held already serves no further entity. -/
theorem eraseDups_append_cons {known : List Entity} (member : entity ∈ known)
    (later : List Entity) : (known ++ entity :: later).eraseDups = (known ++ later).eraseDups := by
  simp [List.eraseDups_append, List.removeAll, member]

theorem resolveAll_entities (numbered : registry.Numbered) (calls : List Entity) :
    (registry.resolveAll calls).descriptors.map Prod.fst =
      (registry.descriptors.map Prod.fst ++ registry.successes calls).eraseDups := by
  induction calls generalizing registry with
  | nil =>
      rw [successes, answers, List.filterMap_nil, List.append_nil,
        eraseDups_of_nodup numbered.distinct]
      rfl
  | cons entity rest ih =>
      have run : registry.resolveAll (entity :: rest) =
          (registry.resolve entity).2.resolveAll rest :=
        rfl
      have following : registry.successes (entity :: rest) =
          ((registry.resolve entity).1.toOption.map fun _ => entity).toList ++
            (registry.resolve entity).2.successes rest := by
        simp only [successes, answers, List.filterMap_cons]
        cases (registry.resolve entity).1 <;> rfl
      rw [run, ih (numbered.resolve entity), following]
      rcases registry.resolve_cases entity with
        ⟨descriptor, held, call⟩ | ⟨cause, _, _, call⟩ | ⟨table, absent, _, call⟩
      · have member : entity ∈ registry.descriptors.map Prod.fst :=
          List.mem_map_of_mem (Dictionary.mem_of_get? held)
        rw [call]
        exact (eraseDups_append_cons member _).symm
      · rw [call]
        rfl
      · rw [call, add_descriptors absent]
        simp [Except.toOption]

/-- On a fresh registry, the entities that resolve take the free words by rank, in the
order of their first success, and keep them. -/
theorem ofCatalog_allocates (catalog : Catalog) (calls : List Entity) :
    (ofCatalog catalog).Allocates calls := by
  have numbered := (ofCatalog_numbered catalog).resolveAll calls
  have faithful : ((ofCatalog catalog).resolveAll calls).Faithful catalog :=
    resolveAll_faithful Reachable.ofCatalog.faithful calls
  have entities : ((ofCatalog catalog).resolveAll calls).descriptors.map Prod.fst =
      (ofCatalog catalog).served calls :=
    resolveAll_entities (ofCatalog_numbered catalog) calls
  refine ⟨?_, ?_, ?_, ?_⟩
  · intro rank entity served
    rw [← entities, List.getElem?_map, Option.map_eq_some_iff] at served
    obtain ⟨⟨_, descriptor⟩, held, rfl⟩ := served
    have found := Dictionary.get?_of_mem numbered.distinct (List.mem_of_getElem? held)
    refine ⟨descriptor, ?_, found, ?_⟩
    · rw [numbered.qualifier_eq held]
      exact freeWord_hasRank rank
    · intro outcome answered
      cases outcome with
      | ok other =>
          cases found.symm.trans (answers_ok answered)
          rfl
      | error cause =>
          have mapped := Catalog.lookup_eq_some.mp (faithful.table_eq _ _ found)
          cases mapped.symm.trans (answers_error answered)
  · intro entity other descriptor another answered answeredToo same
    exact numbered.eq_of_qualifier_eq (answers_ok answered) (answers_ok answeredToo) same
  · intro earlier entity later cause _ failed
    obtain ⟨unmapped, unchanged⟩ := resolve_error failed
    rw [(resolveAll_faithful Reachable.ofCatalog.faithful earlier).catalog_eq] at unmapped
    refine ⟨unmapped, ?_⟩
    rw [Registry.resolveAll, List.foldl_append]
    exact unchanged
  · rw [← entities, List.length_map]
    rfl

/-- An entity that a call adds to a registry. -/
def Materialized (before after : Registry) (entity : Entity) : Prop :=
  before.find? entity = none ∧ ∃ descriptor, after.find? entity = some descriptor

/-- The entities of a list that a registry does not hold. -/
def unheld (registry : Registry) (entities : List Entity) : List Entity :=
  entities.filter fun entity => (registry.find? entity).isNone

variable {entities : List Entity}

theorem resolveAll_materialized
    (added : Materialized registry (registry.resolveAll entities) entity) :
    entity ∈ entities := by
  induction entities generalizing registry with
  | nil =>
      obtain ⟨absent, _, found⟩ := added
      cases absent.symm.trans found
  | cons first rest ih =>
      obtain ⟨absent, held⟩ := added
      have run : registry.resolveAll (first :: rest) = (registry.resolve first).2.resolveAll rest :=
        rfl
      rw [run] at held
      by_cases same : entity = first
      · exact same ▸ List.mem_cons_self
      · refine List.mem_cons_of_mem _ (ih ⟨?_, held⟩)
        obtain ⟨_, _, call⟩ | ⟨_, _, _, call⟩ | ⟨table, _, _, call⟩ :=
          registry.resolve_cases first <;> rw [call]
        · exact absent
        · exact absent
        · rwa [find?_add, if_neg (Ne.symm same)]

/-- Mapped entities are added behind those that are held, in their order. -/
theorem resolveAll_keys (faithful : registry.Faithful catalog) (distinct : entities.Nodup)
    (mapped : ∀ entity ∈ entities, (catalog.lookup entity).isSome) :
    (registry.resolveAll entities).descriptors.map Prod.fst =
      registry.descriptors.map Prod.fst ++ registry.unheld entities := by
  induction entities generalizing registry with
  | nil => exact (List.append_nil _).symm
  | cons first rest ih =>
      obtain ⟨fresh, distinct⟩ := List.nodup_cons.mp distinct
      obtain ⟨known, mapped⟩ := List.forall_mem_cons.mp mapped
      have run : registry.resolveAll (first :: rest) = (registry.resolve first).2.resolveAll rest :=
        rfl
      rw [run, ih (resolve_faithful faithful first) distinct mapped]
      obtain ⟨_, held, call⟩ | ⟨_, _, unmapped, call⟩ | ⟨table, absent, _, call⟩ :=
        registry.resolve_cases first
      · rw [call]
        simp [unheld, held]
      · obtain ⟨table, held⟩ := Option.isSome_iff_exists.mp known
        rw [Catalog.lookup_eq_some, ← faithful.catalog_eq, unmapped] at held
        cases held
      · have others : (registry.add first table).2.unheld rest = registry.unheld rest := by
          refine List.filter_congr ?_
          intro other member
          have different : first ≠ other := fun same => fresh (same ▸ member)
          rw [find?_add, if_neg different]
        have added : registry.unheld (first :: rest) = first :: registry.unheld rest := by
          simp [unheld, absent]
        rw [call, others, added, add_descriptors absent]
        simp

/-- An entity at a position has the free word of that rank. -/
theorem Numbered.ranked (numbered : registry.Numbered) {rank : Nat}
    (held : (registry.descriptors.map Prod.fst)[rank]? = some entity) :
    ∃ descriptor, registry.find? entity = some descriptor ∧
      HasRank rank descriptor.qualifier := by
  rw [List.getElem?_map, Option.map_eq_some_iff] at held
  obtain ⟨⟨_, descriptor⟩, held, rfl⟩ := held
  refine ⟨descriptor, Dictionary.get?_of_mem numbered.distinct (List.mem_of_getElem? held), ?_⟩
  rw [numbered.qualifier_eq held]
  exact freeWord_hasRank rank

/-- The ranks below the size are those of the entities that are held. -/
theorem Numbered.taken (numbered : registry.Numbered) (rank : Nat) :
    rank < registry.size ↔ ∃ entity descriptor,
      registry.find? entity = some descriptor ∧ HasRank rank descriptor.qualifier := by
  refine ⟨?_, ?_⟩
  · intro bounded
    obtain ⟨entity, held⟩ :
        ∃ entity, (registry.descriptors.map Prod.fst)[rank]? = some entity :=
      ⟨_, List.getElem?_eq_getElem (by simpa [size] using bounded)⟩
    exact ⟨entity, numbered.ranked held⟩
  · intro specified
    obtain ⟨entity, descriptor, found, ranked⟩ := specified
    obtain ⟨position, held⟩ := List.mem_iff_getElem?.mp (Dictionary.mem_of_get? found)
    rw [numbered.qualifier_eq held] at ranked
    rw [ranked.unique (freeWord_hasRank position)]
    exact (List.getElem?_eq_some_iff.mp held).1

theorem materialized_iff (faithful : registry.Faithful catalog)
    (mapped : ∀ entity ∈ entities, (catalog.lookup entity).isSome) :
    Materialized registry (registry.resolveAll entities) entity ↔
      entity ∈ entities ∧ registry.find? entity = none := by
  refine ⟨fun added => ⟨resolveAll_materialized added, added.1⟩, ?_⟩
  intro specified
  obtain ⟨member, absent⟩ := specified
  exact ⟨absent, resolveAll_find? faithful member (mapped entity member)⟩

/-- Mapped entities take the next free words, in their order. -/
theorem Numbered.resolveAll_ranked (numbered : registry.Numbered)
    (faithful : registry.Faithful catalog) (distinct : entities.Nodup)
    (mapped : ∀ entity ∈ entities, (catalog.lookup entity).isSome) {rank : Nat}
    (added : (registry.unheld entities)[rank]? = some entity) :
    ∃ descriptor, (registry.resolveAll entities).find? entity = some descriptor ∧
      HasRank (registry.size + rank) descriptor.qualifier := by
  apply (numbered.resolveAll entities).ranked
  have keys : (registry.descriptors.map Prod.fst).length = registry.size := List.length_map _
  rw [resolveAll_keys faithful distinct mapped, ← keys,
    List.getElem?_append_right (Nat.le_add_right ..), Nat.add_sub_cancel_left]
  exact added

theorem unheld_of_isEmpty (empty : registry.isEmpty) (entities : List Entity) :
    registry.unheld entities = entities := by
  have none : ∀ entity, registry.find? entity = none := by
    intro entity
    rw [Registry.find?, List.isEmpty_iff.mp empty]
    rfl
  simp [unheld, none]

end Schema.Registry

end QueryChain
