import QueryChain.Proofs.Query.Clauses
import QueryChain.Proofs.Query.Placeholders
import QueryChain.Proofs.Schema.Allocation
import QueryChain.Proofs.Sql.Columns

namespace QueryChain

open Schema

/-! Names in a compiled query.

Every column of a statement belongs to one of its tables and stands under the alias of
that table, and no join looks ahead.  A plan says so of entities; the aliases of a
registry, of which no two are alike, carry it over to the statement.
-/

namespace Schema.Descriptor

def source (descriptor : Descriptor) : Sql.Source :=
  ⟨descriptor.table.name, descriptor.qualifier⟩

/-- The columns of a table under its alias. -/
def references (descriptor : Descriptor) : List Sql.Reference :=
  descriptor.table.columns.map descriptor.reference

end Schema.Descriptor

/-- The tables of a statement are the given ones, and it refers to their columns only. -/
structure Compiled.Scoped (compiled : Compiled) (descriptors : List Descriptor) : Prop where
  sources : compiled.statement.source :: compiled.statement.joins.map Sql.Join.source =
    descriptors.map Descriptor.source
  aliases : (descriptors.map Descriptor.qualifier).Nodup
  references : ∀ reference ∈ compiled.statement.references,
    reference ∈ descriptors.flatMap Descriptor.references
  predicate : Sql.ScopedBy (· ∈ descriptors.flatMap Descriptor.references)
    compiled.statement.predicate
  joins : ∀ (index : Nat) (join : Sql.Join), compiled.statement.joins[index]? = some join →
    join.left ∈ (descriptors.take (index + 1)).flatMap Descriptor.references ∧
      ∃ joined, descriptors[index + 1]? = some joined ∧ join.right ∈ joined.references

/-- A mapped column of one of the given entities. -/
def ColumnRef.Among (lookup : Lookup) (entities : List Entity) (column : ColumnRef) : Prop :=
  column.entity ∈ entities ∧
    ∃ table, lookup column.entity = some table ∧ column.column ∈ table.columns

/-- What is selected belongs to one of the given entities. -/
def Selection.Among (lookup : Lookup) (entities : List Entity) : Selection → Prop
  | .entity table => table.entity ∈ entities ∧ lookup table.entity = some table.table
  | .column found => found.Among lookup entities

def Plan.tables (plan : Plan) : List TableRef := plan.source :: plan.joins.map PlannedJoin.inner

structure Plan.Scoped (lookup : Lookup) (entities : List Entity) (plan : Plan) : Prop where
  tables : plan.tables.map TableRef.entity = entities
  mapped : ∀ table ∈ plan.tables, lookup table.entity = some table.table
  selection : plan.selection.Among lookup entities
  order : ∀ key ∈ plan.order, key.column.Among lookup entities
  conditions : ∀ condition ∈ plan.conditions, ∀ column ∈ condition.columns,
    column.Among lookup entities
  joins : ∀ (index : Nat) (join : PlannedJoin), plan.joins[index]? = some join →
    join.left.Among lookup (entities.take (index + 1)) ∧
      join.right.Among lookup [join.inner.entity]

section Columns

variable {lookup : Lookup} {entities : List Entity}

theorem ColumnRef.among_of_columnIn? {expr : Expr} {found : ColumnRef}
    (resolved : expr.columnIn? (lookup.within entities) = some found) :
    found.Among lookup entities := by
  obtain ⟨resolved, member⟩ := Expr.columnIn?_within.mp resolved
  obtain ⟨property, table, _, held, mapped⟩ := Expr.columnIn?_eq_some.mp resolved
  exact ⟨member, table, held, List.mem_of_find?_eq_some mapped⟩

theorem ColumnRef.Among.mono {column : ColumnRef} {others : List Entity}
    (among : column.Among lookup entities) (within : ∀ entity ∈ entities, entity ∈ others) :
    column.Among lookup others :=
  ⟨within _ among.1, among.2⟩

theorem Selection.Among.columns {selection : Selection} (among : selection.Among lookup entities) :
    ∀ column ∈ selection.columns, column.Among lookup entities := by
  cases selection with
  | entity table =>
      intro found listed
      obtain ⟨column, declared, rfl⟩ := List.mem_map.mp listed
      exact ⟨among.1, table.table, among.2, declared⟩
  | column column => exact List.forall_mem_singleton.mpr among

theorem Expr.term?_columns {scope : ColumnRef → Prop}
    (resolves : ∀ expr found, Expr.columnIn? lookup expr = some found → scope found)
    {expr : Expr}
    {term : Term} (read : expr.term? lookup = some term) :
    ∀ column ∈ term.columns, scope column := by
  cases term with
  | value known =>
      intro column used
      cases used
  | column found =>
      intro column used
      cases List.mem_singleton.mp used
      cases expr <;> simp only [term?, Option.map_eq_some_iff, reduceCtorEq, and_false,
        exists_false] at read
      split at read
      · obtain ⟨_, resolved, same⟩ := Option.map_eq_some_iff.mp read
        cases same
        exact resolves _ _ resolved
      · simp at read

/-- The columns of a predicate are those that its expressions resolve to. -/
theorem Expr.predicate?_columns {scope : ColumnRef → Prop}
    (resolves : ∀ expr found, Expr.columnIn? lookup expr = some found → scope found) :
    (expr : Expr) → {reading : Predicate} → expr.predicate? lookup = some reading →
      ∀ column ∈ reading.columns, scope column
  | .not operand, _, read => by
      simp only [predicate?, Option.bind_eq_bind, Option.bind_eq_some_iff, Option.pure_def,
        Option.some.injEq] at read
      obtain ⟨inner, read, rfl⟩ := read
      have known : ∀ column ∈ inner.columns, scope column :=
        predicate?_columns resolves operand read
      exact known
  | .compare op left right, _, read => by
      simp only [predicate?, Option.bind_eq_bind, Option.bind_eq_some_iff, Option.pure_def,
        Option.some.injEq] at read
      obtain ⟨_, readLeft, _, readRight, rfl⟩ := read
      exact List.forall_mem_append.mpr
        ⟨term?_columns resolves readLeft, term?_columns resolves readRight⟩
  | .connect op left right, _, read => by
      simp only [predicate?, Option.bind_eq_bind, Option.bind_eq_some_iff, Option.pure_def,
        Option.some.injEq] at read
      obtain ⟨_, readLeft, _, readRight, rfl⟩ := read
      exact List.forall_mem_append.mpr
        ⟨predicate?_columns resolves left readLeft, predicate?_columns resolves right readRight⟩
  | .member target name, _, read => by
      simp only [predicate?] at read
      split at read
      · simp only [flag?, Option.bind_eq_bind, Option.bind_eq_some_iff] at read
        obtain ⟨found, resolved, flagged⟩ := read
        split at flagged
        · cases flagged
          exact List.forall_mem_singleton.mpr (resolves _ _ resolved)
        · cases flagged
      · simp [known?_columns read]
  | .constant value, _, read => by simp [known?_columns read]
  | .captured name value, _, read => by simp [known?_columns read]
  | .hasValue operand, _, read => by
      obtain ⟨found, resolved, rfl⟩ := Option.map_eq_some_iff.mp read
      exact List.forall_mem_singleton.mpr (resolves _ _ resolved)
  | .isNullOrEmpty operand, _, read => by
      obtain ⟨found, resolved, rfl⟩ := Option.map_eq_some_iff.mp read
      exact List.forall_mem_singleton.mpr (resolves _ _ resolved)
  | .stringMatch op target value, _, read => by
      simp only [predicate?, Option.bind_eq_bind, Option.bind_eq_some_iff, Option.pure_def,
        Option.some.injEq] at read
      obtain ⟨_, resolved, _, readPattern, rfl⟩ := read
      exact List.forall_mem_cons.mpr ⟨resolves _ _ resolved, term?_columns resolves readPattern⟩
  | .collectionContains collection item, _, read => by
      simp only [predicate?, Option.bind_eq_bind, Option.bind_eq_some_iff, Option.pure_def,
        Option.some.injEq] at read
      obtain ⟨_, resolved, _, _, rfl⟩ := read
      exact List.forall_mem_singleton.mpr (resolves _ _ resolved)
  | .parameter param, _, read => by cases read
  | .array items, _, read => by cases read

theorem Term.operand_columns (stem : String) (bound : Nat) (term : Term) :
    (term.operand stem bound).columns = term.columns := by
  cases term with
  | column found => rfl
  | value known =>
      rw [Term.operand, valueOperand]
      split <;> rfl

theorem valueOperands_columns (stem : String) (bound : Nat) (values : List Json.Value) :
    (valueOperands stem bound values : List (Sql.Operand ColumnRef)).flatMap Sql.Operand.columns =
      [] := by
  induction values generalizing bound with
  | nil => rfl
  | cons value rest ih =>
      have first : (valueOperand stem bound value : Sql.Operand ColumnRef).columns = [] :=
        Term.operand_columns stem bound (.value value)
      rw [valueOperands, List.flatMap_cons, ih, first]
      rfl

theorem Predicate.condition_columns (predicate : Predicate) (stem : String) (negated : Bool)
    (bound : Nat) {column : ColumnRef}
    (used : column ∈ (predicate.condition stem negated bound).columns) :
    column ∈ predicate.columns := by
  induction predicate generalizing negated bound with
  | truth value => cases used
  | compare op left right =>
      simpa [condition, Sql.Condition.columns, Term.operand_columns, columns] using used
  | connect op left right ihLeft ihRight =>
      rcases List.mem_append.mp used with used | used
      · exact List.mem_append_left _ (ihLeft _ _ used)
      · exact List.mem_append_right _ (ihRight _ _ used)
  | not operand ih => exact ih _ _ used
  | flag found => exact used
  | hasValue found => exact used
  | like found op pattern =>
      simpa [condition, Sql.Condition.columns, Term.operand_columns, columns] using used
  | oneOf found values =>
      by_cases empty : values.isEmpty
      · rw [condition, if_pos empty] at used
        cases used
      · rw [condition, if_neg empty, Sql.Condition.columns, valueOperands_columns] at used
        exact used
  | nullOrEmpty found => exact used

theorem conditionsFrom_columns {stem : String} {bound : Nat} {predicates : List Predicate}
    {condition : Sql.Condition ColumnRef}
    (planned : condition ∈ conditionsFrom stem bound predicates)
    {column : ColumnRef} (used : column ∈ condition.columns) :
    ∃ predicate ∈ predicates, column ∈ predicate.columns := by
  induction predicates generalizing bound with
  | nil => cases planned
  | cons predicate rest ih =>
      rcases List.mem_cons.mp planned with rfl | later
      · exact ⟨predicate, List.mem_cons_self, predicate.condition_columns _ _ _ used⟩
      · obtain ⟨other, member, used⟩ := ih later
        exact ⟨other, List.mem_cons_of_mem _ member, used⟩

end Columns

section Plans

variable {catalog : Catalog} {settings : Settings} {query : Query} {plan : Plan}

theorem split_of_filterMap_getElem? {α β : Type} {part : α → Option β}
    {items : List α} {index : Nat}
    {value : β} (found : (items.filterMap part)[index]? = some value) :
    ∃ earlier item later, items = earlier ++ item :: later ∧ part item = some value ∧
      (earlier.filterMap part).length = index := by
  induction items generalizing index with
  | nil => simp at found
  | cons item rest ih =>
      cases asked : part item with
      | none =>
          rw [List.filterMap_cons_none asked] at found
          obtain ⟨earlier, other, later, rfl, parts, counted⟩ := ih found
          exact ⟨item :: earlier, other, later, rfl, parts, by simpa [asked] using counted⟩
      | some first =>
          rw [List.filterMap_cons_some asked] at found
          cases index with
          | zero =>
              cases found
              exact ⟨[], item, rest, rfl, asked, rfl⟩
          | succ index =>
              obtain ⟨earlier, other, later, rfl, parts, counted⟩ := ih found
              exact ⟨item :: earlier, other, later, rfl, parts, by simp [asked, counted]⟩

/-- Each operator that joins a table has its join planned. -/
theorem Query.Acceptable.joined?_eq (acceptable : query.Acceptable catalog settings)
    {operator : Operator} (member : operator ∈ query.operators) :
    operator.joined? =
      (operator.plannedJoin? catalog.lookup).map fun join => join.inner.entity := by
  cases operator with
  | join inner outerKey innerKey =>
      obtain ⟨joined, left, right, outerIs, innerIs⟩ := acceptable.joinKeys member
      obtain ⟨table, held⟩ := acceptable.mapped inner joined
      have planned := Planning.plannedJoin?_eq_some.mpr ⟨table, left, right,
        Catalog.lookup_eq_some.mpr held, (Expr.columnIn?_within.mp outerIs).1,
        (Expr.columnIn?_within.mp innerIs).1, rfl⟩
      rw [planned]
      rfl
  | filter _ | select _ | orderBy _ _ | take _ | skip _ | distinct | first _ _ => rfl

theorem Query.Acceptable.joined_eq (acceptable : query.Acceptable catalog settings)
    {operators : List Operator}
    (within : ∀ operator ∈ operators, operator ∈ query.operators) :
    operators.filterMap Operator.joined? =
      (operators.filterMap (Operator.plannedJoin? catalog.lookup)).map
        fun join => join.inner.entity := by
  rw [List.map_filterMap]
  exact List.filterMap_congr fun operator member => acceptable.joined?_eq (within operator member)

theorem Query.Acceptable.selection_among (acceptable : query.Acceptable catalog settings)
    {selection : Selection} (selected : query.selection? catalog.lookup = some selection) :
    selection.Among catalog.lookup query.tables := by
  unfold Query.selection? at selected
  cases last : query.projectors.getLast? with
  | none =>
      simp only [last, Option.map_eq_some_iff] at selected
      obtain ⟨table, held, rfl⟩ := selected
      exact ⟨by simp [Query.tables], held⟩
  | some projector =>
      rw [last] at selected
      rcases acceptable.projectors projector (List.mem_of_getLast? last) with whole | column
      · obtain ⟨param, body, member⟩ := whole
        simp only [Lambda.selection?, body, Option.map_eq_some_iff] at selected
        obtain ⟨table, held, rfl⟩ := selected
        exact ⟨member, held⟩
      · obtain ⟨found, resolved⟩ := Option.isSome_iff_exists.mp column
        have member : ∀ param, projector.body ≠ .parameter param := by
          intro param body
          rw [body] at resolved
          cases resolved
        simp only [Planning.selection?_column member, (Expr.columnIn?_within.mp resolved).1,
          Option.map_some, Option.some.injEq] at selected
        cases selected
        exact ColumnRef.among_of_columnIn? resolved

theorem Query.Acceptable.reading_among (acceptable : query.Acceptable catalog settings)
    {reading : Predicate} (listed : reading ∈ query.readings catalog.lookup) :
    ∀ column ∈ reading.columns, column.Among catalog.lookup query.tables := by
  obtain ⟨operator, member, reads⟩ := List.mem_filterMap.mp listed
  obtain ⟨predicate, asks, read⟩ := Option.bind_eq_some_iff.mp reads
  obtain ⟨other, within⟩ := Option.isSome_iff_exists.mp
    (List.forall_mem_filterMap.mp acceptable.predicates operator member predicate asks)
  have same := ((Expr.predicate?_within predicate.body).mp within).1
  rw [read, Option.some.injEq] at same
  rw [← same] at within
  exact Expr.predicate?_columns (fun _ _ resolved => ColumnRef.among_of_columnIn? resolved)
    predicate.body within

theorem Query.Planned.plan_scoped (planned : query.Planned catalog.lookup settings plan)
    (acceptable : query.Acceptable catalog settings) : plan.Scoped catalog.lookup query.tables := by
  have joined := acceptable.joined_eq fun _ member => member
  refine {
    tables := ?_
    mapped := List.forall_mem_cons.mpr ⟨?_, List.forall_mem_map.mpr ?_⟩
    selection := acceptable.selection_among planned.selection
    order := ?_
    conditions := ?_
    joins := ?_ }
  · rw [Plan.tables, List.map_cons, planned.source.1, planned.joins,
      List.map_map, Query.tables, joined]
    rfl
  · rw [planned.source.1]
    exact planned.source.2
  · rw [planned.joins]
    intro join listed
    obtain ⟨operator, _, resolved⟩ := List.mem_filterMap.mp listed
    cases operator with
    | join inner outerKey innerKey =>
        obtain ⟨_, _, _, held, _, _, rfl⟩ := Planning.plannedJoin?_eq_some.mp resolved
        exact held
    | filter _ | select _ | orderBy _ _ | take _ | skip _ | distinct | first _ _ => cases resolved
  · rw [planned.order]
    intro key listed
    obtain ⟨operator, member, resolved⟩ := List.mem_filterMap.mp listed
    cases operator with
    | orderBy selector direction =>
        obtain ⟨found, known⟩ := Option.isSome_iff_exists.mp
          (List.forall_mem_filterMap.mp acceptable.keys _ member _ rfl)
        have among := ColumnRef.among_of_columnIn? known
        simp only [Operator.plannedKey?, (Expr.columnIn?_within.mp known).1, Option.map_some,
          Option.some.injEq] at resolved
        cases resolved
        exact among
    | filter _ | select _ | join _ _ _ | take _ | skip _ | distinct | first _ _ => cases resolved
  · rw [planned.conditions]
    intro condition listed column used
    obtain ⟨reading, read, used⟩ := conditionsFrom_columns listed used
    exact acceptable.reading_among read column used
  · rw [planned.joins]
    intro index join found
    obtain ⟨earlier, operator, later, split, resolved, counted⟩ :=
      split_of_filterMap_getElem? found
    cases operator with
    | join inner outerKey innerKey =>
        obtain ⟨outerIs, innerIs⟩ :=
          acceptable.joins earlier inner outerKey innerKey later split
        obtain ⟨left, outerIs⟩ := Option.isSome_iff_exists.mp outerIs
        obtain ⟨right, innerIs⟩ := Option.isSome_iff_exists.mp innerIs
        obtain ⟨_, _, _, _, leftIs, rightIs, rfl⟩ := Planning.plannedJoin?_eq_some.mp resolved
        cases leftIs.symm.trans (Expr.columnIn?_within.mp outerIs).1
        cases rightIs.symm.trans (Expr.columnIn?_within.mp innerIs).1
        have before : query.tables.take (index + 1) =
            query.source :: earlier.filterMap Operator.joined? := by
          have joinedBefore :=
            acceptable.joined_eq fun operator (member : operator ∈ earlier) => by
            simp [split, member]
          have length : (earlier.filterMap Operator.joined?).length = index := by
            rw [joinedBefore, List.length_map, counted]
          rw [Query.tables, split, List.filterMap_append, List.take_succ_cons, ← length,
            List.take_left]
        rw [before]
        exact ⟨ColumnRef.among_of_columnIn? outerIs, ColumnRef.among_of_columnIn? innerIs⟩
    | filter _ | select _ | orderBy _ _ | take _ | skip _ | distinct | first _ _ => cases resolved

end Plans

section Statements

variable {catalog : Catalog} {registry after : Registry} {settings : Settings} {query : Query}
  {plan : Plan} {compiled : Compiled} {entities : List Entity} {descriptors : List Descriptor}

theorem exists_map_some {α β : Type} {f : α → Option β} {items : List α}
    (known : ∀ item ∈ items, ∃ value, f item = some value) :
    ∃ values : List β, items.map f = values.map some := by
  induction items with
  | nil => exact ⟨[], rfl⟩
  | cons item rest ih =>
      obtain ⟨first, following⟩ := List.forall_mem_cons.mp known
      obtain ⟨value, found⟩ := first
      obtain ⟨values, mapped⟩ := ih following
      exact ⟨value :: values, by simp [found, mapped]⟩

/-- What is looked up for each item may stand for the item. -/
theorem map_eq_of_map_some {α β γ : Type} {f : α → Option β}
    {own : α → γ} {of : β → γ}
    {items : List α} {values : List β} (mapped : items.map f = values.map some)
    (agree : ∀ item ∈ items, ∀ value, f item = some value → own item = of value) :
    items.map own = values.map of := by
  induction items generalizing values with
  | nil =>
      cases values with
      | nil => rfl
      | cons value values => cases mapped
  | cons item rest ih =>
      cases values with
      | nil => cases mapped
      | cons value values =>
          obtain ⟨found, following⟩ := List.cons.inj mapped
          obtain ⟨first, others⟩ := List.forall_mem_cons.mp agree
          rw [List.map_cons, List.map_cons, first value found, ih following others]

theorem Schema.Registry.exists_held (held : entities.map registry.find? = descriptors.map some)
    {entity : Entity} (member : entity ∈ entities) :
    ∃ descriptor ∈ descriptors, registry.find? entity = some descriptor := by
  have listed : registry.find? entity ∈ descriptors.map some := by
    rw [← held]
    exact List.mem_map_of_mem member
  obtain ⟨descriptor, known, found⟩ := List.mem_map.mp listed
  exact ⟨descriptor, known, found.symm⟩

/-- A column of some entities refers to one of the tables held for them. -/
theorem ColumnRef.Among.reference_mem {column : ColumnRef}
    (among : column.Among catalog.lookup entities) (faithful : registry.Faithful catalog)
    (held : entities.map registry.find? = descriptors.map some) :
    column.reference registry.aliasOf ∈ descriptors.flatMap Descriptor.references := by
  obtain ⟨member, table, mapped, declared⟩ := among
  obtain ⟨descriptor, known, found⟩ := Registry.exists_held held member
  cases mapped.symm.trans (faithful.table_eq _ _ found)
  have named : descriptor.reference column.column = column.reference registry.aliasOf := by
    simp [Descriptor.reference, ColumnRef.reference, Registry.aliasOf, found]
  exact List.mem_flatMap.mpr ⟨descriptor, known, List.mem_map.mpr ⟨_, declared, named⟩⟩

theorem Plan.Scoped.sources (inScope : plan.Scoped catalog.lookup query.tables)
    (faithful : registry.Faithful catalog)
    (held : query.tables.map registry.find? = descriptors.map some) :
    plan.tables.map (TableRef.source registry.aliasOf) = descriptors.map Descriptor.source := by
  rw [← inScope.tables, List.map_map] at held
  refine map_eq_of_map_some held ?_
  intro table listed descriptor found
  have known : registry.find? table.entity = some descriptor := found
  have same : table.table = descriptor.table :=
    Option.some.inj ((inScope.mapped table listed).symm.trans (faithful.table_eq _ _ known))
  simp [TableRef.source, Descriptor.source, Registry.aliasOf, known, same]

theorem Schema.Registry.Numbered.aliases_nodup (numbered : registry.Numbered)
    (distinct : entities.Nodup) (held : entities.map registry.find? = descriptors.map some) :
    (descriptors.map Descriptor.qualifier).Nodup := by
  have aliases : entities.map registry.aliasOf = descriptors.map Descriptor.qualifier := by
    refine map_eq_of_map_some held ?_
    intro entity _ descriptor found
    simp [Registry.aliasOf, found]
  rw [← aliases]
  apply distinct.map_on
  intro entity member other memberToo same
  obtain ⟨descriptor, _, found⟩ := Registry.exists_held held member
  obtain ⟨another, _, foundToo⟩ := Registry.exists_held held memberToo
  simp only [Registry.aliasOf, found, foundToo] at same
  exact numbered.eq_of_qualifier_eq found foundToo same

theorem Plan.Scoped.written (inScope : plan.Scoped catalog.lookup query.tables)
    (faithful : registry.Faithful catalog) (numbered : registry.Numbered)
    (distinct : query.tables.Nodup)
    (held : query.tables.map registry.find? = descriptors.map some) :
    (plan.compiled registry.aliasOf).Scoped descriptors := by
  have joinedAmong : ∀ join ∈ plan.joins, join.left.Among catalog.lookup query.tables ∧
      join.right.Among catalog.lookup query.tables := by
    intro join listed
    obtain ⟨index, found⟩ := List.mem_iff_getElem?.mp listed
    obtain ⟨left, right⟩ := inScope.joins index join found
    have member : join.inner.entity ∈ query.tables := by
      rw [← inScope.tables]
      exact List.mem_map_of_mem (List.mem_cons_of_mem _ (List.mem_map_of_mem listed))
    exact ⟨left.mono fun _ => List.mem_of_mem_take,
      right.mono (List.forall_mem_singleton.mpr member)⟩
  refine {
    sources := ?_
    aliases := numbered.aliases_nodup distinct held
    references := ?_
    predicate := ?_
    joins := ?_ }
  · rw [← inScope.sources faithful held]
    simp [Plan.compiled, Plan.statement_eq, Plan.tables, PlannedJoin.named, Function.comp_def]
  · intro reference listed
    simp only [Plan.compiled, Plan.statement_eq, Sql.Statement.references, List.mem_append,
      List.mem_flatMap, List.mem_map, List.mem_cons, List.not_mem_nil, or_false] at listed
    rcases listed with (⟨column, listed, rfl⟩ | ⟨_, ⟨join, listed, rfl⟩, rfl | rfl⟩) |
      ⟨_, ⟨key, listed, rfl⟩, rfl⟩
    · exact (inScope.selection.columns column listed).reference_mem faithful held
    · exact (joinedAmong join listed).1.reference_mem faithful held
    · exact (joinedAmong join listed).2.reference_mem faithful held
    · exact (inScope.order key listed).reference_mem faithful held
  · change Sql.ScopedBy _ (plan.statement registry.aliasOf).predicate
    rw [Plan.statement_eq, Sql.conjunctionTokens_map]
    intro token written
    obtain ⟨token, member, rfl⟩ := List.mem_map.mp written
    apply (Sql.Token.map_scopedBy _).mpr
    refine Sql.conjunctionTokens_scopedBy ?_ token member
    intro condition listed column used
    exact (inScope.conditions condition listed column used).reference_mem faithful held
  · intro index join found
    simp only [Plan.compiled, Plan.statement_eq, List.getElem?_map, Option.map_eq_some_iff] at found
    obtain ⟨planned, found, rfl⟩ := found
    obtain ⟨left, right⟩ := inScope.joins index planned found
    have before : (query.tables.take (index + 1)).map registry.find? =
        (descriptors.take (index + 1)).map some := by
      rw [List.map_take, held, List.map_take]
    have position : (query.tables.map registry.find?)[index + 1]? =
        some (registry.find? planned.inner.entity) := by
      rw [← inScope.tables]
      simp [Plan.tables, found]
    rw [held, List.getElem?_map, Option.map_eq_some_iff] at position
    obtain ⟨joined, position, known⟩ := position
    have alone : [planned.inner.entity].map registry.find? = [joined].map some := by simp [known]
    refine ⟨left.reference_mem faithful before, joined, position, ?_⟩
    simpa [PlannedJoin.named] using right.reference_mem faithful alone

/-- The tables of a compiled query are those of its chain, in order and under distinct
aliases, and all its columns belong to them. -/
theorem Schema.Registry.Reachable.well_scoped (reachable : Registry.Reachable catalog registry)
    (compiles : registry.compile settings query = (.ok compiled, after)) :
    ∃ descriptors : List Descriptor,
      query.tables.map after.find? = descriptors.map some ∧
      query.tables.map catalog.table = descriptors.map (fun descriptor => .ok descriptor.table) ∧
      compiled.Scoped descriptors := by
  obtain ⟨plan, walkable, planned, rfl, names⟩ := reachable.compiled_planned compiles
  have acceptable := walkable.acceptable
  have following := reachable.compile settings query
  rw [compiles] at following
  obtain ⟨descriptors, held⟩ := exists_map_some names.held
  have mapped : query.tables.map catalog.table =
      descriptors.map fun descriptor => .ok descriptor.table := by
    refine map_eq_of_map_some held ?_
    intro entity _ descriptor found
    exact Catalog.lookup_eq_some.mp (names.faithful.table_eq entity descriptor found)
  have inScope := planned.plan_scoped acceptable
  exact ⟨descriptors, held, mapped,
    inScope.written names.faithful following.numbered acceptable.distinct held⟩

theorem Sample.query_scoped : ∃ compiled after descriptors,
    (Registry.ofCatalog Sample.catalog).compile {} Sample.query = (.ok compiled, after) ∧
      Sample.query.tables.map after.find? = descriptors.map some ∧
      compiled.Scoped descriptors := by
  obtain ⟨compiled, after, compiles⟩ := Sample.query_compiles
  obtain ⟨descriptors, held, _, inScope⟩ := Registry.Reachable.well_scoped .ofCatalog compiles
  exact ⟨compiled, after, descriptors, compiles, held, inScope⟩

end Statements

end QueryChain
