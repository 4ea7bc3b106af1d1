import QueryChain.Proofs.Query.Elements
import QueryChain.Proofs.Query.Scope

namespace QueryChain

open Json Schema Sql

/-! Chains over one table that project at most once.

What such a chain finds apart from its distinct operators is what its predicates leave of the
table, projected at the end; and what it selects is the entity or the column of its projection.
-/

/-- Chains over one table that project at most once, do not filter what they project and do not
limit their rows. -/
structure Query.OverOneTable (query : Query) : Prop where
  alone : ∀ operator ∈ query.operators, operator.joined? = none
  unlimited : ∀ operator ∈ query.operators, operator.limits = false
  once : query.operators.Pairwise fun earlier later =>
    earlier.projector?.isSome → later.projector? = none ∧ later.predicate? = none

theorem Query.OverOneTable.tables {query : Query} (single : query.OverOneTable) :
    query.tables = [query.source] := by
  rw [Query.tables, List.filterMap_eq_nil_iff.mpr single.alone]

/-- A column that the table of its entity declares for its property. -/
def ColumnRef.Mapped (lookup : Lookup) (column : ColumnRef) : Prop :=
  ∃ table, lookup column.entity = some table ∧
    table.column? column.column.property = some column.column

theorem ColumnRef.mapped_of_columnIn? {lookup : Lookup} {expr : Expr} {found : ColumnRef}
    (resolved : expr.columnIn? lookup = some found) : found.Mapped lookup := by
  obtain ⟨property, table, _, held, mapped⟩ := Expr.columnIn?_eq_some.mp resolved
  have named : found.column.property = property := Schema.Table.column?_property mapped
  exact ⟨table, held, by rw [named, mapped]⟩

theorem Operator.member?_eq_some {operator : Operator} {lookup : Lookup} {column : ColumnRef}
    (projects : operator.member? lookup = some column) :
    ∃ projector, operator = .select projector ∧
      projector.body.columnIn? lookup = some column := by
  cases operator with
  | select projector => exact ⟨projector, rfl, projects⟩
  | filter _ | join _ _ _ | orderBy _ _ | take _ | skip _ | distinct | first _ _ => cases projects

theorem Operator.member?_of_projector? {operator : Operator} {lookup : Lookup}
    (absent : operator.projector? = none) : operator.member? lookup = none := by
  cases operator with
  | select projector => cases absent
  | filter _ | join _ _ _ | orderBy _ _ | take _ | skip _ | distinct | first _ _ => rfl

section Selection

variable {catalog : Catalog} {settings : Settings} {query : Query} {plan : Plan} {δ : Type}

/-- Around a projection onto a column there is no other projection, and after it no predicate. -/
theorem Query.OverOneTable.around (single : query.OverOneTable) {lookup : Lookup}
    {earlier later : List Operator} {operator : Operator} {column : ColumnRef}
    (split : query.operators = earlier ++ operator :: later)
    (projects : operator.member? lookup = some column) :
    (∀ other ∈ earlier, other.projector? = none) ∧
      ∀ other ∈ later, other.projector? = none ∧ other.predicate? = none := by
  have projector : operator.projector?.isSome := by
    obtain ⟨_, rfl, _⟩ := Operator.member?_eq_some projects
    rfl
  have once := single.once
  rw [split] at once
  obtain ⟨_, following, crossing⟩ := List.pairwise_append.mp once
  refine ⟨?_, fun other member => (List.pairwise_cons.mp following).1 other member projector⟩
  intro other member
  cases asks : other.projector? with
  | none => rfl
  | some body =>
      have absent := (crossing other member operator List.mem_cons_self (by rw [asks]; rfl)).1
      rw [absent] at projector
      cases projector

theorem Query.Acceptable.reading_mapped (acceptable : query.Acceptable catalog settings)
    {reading : Predicate} (listed : reading ∈ query.readings catalog.lookup) :
    ∀ column ∈ reading.columns, column.entity ∈ query.tables ∧
      column.Mapped catalog.lookup := by
  intro column used
  obtain ⟨operator, member, reads⟩ := List.mem_filterMap.mp listed
  obtain ⟨predicate, asks, read⟩ := Option.bind_eq_some_iff.mp reads
  have resolves : ∀ expr found, Expr.columnIn? catalog.lookup expr = some found →
      ColumnRef.Mapped catalog.lookup found :=
    fun _ _ resolved => ColumnRef.mapped_of_columnIn? resolved
  have mapped := Expr.predicate?_columns resolves predicate.body read column used
  exact ⟨(acceptable.reading_among listed column used).1, mapped⟩

/-- A chain without projections onto a column selects the entity of its source. -/
theorem Query.OverOneTable.selection_whole (single : query.OverOneTable)
    (acceptable : query.Acceptable catalog settings)
    (planned : query.Planned catalog.lookup settings plan)
    (whole : ∀ operator ∈ query.operators, operator.member? catalog.lookup = none) :
    plan.selection = .entity plan.source := by
  have source : catalog.lookup query.source = some plan.source.table := planned.source.2
  have own : (⟨query.source, plan.source.table⟩ : TableRef) = plan.source := by
    rw [← planned.source.1]
  have selected : query.selection? catalog.lookup = some (.entity plan.source) := by
    unfold Query.selection?
    cases last : query.projectors.getLast? with
    | none =>
        simp only [source, Option.map_some, own]
    | some projector =>
        have listed := List.mem_of_getLast? last
        obtain ⟨operator, member, projects⟩ := List.mem_filterMap.mp listed
        cases operator <;> cases projects
        have unresolved : projector.body.columnIn? catalog.lookup = none := whole _ member
        rcases acceptable.projectors projector listed with ⟨param, body, known⟩ | column
        · rw [single.tables, List.mem_singleton] at known
          simp only [Lambda.selection?, body, known, source, Option.map_some, own]
        · obtain ⟨found, resolved⟩ := Option.isSome_iff_exists.mp column
          rw [(Expr.columnIn?_within.mp resolved).1] at unresolved
          cases unresolved
  exact Option.some.inj (planned.selection.symm.trans selected)

/-- A chain that projects onto a column selects that column. -/
theorem Query.OverOneTable.selection_column (single : query.OverOneTable)
    (planned : query.Planned catalog.lookup settings plan) {earlier later : List Operator}
    {operator : Operator} {column : ColumnRef}
    (split : query.operators = earlier ++ operator :: later)
    (projects : operator.member? catalog.lookup = some column) :
    plan.selection = .column column := by
  obtain ⟨before, after⟩ := single.around split projects
  obtain ⟨projector, rfl, resolved⟩ := Operator.member?_eq_some projects
  have proper : ∀ param, projector.body ≠ .parameter param := by
    intro param body
    rw [body] at resolved
    cases resolved
  have only : query.projectors = [projector] := by
    rw [Query.projectors, split, List.filterMap_append, List.filterMap_eq_nil_iff.mpr before]
    exact congrArg (projector :: ·)
      (List.filterMap_eq_nil_iff.mpr fun other member => (after other member).1)
  have selected : query.selection? catalog.lookup = some (.column column) := by
    rw [Query.selection?, only, List.getLast?_singleton]
    exact (Planning.selection?_column proper).trans (by rw [resolved]; rfl)
  exact Option.some.inj (planned.selection.symm.trans selected)

/-- The column of a projection belongs to the only table. -/
theorem Query.OverOneTable.column_mapped (single : query.OverOneTable)
    (acceptable : query.Acceptable catalog settings)
    (planned : query.Planned catalog.lookup settings plan) {earlier later : List Operator}
    {operator : Operator} {column : ColumnRef}
    (split : query.operators = earlier ++ operator :: later)
    (projects : operator.member? catalog.lookup = some column) :
    column.entity ∈ query.tables ∧ column.Mapped catalog.lookup := by
  have among := acceptable.selection_among planned.selection
  rw [single.selection_column planned split projects] at among
  obtain ⟨projector, rfl, resolved⟩ := Operator.member?_eq_some projects
  exact ⟨among.1, ColumnRef.mapped_of_columnIn? resolved⟩

/-- An acceptable chain over one table consists of operators that filter, project or remove
duplicates. -/
theorem Query.OverOneTable.filters (single : query.OverOneTable)
    (acceptable : query.Acceptable catalog settings) {operator : Operator}
    (member : operator ∈ query.operators) (whole : operator.member? catalog.lookup = none)
    (kept : operator.isDistinct = false) : operator.Filters catalog.lookup where
  whole
  kept
  unlimited := single.unlimited operator member
  reads predicate asks := by
    obtain ⟨reading, read⟩ := Option.isSome_iff_exists.mp
      (acceptable.predicates predicate (List.mem_filterMap.mpr ⟨operator, member, asks⟩))
    exact Option.isSome_iff_exists.mpr ⟨reading, ((Expr.predicate?_within _).mp read).1⟩

variable [DecidableEq δ] {interpretation : Interpretation δ}

/-- The rows of which all predicates of a query hold. -/
def Query.kept (lookup : Lookup) (interpretation : Interpretation δ)
    (query : Query) (table : Table)
    (rows : Multiset (TableRow δ)) : Multiset (TableRow δ) :=
  rows.filter fun row => (Element.ofRow table row).satisfies interpretation (query.readings lookup)

theorem Query.OverOneTable.filtering (single : query.OverOneTable)
    (interpretation : Interpretation δ) (acceptable : query.Acceptable catalog settings)
    {operators : List Operator}
    (within : ∀ operator ∈ operators, operator ∈ query.operators)
    (whole : ∀ operator ∈ operators, operator.member? catalog.lookup = none)
    (elements : Multiset (Element δ)) :
    elementsAfter catalog.lookup interpretation (keeping operators) elements =
      elements.filter fun element =>
        element.satisfies interpretation
          (operators.filterMap (Operator.reads? catalog.lookup)) := by
  rw [elementsAfter_filter, keeping_reads]
  intro operator listed
  obtain ⟨member, kept⟩ := List.mem_filter.mp listed
  exact single.filters acceptable (within operator member) (whole operator member)
    (by simpa using kept)

theorem Query.OverOneTable.elements_whole (single : query.OverOneTable)
    (acceptable : query.Acceptable catalog settings)
    (whole : ∀ operator ∈ query.operators, operator.member? catalog.lookup = none)
    (table : Table)
    (rows : Multiset (TableRow δ)) :
    elementsAfter catalog.lookup interpretation (keeping query.operators)
        (rows.map (Element.ofRow table)) =
      (query.kept catalog.lookup interpretation table rows).map (Element.ofRow table) := by
  rw [single.filtering interpretation acceptable (fun _ member => member) whole,
    Multiset.filter_map]
  rfl

/-- The predicates of a chain that projects onto a column are those before the projection. -/
theorem Query.OverOneTable.readings_column (single : query.OverOneTable)
    {earlier later : List Operator} {operator : Operator} {column : ColumnRef}
    (split : query.operators = earlier ++ operator :: later)
    (projects : operator.member? catalog.lookup = some column) :
    later.filterMap (Operator.reads? catalog.lookup) = [] ∧
      query.readings catalog.lookup = earlier.filterMap (Operator.reads? catalog.lookup) := by
  have unread : later.filterMap (Operator.reads? catalog.lookup) = [] := by
    refine List.filterMap_eq_nil_iff.mpr ?_
    intro other member
    rw [Operator.reads?, ((single.around split projects).2 other member).2]
    rfl
  obtain ⟨projector, rfl, _⟩ := Operator.member?_eq_some projects
  refine ⟨unread, ?_⟩
  rw [Query.readings, split, List.filterMap_append]
  exact (congrArg _ unread).trans (List.append_nil _)

theorem Query.OverOneTable.elements_column (single : query.OverOneTable)
    (acceptable : query.Acceptable catalog settings) {earlier later : List Operator}
    {operator : Operator} {column : ColumnRef}
    (split : query.operators = earlier ++ operator :: later)
    (projects : operator.member? catalog.lookup = some column) (table : Table)
    (rows : Multiset (TableRow δ)) :
    elementsAfter catalog.lookup interpretation (keeping query.operators)
        (rows.map (Element.ofRow table)) =
      (query.kept catalog.lookup interpretation table rows).map fun row =>
        .value ((Element.ofRow table row).field column) := by
  obtain ⟨before, after⟩ := single.around split projects
  obtain ⟨unread, readings⟩ := single.readings_column split projects
  obtain ⟨projector, rfl, resolved⟩ := Operator.member?_eq_some projects
  have parts : keeping query.operators =
      keeping earlier ++ .select projector :: keeping later := by
    rw [split]
    exact List.filter_append ..
  have first := single.filtering interpretation acceptable
    (fun other member => split ▸ List.mem_append_left _ member)
    (fun other member => Operator.member?_of_projector? (before other member))
    (rows.map (Element.ofRow table))
  have projected : projector.project catalog.lookup
      (elementsAfter catalog.lookup interpretation (keeping earlier)
        (rows.map (Element.ofRow table))) =
      (query.kept catalog.lookup interpretation table rows).map fun row =>
        .value ((Element.ofRow table row).field column) := by
    rw [first, ← readings, Multiset.filter_map]
    simp only [Lambda.project, resolved, Multiset.map_map]
    rfl
  have last := single.filtering interpretation acceptable
    (fun other member => split ▸ List.mem_append_right _ (List.mem_cons_of_mem _ member))
    (fun other member => Operator.member?_of_projector? (after other member).1)
    (projector.project catalog.lookup
      (elementsAfter catalog.lookup interpretation (keeping earlier)
        (rows.map (Element.ofRow table))))
  rw [unread, satisfies_nil] at last
  rw [parts, elementsAfter_append]
  exact last.trans projected

end Selection

end QueryChain
