import QueryChain.Proofs.Query.SingleTable

namespace QueryChain

open Json Schema Sql

/-! Duplicates that a statement removes, against those that its chain asks to remove.

A statement removes duplicates last, among the rows of its result.  A chain may ask for it
earlier, among rows whose difference a projection then drops.
-/

/-- Wherever a distinct operator comes before a projection onto a column, another one follows. -/
def Query.DistinctLast (lookup : Lookup) (query : Query) : Prop :=
  ∀ earlier operator later, query.operators = earlier ++ operator :: later →
    (operator.member? lookup).isSome → earlier.any Operator.isDistinct →
      later.any Operator.isDistinct

namespace Sql

section Results

variable {δ : Type}

/-- What a reference stands for in a row of the only table. -/
def Source.field (source : Source) (row : TableRow δ) : Reference → Option δ
  | .column qualifier name => if qualifier = source.qualifier then row name else none
  | .verbatim _ => none

variable [DecidableEq δ] (interpretation : Interpretation δ) (bound : String → Option Value)

/-- A row is kept if the predicate is absent or true of it. -/
def Statement.Keeps (statement : Statement) (row : TableRow δ) : Prop :=
  statement.predicate = [] ∨
    ∃ formula, Reads .disjunction (shown statement.predicate) formula [] ∧
      formula.truth interpretation bound (statement.source.field row) = .yes

open Classical in
/-- The rows that a statement over one table selects. -/
noncomputable def Statement.selected (statement : Statement) (rows : Multiset (TableRow δ)) :
    Multiset (List (Option δ)) :=
  (rows.filter (statement.Keeps interpretation bound)).map fun row =>
    statement.columns.map (statement.source.field row)

noncomputable def Statement.results (statement : Statement) (rows : Multiset (TableRow δ)) :
    Multiset (List (Option δ)) :=
  if statement.distinct then (statement.selected interpretation bound rows).dedup
  else statement.selected interpretation bound rows

end Results

section Keeps

variable {δ : Type} [DecidableEq δ] {interpretation : Interpretation δ}
  {bound : String → Option Value} {statement : Statement}

theorem Truth.all_eq_yes {truths : List Truth} :
    Truth.all truths = .yes ↔ ∀ truth ∈ truths, truth = .yes := by
  induction truths with
  | nil => simp [Truth.all]
  | cons truth rest ih =>
      have step : Truth.all (truth :: rest) = truth.and (Truth.all rest) := rfl
      rw [step, List.forall_mem_cons, ← ih]
      cases truth <;> cases Truth.all rest <;> decide

theorem conjunctionTokens_ne_nil {ρ : Type} (first : Condition ρ) (rest : List (Condition ρ)) :
    conjunctionTokens (first :: rest) ≠ [] := by
  intro empty
  have unwritten : first.tokens = [] := (List.append_eq_nil_iff.mp empty).1
  have spelled : tokensText (fun _ => "") first.tokens ≠ "" := first.text_ne_empty
  exact spelled (by rw [unwritten]; rfl)

/-- A row is kept if all conditions are true of it. -/
theorem Statement.keeps_iff {conditions : List (Condition Reference)}
    (written : statement.predicate = conjunctionTokens conditions)
    (listed : ∀ condition ∈ conditions, condition.Listed) {row : TableRow δ} :
    statement.Keeps interpretation bound row ↔
      Truth.all (conditions.map fun condition =>
        condition.formula.truth interpretation bound (statement.source.field row)) = .yes := by
  unfold Statement.Keeps
  rw [written]
  cases conditions with
  | nil => exact ⟨fun _ => rfl, fun _ => .inl rfl⟩
  | cons first rest =>
      have reads := reads_conjunction_iff first rest listed
      have truth := conjoin_truth interpretation (statement.source.field row) first.formula
        (rest.map Condition.formula) bound
      simp only [List.map_cons, List.map_map, Function.comp_def] at truth
      simp only [conjunctionTokens_ne_nil, false_or, reads, exists_eq_left, truth, List.map_cons]

end Keeps

end Sql

section Statement

variable {catalog : Catalog} {settings : Settings} {query : Query} {plan : Plan} {δ : Type}

/-- Over one table, a reference to one of its columns stands for the column's value. -/
theorem Query.OverOneTable.field_reference (single : query.OverOneTable)
    (planned : query.Planned catalog.lookup settings plan) (naming : Naming) (row : TableRow δ)
    {column : ColumnRef} (member : column.entity ∈ query.tables) :
    (plan.source.source naming).field row (column.reference naming) = row column.column.name := by
  rw [single.tables, List.mem_singleton] at member
  have own : naming column.entity = (plan.source.source naming).qualifier := by
    rw [member, ← planned.source.1]
    rfl
  exact if_pos own

/-- A column of the only table has in a record the value that a reference to it has in the row. -/
theorem Query.OverOneTable.field_ofRow (single : query.OverOneTable)
    (planned : query.Planned catalog.lookup settings plan) (row : TableRow δ) {column : ColumnRef}
    (member : column.entity ∈ query.tables) (mapped : column.Mapped catalog.lookup) :
    (Element.ofRow plan.source.table row).field column = row column.column.name := by
  obtain ⟨table, held, declared⟩ := mapped
  rw [single.tables, List.mem_singleton] at member
  rw [member, planned.source.2] at held
  cases held
  exact Element.field_ofRow row declared

variable [DecidableEq δ] {interpretation : Interpretation δ}

/-- A statement keeps the rows of which the predicates of its query hold. -/
theorem Query.OverOneTable.keeps_iff (single : query.OverOneTable)
    (acceptable : query.Acceptable catalog settings)
    (planned : query.Planned catalog.lookup settings plan) (naming : Naming) (row : TableRow δ) :
    (plan.statement naming).Keeps interpretation plan.parameters.get? row ↔
      (Element.ofRow plan.source.table row).satisfies interpretation
        (query.readings catalog.lookup) := by
  have held : plan.parameters.HoldAt 0
      ((query.readings catalog.lookup).flatMap Predicate.values) := by
    rw [planned.parameters]
    exact ⟨[], [], rfl, by simp [Query.values]⟩
  have stem : plan.parameters.stem = settings.stem := by rw [planned.parameters]
  have source : (plan.statement naming).source = plan.source.source naming :=
    congrArg Statement.source (plan.statement_eq naming)
  have truths := conditions_truth interpretation ((plan.source.source naming).field row)
    (ColumnRef.reference naming) _ 0 held
  have meanings : (query.readings catalog.lookup).map (Predicate.meaning interpretation
      fun column => (plan.source.source naming).field row (column.reference naming)) =
      (query.readings catalog.lookup).map
        (Predicate.meaning interpretation (Element.ofRow plan.source.table row).field) := by
    refine List.map_congr_left ?_
    intro reading listed
    refine Predicate.meaning_congr reading ?_
    intro column used
    obtain ⟨member, mapped⟩ := acceptable.reading_mapped listed column used
    rw [single.field_reference planned naming row member,
      single.field_ofRow planned row member mapped]
  rw [Statement.keeps_iff (planned.predicate naming) (conditions_listed _ _ _ _), source, ← stem,
    truths, meanings, Truth.all_eq_yes]
  simp [Element.satisfies]

theorem Query.OverOneTable.selected_kept (single : query.OverOneTable)
    (acceptable : query.Acceptable catalog settings)
    (planned : query.Planned catalog.lookup settings plan) (naming : Naming)
    (rows : Multiset (TableRow δ)) :
    (plan.statement naming).selected interpretation plan.parameters.get? rows =
      (query.kept catalog.lookup interpretation plan.source.table rows).map fun row =>
        plan.selection.columns.map fun column =>
          (plan.source.source naming).field row (column.reference naming) := by
  have columns : (plan.statement naming).columns =
      plan.selection.columns.map (ColumnRef.reference naming) :=
    congrArg Statement.columns (plan.statement_eq naming)
  have source : (plan.statement naming).source = plan.source.source naming :=
    congrArg Statement.source (plan.statement_eq naming)
  unfold Statement.selected Query.kept
  simp only [columns, source, List.map_map, Function.comp_def]
  classical
  refine congrArg _ (Multiset.filter_congr ?_)
  intro row _
  exact single.keeps_iff acceptable planned naming row

/-- A statement selects what its chain finds without removing duplicates. -/
theorem Query.OverOneTable.selected_eq (single : query.OverOneTable)
    (interpretation : Interpretation δ) (acceptable : query.Acceptable catalog settings)
    (planned : query.Planned catalog.lookup settings plan) (naming : Naming)
    (rows : Multiset (TableRow δ)) :
    (plan.statement naming).selected interpretation plan.parameters.get? rows =
      (elementsAfter catalog.lookup interpretation (keeping query.operators)
        (rows.map (Element.ofRow plan.source.table))).map Element.fields := by
  rw [single.selected_kept acceptable planned]
  by_cases whole : ∀ operator ∈ query.operators, operator.member? catalog.lookup = none
  · have entity : plan.source.entity ∈ query.tables := by
      rw [planned.source.1, single.tables]
      exact List.mem_singleton_self _
    rw [single.elements_whole acceptable whole, Multiset.map_map,
      single.selection_whole acceptable planned whole]
    refine Multiset.map_congr rfl ?_
    intro row _
    rw [Function.comp_apply, Element.fields_ofRow, Selection.columns,
      TableRef.columns, List.map_map]
    refine List.map_congr_left ?_
    intro column _
    exact single.field_reference planned naming row entity
  · simp only [not_forall] at whole
    obtain ⟨operator, member, projects⟩ := whole
    obtain ⟨column, projects⟩ := Option.ne_none_iff_exists'.mp projects
    obtain ⟨earlier, later, split⟩ := List.append_of_mem member
    obtain ⟨known, mapped⟩ := single.column_mapped acceptable planned split projects
    rw [single.elements_column acceptable split projects, Multiset.map_map,
      single.selection_column planned split projects]
    refine Multiset.map_congr rfl ?_
    intro row _
    rw [Function.comp_apply, Element.fields, single.field_ofRow planned row known mapped]
    exact congrArg (fun value => [value]) (single.field_reference planned naming row known)

/-- Where a distinct operator comes last, it comes after the projection. -/
theorem Query.DistinctLast.following (last : query.DistinctLast catalog.lookup)
    (distinct : query.isDistinct) {earlier later : List Operator} {operator : Operator}
    {column : ColumnRef} (split : query.operators = earlier ++ operator :: later)
    (projects : operator.member? catalog.lookup = some column) :
    later.any Operator.isDistinct := by
  have kept : operator.isDistinct = false := by
    obtain ⟨projector, rfl, _⟩ := Operator.member?_eq_some projects
    rfl
  rw [Query.isDistinct, split, List.any_append, List.any_cons, kept, Bool.false_or,
    Bool.or_eq_true] at distinct
  rcases distinct with before | behind
  · exact last earlier operator later split (by rw [projects]; rfl) before
  · exact behind

/-- Where a distinct operator comes last, a chain finds no duplicates. -/
theorem Query.OverOneTable.results_nodup (single : query.OverOneTable)
    (acceptable : query.Acceptable catalog settings) (distinct : query.isDistinct)
    (last : query.DistinctLast catalog.lookup) (table : Table) (rows : Multiset (TableRow δ)) :
    (query.results catalog.lookup interpretation table rows).Nodup := by
  have agree := query.elements_agree catalog.lookup interpretation (rows.map (Element.ofRow table))
  by_cases whole : ∀ operator ∈ query.operators, operator.member? catalog.lookup = none
  · have nodup := elementsAfter_distinct catalog.lookup interpretation
      (rows.map (Element.ofRow table)) distinct whole []
    rw [single.elements_whole acceptable whole] at agree
    exact agree.nodup_map nodup fun _ _ => Element.ofRow_inj
  · simp only [not_forall] at whole
    obtain ⟨operator, member, projects⟩ := whole
    obtain ⟨column, projects⟩ := Option.ne_none_iff_exists'.mp projects
    obtain ⟨earlier, later, split⟩ := List.append_of_mem member
    have unprojected : ∀ other ∈ later, other.member? catalog.lookup = none := by
      intro other member
      exact Operator.member?_of_projector? ((single.around split projects).2 other member).1
    have nodup := elementsAfter_distinct catalog.lookup interpretation
      (rows.map (Element.ofRow table)) (last.following distinct split projects) unprojected
      (earlier ++ [operator])
    rw [List.append_assoc, List.singleton_append, ← split] at nodup
    rw [single.elements_column acceptable split projects] at agree
    refine agree.nodup_map nodup ?_
    intro row other same
    exact congrArg Element.value (List.singleton_inj.mp same)

end Statement

/-- A statement removes all duplicates from the results of its chain if the chain asks anywhere to
remove some.  These are the results of the chain unless a projection follows the last time it
asks. -/
theorem Schema.Registry.Reachable.results_eq {catalog : Catalog} {registry after : Registry}
    {settings : Settings} {query : Query} {compiled : Compiled}
    (reachable : Registry.Reachable catalog registry)
    (compiles : registry.compile settings query = (.ok compiled, after))
    (single : query.OverOneTable) :
    ∃ table, catalog.table query.source = .ok table ∧
      ∀ {δ : Type} [DecidableEq δ] (interpretation : Interpretation δ)
        (rows : Multiset (TableRow δ)),
        compiled.statement.results interpretation compiled.parameters.get? rows =
          (if query.isDistinct then (query.results catalog.lookup interpretation table rows).dedup
            else query.results catalog.lookup interpretation table rows) ∧
        (query.DistinctLast catalog.lookup →
          compiled.statement.results interpretation compiled.parameters.get? rows =
            query.results catalog.lookup interpretation table rows) := by
  obtain ⟨plan, walkable, planned, rfl, _⟩ := reachable.compiled_planned compiles
  have acceptable := walkable.acceptable
  refine ⟨plan.source.table, Catalog.lookup_eq_some.mp planned.source.2, ?_⟩
  intro δ _ interpretation rows
  have selected := single.selected_eq interpretation acceptable planned after.aliasOf rows
  have agree := query.elements_agree catalog.lookup interpretation
    (rows.map (Element.ofRow plan.source.table))
  have results := (agree.map Element.fields)
  have distinct : (plan.statement after.aliasOf).distinct = query.isDistinct := by
    rw [plan.statement_eq, planned.distinct]
  have removed : (plan.statement after.aliasOf).results interpretation plan.parameters.get? rows =
      if query.isDistinct then
        (query.results catalog.lookup interpretation plan.source.table rows).dedup
      else query.results catalog.lookup interpretation plan.source.table rows := by
    unfold Statement.results
    rw [selected, distinct]
    cases asks : query.isDistinct with
    | false => exact (results.eq_of_kept asks).symm
    | true => exact Multiset.dedup_ext.mpr fun result => (results.mem_iff result).symm
  refine ⟨removed, ?_⟩
  intro last
  refine removed.trans ?_
  cases asks : query.isDistinct with
  | false => rfl
  | true => exact Multiset.dedup_eq_self.mpr (single.results_nodup acceptable asks last _ rows)

namespace Sample

def name : Operator := .select ⟨[player], .field player "Name"⟩

/-- The names of the players that are not called Ada, each of them once. -/
def names : Query :=
  ⟨players,
    [.distinct,
      .filter ⟨[player],
        .not (.compare .eq (.field player "Name") (.captured "name" (.string "Ada")))⟩,
      name, .distinct]⟩

theorem names_results : ∃ compiled after table,
    (Registry.ofCatalog catalog).compile {} names = (.ok compiled, after) ∧
      names.OverOneTable ∧ names.DistinctLast catalog.lookup ∧
        catalog.table players = .ok table ∧
      ∀ (interpretation : Interpretation Nat) (rows : Multiset (TableRow Nat)),
        compiled.statement.results interpretation compiled.parameters.get? rows =
          names.results catalog.lookup interpretation table rows := by
  obtain ⟨compiled, succeeds⟩ : ∃ compiled,
      ((Registry.ofCatalog catalog).compile {} names).1 = .ok compiled := ⟨_, rfl⟩
  have compiles : (Registry.ofCatalog catalog).compile {} names = (.ok compiled, _) :=
    Prod.ext succeeds rfl
  have single : names.OverOneTable := by
    refine ⟨by decide, by decide, ?_⟩
    simp [names, name, Operator.projector?, Operator.predicate?]
  have last : names.DistinctLast catalog.lookup := by
    intro earlier operator later split projects _
    rcases earlier with _ | ⟨_, _ | ⟨_, _ | ⟨_, _ | ⟨_, _⟩⟩⟩⟩ <;>
      first | (cases split; first | rfl | cases projects) | simp [names] at split
  obtain ⟨table, mapped, results⟩ := Registry.Reachable.results_eq .ofCatalog compiles single
  exact ⟨compiled, _, table, compiles, single, last, mapped, fun interpretation rows =>
    (results interpretation rows).2 last⟩

/-- The name of each player, of which no two are the same. -/
def nameOfEach : Query := ⟨players, [.distinct, name]⟩

/-- Two players of one name. -/
def namesakes : Multiset (TableRow Nat) :=
  {fun name => if name = "Id" then some 1 else some 7,
    fun name => if name = "Id" then some 2 else some 7}

/-- Of two players of one name one is lost. -/
theorem namesakes_lost : ∃ compiled after table,
    (Registry.ofCatalog catalog).compile {} nameOfEach = (.ok compiled, after) ∧
      nameOfEach.OverOneTable ∧ catalog.table players = .ok table ∧
      ∀ interpretation : Interpretation Nat,
        compiled.statement.results interpretation compiled.parameters.get? namesakes =
          {[some 7]} ∧
        nameOfEach.results catalog.lookup interpretation table namesakes =
          {[some 7], [some 7]} := by
  obtain ⟨compiled, succeeds, distinct, columns, predicate⟩ : ∃ compiled,
      ((Registry.ofCatalog catalog).compile {} nameOfEach).1 = .ok compiled ∧
        compiled.statement.distinct = true ∧
        compiled.statement.columns = [.column compiled.statement.source.qualifier "Name"] ∧
        compiled.statement.predicate = [] := ⟨_, rfl, rfl, rfl, rfl⟩
  have single : nameOfEach.OverOneTable := by
    refine ⟨by decide, by decide, ?_⟩
    simp [nameOfEach, name, Operator.projector?, Operator.predicate?]
  refine ⟨compiled, _, _, Prod.ext succeeds rfl, single, rfl, ?_⟩
  intro interpretation
  refine ⟨?_, rfl⟩
  have kept : compiled.statement.selected interpretation compiled.parameters.get? namesakes =
      namesakes.map fun row => [row "Name"] := by
    classical
    unfold Statement.selected
    rw [Multiset.filter_eq_self.mpr fun _ _ => .inl predicate, columns]
    simp [Source.field]
  rw [Statement.results, distinct, kept]
  rfl

end Sample

end QueryChain
