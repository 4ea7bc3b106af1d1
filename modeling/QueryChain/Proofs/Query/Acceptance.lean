import QueryChain.Proofs.Query.Compiled

namespace QueryChain

open Json Schema

/-! Which queries compile.

`Query.Acceptable` speaks of a chain as it is written, and not of the order in
which planning looks at it.
-/

structure Query.Acceptable (catalog : Catalog) (settings : Settings) (query : Query) : Prop where
  mapped : ∀ entity ∈ query.tables, ∃ table, catalog.table entity = .ok table
  distinct : query.tables.Nodup
  unlimited : query.operators.Pairwise fun earlier later => earlier.limits →
    ¬ later.precedesLimits
  offsets : query.operators.Pairwise fun earlier later => earlier.takes → ¬ later.skips
  pages : query.operators.Pairwise fun earlier later => earlier.skips → later.taken? ≠ some 0
  counts : ∀ count ∈ query.counts, ∃ number : Nat, number < pow2 64 ∧
    count.evaluate = .ok (.number (.int number))
  joins : ∀ earlier inner outerKey innerKey later,
    query.operators = earlier ++ .join inner outerKey innerKey :: later →
      (outerKey.body.columnIn? (catalog.lookup.within
        (query.source :: earlier.filterMap Operator.joined?))).isSome ∧
      (innerKey.body.columnIn? (catalog.lookup.within [inner])).isSome
  keys : ∀ key ∈ query.sortKeys,
    (key.1.body.columnIn? (catalog.lookup.within query.tables)).isSome
  projectors : ∀ projector ∈ query.projectors,
    (∃ param, projector.body = .parameter param ∧ param.entity ∈ query.tables) ∨
      (projector.body.columnIn? (catalog.lookup.within query.tables)).isSome
  predicates : ∀ predicate ∈ query.predicates,
    (predicate.body.predicate? (catalog.lookup.within query.tables)).isSome
  fits : (nonNull (query.values catalog.lookup)).length ≤ settings.limit

/-- A relation holds pairwise when each item is related to those before it. -/
theorem pairwise_iff_split {α : Type} {related : α → α → Prop} {items : List α} :
    items.Pairwise related ↔ ∀ earlier item later, items = earlier ++ item :: later →
      ∀ other ∈ earlier, related other item := by
  refine ⟨?_, ?_⟩
  · intro pairwise earlier item later split other member
    rw [split] at pairwise
    exact (List.pairwise_append.mp pairwise).2.2 other member item List.mem_cons_self
  · intro positions
    induction items with
    | nil => exact .nil
    | cons head tail ih =>
        refine List.pairwise_cons.mpr ⟨?_, ih ?_⟩
        · intro item member
          obtain ⟨earlier, later, split⟩ := List.append_of_mem member
          exact positions (head :: earlier) item later (by rw [split]; rfl) head List.mem_cons_self
        · intro earlier item later split other member
          exact positions (head :: earlier) item later (by rw [split]; rfl) other
            (List.mem_cons_of_mem _ member)

theorem Query.tables_nodup_iff {query : Query} :
    query.tables.Nodup ↔ ∀ earlier operator later,
      query.operators = earlier ++ operator :: later →
      ∀ inner, operator.joined? = some inner →
        inner ∉ query.source :: earlier.filterMap Operator.joined? := by
  refine ⟨?_, ?_⟩
  · intro distinct earlier operator later split inner joined
    have tables : query.tables =
        (query.source :: earlier.filterMap Operator.joined?) ++
          inner :: later.filterMap Operator.joined? := by
      simp [Query.tables, split, joined]
    rw [tables] at distinct
    intro member
    exact (List.nodup_append.mp distinct).2.2 inner member inner List.mem_cons_self rfl
  · intro fresh
    refine List.nodup_cons.mpr ⟨?_, ?_⟩
    · intro member
      obtain ⟨operator, member, joined⟩ := List.mem_filterMap.mp member
      obtain ⟨earlier, later, split⟩ := List.append_of_mem member
      exact fresh earlier operator later split query.source joined List.mem_cons_self
    · rw [List.Nodup, List.pairwise_filterMap, pairwise_iff_split]
      intro earlier operator later split other member entity joined inner joinedToo same
      refine fresh earlier operator later split inner joinedToo (List.mem_cons_of_mem _ ?_)
      exact List.mem_filterMap.mpr ⟨other, member, by rw [joined, same]⟩

theorem evaluateCount_eq_ok {count : Expr} {number : Nat} :
    count.evaluateCount = .ok number ↔
      number < pow2 64 ∧ count.evaluate = .ok (.number (.int number)) := by
  have counted : ∀ value : Value,
      value.asCount? = some number ↔ number < pow2 64 ∧ value = .number (.int number) := by
    intro value
    unfold Value.asCount?
    split
    · rename_i whole
      simp only [Value.number.injEq, Number.int.injEq]
      split
      · rw [Option.some.injEq]
        omega
      · simp only [reduceCtorEq, false_iff]
        omega
    · rename_i other
      simp only [reduceCtorEq, false_iff, not_and]
      intro _ same
      exact other _ same
  unfold Expr.evaluateCount
  cases count.evaluate with
  | error cause =>
      refine ⟨?_, ?_⟩
      · intro counts
        cases counts
      · intro known
        cases known.2
  | ok value =>
      have bind : ∀ next : Value → Except QueryError Nat,
          (Except.ok value >>= next) = next value :=
        fun _ => rfl
      rw [bind, Except.ok.injEq, ← counted value]
      cases value.asCount? <;> simp

namespace Operator

variable {lookup : Lookup} {draft : Draft} {operator : Operator}

/-- The checks of a step, apart from each other. -/
theorem admissible_iff :
    operator.Admissible lookup draft ↔
      (operator.precedesLimits → draft.outline.isLimited = false) ∧
      (operator.skips → draft.outline.taken = none) ∧
      (operator.taken? = some 0 → draft.outline.skipped = none) ∧
      (∀ count, operator.count? = some count → ∃ number, count.evaluateCount = .ok number) ∧
      (∀ inner outerKey innerKey, operator = .join inner outerKey innerKey →
        inner ∉ draft.tables ∧ ∃ planned, operator.plannedJoin? lookup = some planned ∧
          planned.left.entity ∈ draft.tables ∧ planned.right.entity = inner) ∧
      (∀ predicate, operator.predicate? = some predicate → ∃ reading,
        predicate.body.predicate? lookup = some reading ∧ draft.Fits reading.values) := by
  cases operator with
  | filter predicate =>
      simp [Admissible, Draft.Allows, precedesLimits, skips, taken?, count?, predicate?]
  | select projector =>
      simp [Admissible, precedesLimits, skips, taken?, count?, predicate?]
  | join inner outerKey innerKey =>
      simp [Admissible, precedesLimits, skips, taken?, count?, predicate?]
  | orderBy key direction =>
      simp [Admissible, precedesLimits, skips, taken?, count?, predicate?]
  | take count =>
      cases counted : count.evaluateCount with
      | error cause =>
          simp [Admissible, precedesLimits, skips, taken?, count?, predicate?, counted]
      | ok number =>
          simp [Admissible, precedesLimits, skips, taken?, count?, predicate?, counted,
            Except.toOption]
  | skip count =>
      simp [Admissible, precedesLimits, skips, taken?, count?, predicate?, and_comm]
  | distinct =>
      simp [Admissible, precedesLimits, skips, taken?, count?, predicate?]
  | first predicate mode =>
      cases predicate with
      | none => simp [Admissible, precedesLimits, skips, taken?, count?, predicate?]
      | some predicate =>
          simp [Admissible, Draft.Allows, precedesLimits, skips, taken?, count?, predicate?]

/-- A take or skip, if it is one, counts rows. -/
def Counts (operator : Operator) : Prop :=
  ∀ count, operator.count? = some count → ∃ number, count.evaluateCount = .ok number

theorem Counts.taken? (counts : operator.Counts) :
    operator.taken? = none ↔ ¬ operator.takes := by
  cases operator with
  | take count =>
      obtain ⟨number, counted⟩ := counts count rfl
      simp [Operator.taken?, takes, counted, Except.toOption]
  | filter _ | select _ | join _ _ _ | orderBy _ _ | skip _ | distinct | first _ _ =>
      simp [Operator.taken?, takes]

theorem Counts.skipped? (counts : operator.Counts) :
    operator.skipped? = none ↔ ¬ operator.skips := by
  cases operator with
  | skip count =>
      obtain ⟨number, counted⟩ := counts count rfl
      simp [Operator.skipped?, skips, counted, Except.toOption]
  | filter _ | select _ | join _ _ _ | orderBy _ _ | take _ | distinct | first _ _ =>
      simp [Operator.skipped?, skips]

end Operator

section Position

variable {lookup : Lookup} {settings : Settings} {query : Query} {earlier : List Operator}

/-- The draft with which planning reaches an operator on the way up. -/
def Query.draftAt (lookup : Lookup) (settings : Settings) (query : Query)
    (earlier : List Operator) : Draft :=
  earlier.foldl (Draft.ascend lookup) (query.opening lookup settings)

theorem draftAt_tables :
    (query.draftAt lookup settings earlier).tables =
      query.source :: earlier.filterMap Operator.joined? := by
  rw [Query.draftAt, Draft.ascendAll_tables, Query.opening_tables]
  rfl

theorem draftAt_taken (counts : ∀ operator ∈ earlier, operator.Counts) :
    (query.draftAt lookup settings earlier).outline.taken = none ↔
      ∀ operator ∈ earlier, ¬ operator.takes := by
  obtain ⟨selected, opening⟩ := @Query.opening_outline lookup settings query
  rw [Query.draftAt, Draft.ascendAll_taken, opening]
  simp only [Outline.ofRoot, Option.or_none, List.getLast?_eq_none_iff, List.filterMap_eq_nil_iff]
  refine forall₂_congr ?_
  intro operator member
  exact (counts operator member).taken?

theorem draftAt_skipped (counts : ∀ operator ∈ earlier, operator.Counts) :
    (query.draftAt lookup settings earlier).outline.skipped = none ↔
      ∀ operator ∈ earlier, ¬ operator.skips := by
  obtain ⟨selected, opening⟩ := @Query.opening_outline lookup settings query
  rw [Query.draftAt, Draft.ascendAll_skipped, opening]
  simp only [Outline.ofRoot, Option.or_none, List.getLast?_eq_none_iff, List.filterMap_eq_nil_iff]
  refine forall₂_congr ?_
  intro operator member
  exact (counts operator member).skipped?

theorem draftAt_isLimited (counts : ∀ operator ∈ earlier, operator.Counts) :
    (query.draftAt lookup settings earlier).outline.isLimited = false ↔
      ∀ operator ∈ earlier, ¬ operator.limits := by
  have unlimited : ∀ outline : Outline,
      outline.isLimited = false ↔ outline.taken = none ∧ outline.skipped = none := by
    intro outline
    simp [Outline.isLimited]
  rw [unlimited, draftAt_taken counts, draftAt_skipped counts]
  simp only [Operator.limits, Bool.or_eq_true, not_or, forall_and]

theorem draftAt_size :
    (query.draftAt lookup settings earlier).parameters.size =
      (nonNull ((earlier.filterMap (Operator.reads? lookup)).flatMap Predicate.values)).length := by
  rw [Query.draftAt, Sql.Parameters.size, Draft.ascendAll_values, Query.opening_parameters]
  rfl

theorem draftAt_limit :
    (query.draftAt lookup settings earlier).parameters.limit = settings.limit := by
  rw [Query.draftAt, Draft.ascendAll_limit, Query.opening_parameters]
  rfl

end Position

section Columns

variable {lookup : Lookup} {settings : Settings} {query : Query} {entities : List Entity}

theorem columnIn?_within_isSome {expr : Expr} :
    (expr.columnIn? (lookup.within entities)).isSome ↔
      ∃ found, expr.columnIn? lookup = some found ∧ found.entity ∈ entities := by
  simp only [Option.isSome_iff_exists, Expr.columnIn?_within]

theorem Query.references_iff :
    (∀ entity ∈ (query.draft lookup settings).referenced,
        entity ∈ (query.draft lookup settings).tables) ↔
      ∀ operator ∈ query.operators, AllWithin query.tables (operator.descentColumns lookup) ∧
        (∀ entity ∈ operator.wholeEntities, entity ∈ query.tables) ∧
        AllWithin query.tables (operator.ascentColumns lookup) := by
  simp only [mem_draft_referenced, draft_tables, List.mem_map, AllWithin]
  refine ⟨?_, ?_⟩
  · intro known operator member
    refine ⟨?_, ?_, ?_⟩
    · exact fun column used => known _ ⟨operator, member, .inl ⟨column, used, rfl⟩⟩
    · exact fun entity whole => known _ ⟨operator, member, .inr (.inl whole)⟩
    · exact fun column used => known _ ⟨operator, member, .inr (.inr ⟨column, used, rfl⟩)⟩
  · intro known entity referenced
    obtain ⟨operator, member, mentioned⟩ := referenced
    obtain ⟨descent, whole, ascent⟩ := known operator member
    rcases mentioned with ⟨column, used, rfl⟩ | mentioned | ⟨column, used, rfl⟩
    · exact descent column used
    · exact whole entity mentioned
    · exact ascent column used

/-- The way down succeeds within some entities exactly when its sort keys and
projections are columns of those, or one of those. -/
theorem Operator.resolves_within_iff {operator : Operator} :
    (operator.Resolves lookup ∧ AllWithin entities (operator.descentColumns lookup) ∧
        ∀ entity ∈ operator.wholeEntities, entity ∈ entities) ↔
      (∀ key, operator.sortKey? = some key →
        (key.1.body.columnIn? (lookup.within entities)).isSome) ∧
      (∀ projector, operator.projector? = some projector →
        (∃ param, projector.body = .parameter param ∧ param.entity ∈ entities) ∨
          (projector.body.columnIn? (lookup.within entities)).isSome) := by
  cases operator with
  | select projector =>
      simp only [columnIn?_within_isSome]
      by_cases whole : ∃ param, projector.body = .parameter param
      · obtain ⟨param, body⟩ := whole
        simp [Resolves, descentColumns, wholeEntities, sortKey?, projector?, Lambda.projection?,
          body, Expr.columnIn?, Expr.column?, AllWithin]
      · have column : ∀ param, projector.body ≠ .parameter param := fun param same =>
          whole ⟨param, same⟩
        simp only [Resolves, descentColumns, Planning.wholeEntities_column column,
          Planning.projection?_column column, sortKey?, projector?, Option.isSome_map,
          Option.some.injEq, reduceCtorEq, false_implies, implies_true, true_and, and_true,
          forall_eq', List.not_mem_nil]
        cases resolved : projector.body.columnIn? lookup <;> simp [column, AllWithin]
  | orderBy key direction =>
      simp only [columnIn?_within_isSome]
      cases resolved : key.body.columnIn? lookup <;>
        simp [Resolves, descentColumns, wholeEntities, sortKey?, projector?, resolved, AllWithin]
  | filter _ | join _ _ _ | take _ | skip _ | distinct | first _ _ =>
      simp [Resolves, descentColumns, wholeEntities, sortKey?, projector?, AllWithin]

theorem ascentColumns_of_reads {operator : Operator} {predicate : Lambda} {reading : Predicate}
    (asks : operator.predicate? = some predicate)
    (read : predicate.body.predicate? lookup = some reading) :
    operator.ascentColumns lookup = reading.columns := by
  cases operator <;> cases asks <;>
    simp [Operator.ascentColumns, Operator.plannedJoin?, Operator.reads?, Operator.predicate?, read]

theorem ascentValues_of_reads {operator : Operator} {predicate : Lambda} {reading : Predicate}
    (asks : operator.predicate? = some predicate)
    (read : predicate.body.predicate? lookup = some reading) :
    operator.ascentValues lookup = reading.values := by
  simp [Operator.ascentValues, Operator.reads?, asks, read]

end Columns

section Checks

variable {lookup : Lookup} {settings : Settings} {query : Query}

open Operator

/-- A check of the limits so far relates an operator to each one before it. -/
theorem Query.along_iff_pairwise {check : Draft → Operator → Prop}
    {related : Operator → Operator → Prop}
    (counts : ∀ operator ∈ query.operators, operator.Counts)
    (agree : ∀ earlier operator, (∀ other ∈ earlier, other.Counts) →
      (check (query.draftAt lookup settings earlier) operator ↔
        ∀ other ∈ earlier, related other operator)) :
    Along check (Draft.ascend lookup) (query.opening lookup settings) query.operators ↔
      query.operators.Pairwise related := by
  rw [pairwise_iff_split]
  refine forall_congr' fun earlier => forall_congr' fun operator => forall_congr' fun later =>
    forall_congr' fun split => ?_
  apply agree earlier operator
  intro other member
  exact counts other (by simp [split, member])

theorem Query.along_limits (counts : ∀ operator ∈ query.operators, operator.Counts) :
    Along (fun draft operator => operator.precedesLimits → draft.outline.isLimited = false)
        (Draft.ascend lookup) (query.opening lookup settings) query.operators ↔
      query.operators.Pairwise fun earlier later => earlier.limits → ¬ later.precedesLimits := by
  apply Query.along_iff_pairwise counts
  intro earlier operator counts
  rw [draftAt_isLimited counts]
  cases operator.precedesLimits <;> simp

theorem Query.along_offsets (counts : ∀ operator ∈ query.operators, operator.Counts) :
    Along (fun draft operator => operator.skips → draft.outline.taken = none)
        (Draft.ascend lookup) (query.opening lookup settings) query.operators ↔
      query.operators.Pairwise fun earlier later => earlier.takes → ¬ later.skips := by
  apply Query.along_iff_pairwise counts
  intro earlier operator counts
  rw [draftAt_taken counts]
  cases operator.skips <;> simp

theorem Query.along_pages (counts : ∀ operator ∈ query.operators, operator.Counts) :
    Along (fun draft operator => operator.taken? = some 0 → draft.outline.skipped = none)
        (Draft.ascend lookup) (query.opening lookup settings) query.operators ↔
      query.operators.Pairwise fun earlier later => earlier.skips → later.taken? ≠ some 0 := by
  apply Query.along_iff_pairwise counts
  intro earlier operator counts
  rw [draftAt_skipped counts]
  by_cases empty : operator.taken? = some 0 <;> simp [empty]

theorem Query.along_joins (mapped : ∀ entity ∈ query.tables, (lookup entity).isSome) :
    Along (fun draft operator => ∀ inner outerKey innerKey,
      operator = .join inner outerKey innerKey →
        inner ∉ draft.tables ∧ ∃ planned, operator.plannedJoin? lookup = some planned ∧
          planned.left.entity ∈ draft.tables ∧ planned.right.entity = inner)
        (Draft.ascend lookup) (query.opening lookup settings) query.operators ↔
      query.tables.Nodup ∧ ∀ earlier inner outerKey innerKey later,
        query.operators = earlier ++ .join inner outerKey innerKey :: later →
          (outerKey.body.columnIn? (lookup.within
            (query.source :: earlier.filterMap Operator.joined?))).isSome ∧
          (innerKey.body.columnIn? (lookup.within [inner])).isSome := by
  have tables := @draftAt_tables lookup settings query
  unfold Query.draftAt at tables
  simp only [Along, tables, Query.tables_nodup_iff, columnIn?_within_isSome, List.mem_singleton]
  refine ⟨?_, ?_⟩
  · intro along
    refine ⟨?_, ?_⟩
    · intro earlier operator later split inner joined
      cases operator <;> cases joined
      exact (along earlier _ later split _ _ _ rfl).1
    · intro earlier inner outerKey innerKey later split
      obtain ⟨_, planned, resolved, member, same⟩ :=
        along earlier _ later split inner outerKey innerKey rfl
      obtain ⟨_, left, right, _, outerIs, innerIs, rfl⟩ :=
        Planning.plannedJoin?_eq_some.mp resolved
      exact ⟨⟨left, outerIs, member⟩, right, innerIs, same⟩
  · intro specified earlier operator later split inner outerKey innerKey same
    subst same
    obtain ⟨fresh, columns⟩ := specified
    obtain ⟨⟨left, outerIs, member⟩, right, innerIs, same⟩ :=
      columns earlier inner outerKey innerKey later split
    have joined : inner ∈ query.tables := by
      simp [Query.tables, split, joined?]
    obtain ⟨table, held⟩ := Option.isSome_iff_exists.mp (mapped inner joined)
    exact ⟨fresh earlier _ later split inner rfl, _,
      Planning.plannedJoin?_eq_some.mpr ⟨table, left, right, held, outerIs, innerIs, rfl⟩,
        member, same⟩

/-- The values of all predicates fit exactly when each predicate's do in its turn. -/
theorem Query.along_predicates :
    Along (fun draft operator => ∀ predicate, operator.predicate? = some predicate →
        ∃ reading, predicate.body.predicate? lookup = some reading ∧ draft.Fits reading.values)
        (Draft.ascend lookup) (query.opening lookup settings) query.operators ↔
      (∀ operator ∈ query.operators, ∀ predicate, operator.predicate? = some predicate →
        (predicate.body.predicate? lookup).isSome) ∧
        (nonNull (query.values lookup)).length ≤ settings.limit := by
  refine ⟨?_, ?_⟩
  · intro along
    refine ⟨?_, ?_⟩
    · intro operator member predicate asks
      obtain ⟨earlier, later, split⟩ := List.append_of_mem member
      obtain ⟨reading, read, _⟩ := along earlier operator later split predicate asks
      exact Option.isSome_iff_exists.mpr ⟨reading, read⟩
    · have start : (query.opening lookup settings).parameters.size ≤ settings.limit := by
        rw [opening_parameters]
        exact Nat.zero_le _
      have kept := along.invariant (fun draft => draft.parameters.limit = settings.limit ∧
        draft.parameters.size ≤ settings.limit) ⟨by rw [opening_parameters]; rfl, start⟩ ?_
      · have final := kept.2
        rw [← Query.draftAt, draftAt_size] at final
        exact final
      · intro draft operator reads kept
        obtain ⟨limit, fits⟩ := kept
        refine ⟨limit, ?_⟩
        change (draft.record (operator.ascentColumns lookup)
          (operator.ascentValues lookup)).parameters.size ≤ settings.limit
        rw [Draft.record_size]
        cases asks : operator.predicate? with
        | none => simpa [ascentValues, reads?, asks] using fits
        | some predicate =>
            obtain ⟨reading, read, room⟩ := reads predicate asks
            rw [ascentValues_of_reads asks read]
            rcases room with unbound | room
            · simpa [unbound] using fits
            · exact limit ▸ room
  · intro specified earlier operator later split predicate asks
    obtain ⟨reads, fits⟩ := specified
    obtain ⟨reading, read⟩ := Option.isSome_iff_exists.mp
      (reads operator (by simp [split]) predicate asks)
    have within : operator.reads? lookup = some reading := by
      simp [reads?, asks, read]
    refine ⟨reading, read, .inr ?_⟩
    rw [← Query.draftAt, draftAt_size, draftAt_limit]
    simp only [Query.values, Query.readings, split, List.filterMap_append,
      List.filterMap_cons, within, List.flatMap_append, List.flatMap_cons, nonNull_append,
      List.length_append] at fits
    omega

theorem Query.counts_iff :
    (∀ operator ∈ query.operators, operator.Counts) ↔
      ∀ count ∈ query.counts, ∃ number : Nat, number < pow2 64 ∧
        count.evaluate = .ok (.number (.int number)) := by
  simp only [Operator.Counts, Query.counts, List.forall_mem_filterMap, evaluateCount_eq_ok]

end Checks

section Acceptance

variable {catalog : Catalog} {settings : Settings} {query : Query}

theorem Query.Walkable.acceptable (walkable : query.Walkable catalog.lookup settings) :
    query.Acceptable catalog settings := by
  have admissible := walkable.admissible
  simp only [Operator.admissible_iff, along_and] at admissible
  obtain ⟨limits, offsets, pages, counts, joins, predicates⟩ := admissible
  have counts := along_always.mp counts
  obtain ⟨distinct, keys⟩ := (Query.along_joins walkable.tables).mp joins
  obtain ⟨reads, fits⟩ := Query.along_predicates.mp predicates
  have references := Query.references_iff.mp walkable.references
  have columns := fun operator member => Operator.resolves_within_iff.mp
    ⟨walkable.resolves operator member, (references operator member).1,
      (references operator member).2.1⟩
  refine {
    mapped := ?_
    distinct
    unlimited := (Query.along_limits counts).mp limits
    offsets := (Query.along_offsets counts).mp offsets
    pages := (Query.along_pages counts).mp pages
    counts := Query.counts_iff.mp counts
    joins := keys
    keys := List.forall_mem_filterMap.mpr fun operator member => (columns operator member).1
    projectors := List.forall_mem_filterMap.mpr fun operator member => (columns operator member).2
    predicates := List.forall_mem_filterMap.mpr ?_
    fits }
  · intro entity member
    obtain ⟨table, held⟩ := Option.isSome_iff_exists.mp (walkable.tables entity member)
    exact ⟨table, Catalog.lookup_eq_some.mp held⟩
  · intro operator member predicate asks
    obtain ⟨reading, read⟩ := Option.isSome_iff_exists.mp (reads operator member predicate asks)
    have within := (references operator member).2.2
    rw [ascentColumns_of_reads asks read] at within
    exact Option.isSome_iff_exists.mpr
      ⟨reading, (Expr.predicate?_within predicate.body).mpr ⟨read, within⟩⟩

theorem Query.Acceptable.joinKeys (acceptable : query.Acceptable catalog settings) {inner : Entity}
    {outerKey innerKey : Lambda} (member : .join inner outerKey innerKey ∈ query.operators) :
    inner ∈ query.tables ∧ ∃ left right,
      outerKey.body.columnIn? (catalog.lookup.within query.tables) = some left ∧
      innerKey.body.columnIn? (catalog.lookup.within query.tables) = some right := by
  obtain ⟨earlier, later, split⟩ := List.append_of_mem member
  have tables : query.tables = (query.source :: earlier.filterMap Operator.joined?) ++
      inner :: later.filterMap Operator.joined? := by
    simp [Query.tables, split, Operator.joined?]
  have joined : inner ∈ query.tables := by
    rw [tables]
    exact List.mem_append_right _ List.mem_cons_self
  obtain ⟨outerColumn, innerColumn⟩ :=
    acceptable.joins earlier inner outerKey innerKey later split
  obtain ⟨left, outerIs, among⟩ := columnIn?_within_isSome.mp outerColumn
  obtain ⟨right, innerIs, same⟩ := columnIn?_within_isSome.mp innerColumn
  refine ⟨joined, left, right, Expr.columnIn?_within.mpr ⟨outerIs, ?_⟩,
    Expr.columnIn?_within.mpr ⟨innerIs, ?_⟩⟩
  · rw [tables]
    exact List.mem_append_left _ among
  · rw [List.mem_singleton.mp same]
    exact joined

/-- The columns that an acceptable query uses on the way up belong to its tables. -/
theorem Query.Acceptable.ascentColumns_within (acceptable : query.Acceptable catalog settings)
    {operator : Operator} (member : operator ∈ query.operators) :
    AllWithin query.tables (operator.ascentColumns catalog.lookup) := by
  cases asks : operator.predicate? with
  | some predicate =>
      obtain ⟨reading, read⟩ := Option.isSome_iff_exists.mp
        (List.forall_mem_filterMap.mp acceptable.predicates operator member predicate asks)
      obtain ⟨read, within⟩ := (Expr.predicate?_within predicate.body).mp read
      rw [ascentColumns_of_reads asks read]
      exact within
  | none =>
      cases operator with
      | join inner outerKey innerKey =>
          obtain ⟨_, left, right, outerIs, innerIs⟩ := acceptable.joinKeys member
          obtain ⟨outerIs, leftAmong⟩ := Expr.columnIn?_within.mp outerIs
          obtain ⟨innerIs, rightAmong⟩ := Expr.columnIn?_within.mp innerIs
          simp only [Operator.ascentColumns, Operator.plannedJoin?, outerIs, innerIs]
          cases catalog.lookup inner with
          | none => simp [Operator.reads?, asks, AllWithin]
          | some table => simp [AllWithin, leftAmong, rightAmong]
      | filter _ | select _ | orderBy _ _ | take _ | skip _ | distinct | first _ _ =>
          simp [Operator.ascentColumns, Operator.plannedJoin?, Operator.reads?, asks, AllWithin]

theorem Query.Acceptable.walkable (acceptable : query.Acceptable catalog settings) :
    query.Walkable catalog.lookup settings := by
  have counts := Query.counts_iff.mpr acceptable.counts
  have tables : ∀ entity ∈ query.tables, (catalog.lookup entity).isSome := by
    intro entity member
    obtain ⟨table, held⟩ := acceptable.mapped entity member
    exact Option.isSome_iff_exists.mpr ⟨table, Catalog.lookup_eq_some.mpr held⟩
  have columns := fun operator member => Operator.resolves_within_iff.mpr
    ⟨List.forall_mem_filterMap.mp acceptable.keys operator member,
      List.forall_mem_filterMap.mp acceptable.projectors operator member⟩
  refine {
    tables
    resolves := fun operator member => (columns operator member).1
    admissible := ?_
    references := Query.references_iff.mpr ?_ }
  · simp only [Operator.admissible_iff, along_and]
    refine ⟨(Query.along_limits counts).mpr acceptable.unlimited,
      (Query.along_offsets counts).mpr acceptable.offsets,
      (Query.along_pages counts).mpr acceptable.pages, along_always.mpr counts,
      (Query.along_joins tables).mpr ⟨acceptable.distinct, acceptable.joins⟩,
      Query.along_predicates.mpr ⟨?_, acceptable.fits⟩⟩
    intro operator member predicate asks
    obtain ⟨reading, read⟩ := Option.isSome_iff_exists.mp
      (List.forall_mem_filterMap.mp acceptable.predicates operator member predicate asks)
    exact Option.isSome_iff_exists.mpr
      ⟨reading, ((Expr.predicate?_within predicate.body).mp read).1⟩
  · intro operator member
    obtain ⟨_, descent, whole⟩ := columns operator member
    exact ⟨descent, whole, acceptable.ascentColumns_within member⟩

theorem mapM_filterMap {α β γ δ : Type} {items : List α} {part : α → Option β}
    {planned : α → Option γ} {text : β → Option δ} {write : γ → δ}
    (agree : ∀ item ∈ items, ∀ asked, part item = some asked →
      ∃ found, planned item = some found ∧ text asked = some (write found))
    (unasked : ∀ item, part item = none → planned item = none) :
    (items.filterMap part).mapM text = some ((items.filterMap planned).map write) := by
  induction items with
  | nil => rfl
  | cons item rest ih =>
      obtain ⟨first, following⟩ := List.forall_mem_cons.mp agree
      cases asked : part item with
      | none => simp [asked, unasked item asked, ih following]
      | some asked' =>
          obtain ⟨found, resolved, written⟩ := first asked' asked
          simp [asked, resolved, written, ih following]

/-- The predicates of an acceptable query read alike over all that agree on its tables. -/
theorem Query.Acceptable.readings (acceptable : query.Acceptable catalog settings) {lookup : Lookup}
    (agrees : lookup.within query.tables = catalog.lookup.within query.tables) :
    query.predicates.mapM (fun predicate => predicate.body.predicate? lookup) =
      some (query.readings catalog.lookup) := by
  rw [← List.map_id (query.readings catalog.lookup)]
  apply mapM_filterMap
  · intro operator member predicate asks
    obtain ⟨reading, read⟩ := Option.isSome_iff_exists.mp
      (List.forall_mem_filterMap.mp acceptable.predicates operator member predicate asks)
    have readToo := read
    rw [← agrees] at readToo
    refine ⟨reading, ?_, ((Expr.predicate?_within predicate.body).mp readToo).1⟩
    simp [Operator.reads?, asks, ((Expr.predicate?_within predicate.body).mp read).1]
  · intro operator none
    simp [Operator.reads?, none]

/-- A query compiles exactly when it is acceptable, whatever was resolved before. -/
theorem Schema.Registry.Reachable.compiles_iff {registry : Registry}
    (reachable : Registry.Reachable catalog registry) (settings : Settings) (query : Query) :
    (∃ compiled, (registry.compile settings query).1 = .ok compiled) ↔
      query.Acceptable catalog settings := by
  rw [Registry.exists_compile_eq_ok, reachable.faithful.catalog_eq]
  exact ⟨Query.Walkable.acceptable, Query.Acceptable.walkable⟩

theorem Sample.query_acceptable : Sample.query.Acceptable Sample.catalog {} := by
  obtain ⟨compiled, after, compiles⟩ := Sample.query_compiles
  exact (Registry.Reachable.compiles_iff .ofCatalog {} Sample.query).mp
    ⟨compiled, congrArg Prod.fst compiles⟩

end Acceptance

end QueryChain
