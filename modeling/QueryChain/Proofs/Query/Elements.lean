import QueryChain.Proofs.Bag
import QueryChain.Proofs.Query.Meaning

namespace QueryChain

open Json Schema Sql

/-! What a chain over one table finds, as a bag of elements.

Filters, projections and distinct operators act on the bag one after another.  The elements
themselves do not depend on what is removed before the end, only how often each occurs.
-/

section Elements

variable {δ : Type}

/-- A row of a table, by the names of the columns; null is the absence of a value. -/
abbrev TableRow (δ : Type) := String → Option δ

/-- An element of a chain: the fields of an entity by property, or one value after a projection. -/
inductive Element (δ : Type) where
  | record (fields : Dictionary String (Option δ))
  | value (value : Option δ)
deriving DecidableEq

namespace Element

def ofRow (table : Table) (row : TableRow δ) : Element δ :=
  .record (table.columns.map fun column => (column.property, row column.name))

def field (element : Element δ) (column : ColumnRef) : Option δ :=
  match element with
  | .record fields => (Dictionary.get? column.column.property fields).join
  | .value _ => none

/-- An element as a row of a result. -/
def fields : Element δ → List (Option δ)
  | .record fields => fields.map Prod.snd
  | .value known => [known]

end Element

variable [DecidableEq δ] (lookup : Lookup) (interpretation : Interpretation δ)

/-- Whether predicates all hold of an element. -/
def Element.satisfies (readings : List Predicate) (element : Element δ) : Bool :=
  readings.all fun reading => reading.meaning interpretation element.field = .yes

/-- The column of which a projection keeps the values. -/
def Operator.member? : Operator → Option ColumnRef
  | .select projector => projector.body.columnIn? lookup
  | _ => none

def Lambda.accepts (predicate : Lambda) (element : Element δ) : Bool :=
  (predicate.body.predicate? lookup).any fun reading => element.satisfies interpretation [reading]

/-- A projection onto a column keeps its values, and one onto the entity keeps the elements. -/
def Lambda.project (projector : Lambda) (elements : Multiset (Element δ)) :
    Multiset (Element δ) :=
  match projector.body.columnIn? lookup with
  | some column => elements.map fun element => .value (element.field column)
  | none => elements

/-- What an operator makes of the elements before it. -/
def Operator.elements (operator : Operator) (elements : Multiset (Element δ)) :
    Multiset (Element δ) :=
  match operator with
  | .filter predicate => elements.filter fun element =>
      predicate.accepts lookup interpretation element
  | .select projector => projector.project lookup elements
  | .distinct => elements.dedup
  | _ => elements

def elementsAfter (operators : List Operator) (elements : Multiset (Element δ)) :
    Multiset (Element δ) :=
  operators.foldl (fun elements operator => operator.elements lookup interpretation elements)
    elements

/-- The results that a chain asks for, over the rows of its table. -/
def Query.results (query : Query) (table : Table) (rows : Multiset (TableRow δ)) :
    Multiset (List (Option δ)) :=
  (elementsAfter lookup interpretation query.operators (rows.map (Element.ofRow table))).map
    Element.fields

end Elements

section Chains

variable {δ : Type} [DecidableEq δ] {lookup : Lookup} {interpretation : Interpretation δ}
  {operators : List Operator} {elements : Multiset (Element δ)}

theorem elementsAfter_append (earlier later : List Operator) :
    elementsAfter lookup interpretation (earlier ++ later) elements =
      elementsAfter lookup interpretation later
        (elementsAfter lookup interpretation earlier elements) := List.foldl_append ..

theorem Operator.elements_agree {removed : Bool} {found asked : Multiset (Element δ)}
    (agree : Agree removed found asked) {operator : Operator} (kept : operator.isDistinct = false) :
    Agree removed (operator.elements lookup interpretation found)
      (operator.elements lookup interpretation asked) := by
  cases operator with
  | distinct => cases kept
  | filter predicate => exact agree.filter _
  | select projector =>
      change Agree removed (projector.project lookup found) (projector.project lookup asked)
      unfold Lambda.project
      cases projector.body.columnIn? lookup with
      | none => exact agree
      | some column => exact agree.map _
  | join _ _ _ | orderBy _ _ | take _ | skip _ | first _ _ => exact agree

/-- A chain finds the elements that it would find without removing duplicates, and if it does not
ask to remove any, as often. -/
theorem elementsAfter_agree {removed : Bool} {found asked : Multiset (Element δ)}
    (agree : Agree removed found asked) :
    Agree (removed || operators.any Operator.isDistinct)
      (elementsAfter lookup interpretation operators found)
      (elementsAfter lookup interpretation (operators.filter fun operator => !operator.isDistinct)
        asked) := by
  induction operators generalizing removed found asked with
  | nil =>
      rw [List.any_nil, Bool.or_false]
      exact agree
  | cons operator rest ih =>
      cases kept : operator.isDistinct with
      | true =>
          cases operator <;> cases kept
          rw [List.any_cons, List.filter_cons_of_neg (by decide)]
          have step := ih agree.dedup
          rw [Bool.true_or] at step
          rw [Operator.isDistinct, Bool.true_or, Bool.or_true]
          exact step
      | false =>
          rw [List.any_cons, kept, Bool.false_or, List.filter_cons_of_pos (by rw [kept]; rfl)]
          exact ih (Operator.elements_agree agree kept)

/-- Operators that keep or leave out elements as they are. -/
structure Operator.Filters (lookup : Lookup) (operator : Operator) : Prop where
  whole : operator.member? lookup = none
  kept : operator.isDistinct = false
  unlimited : operator.limits = false
  reads : ∀ predicate, operator.predicate? = some predicate →
    (predicate.body.predicate? lookup).isSome

theorem satisfies_nil :
    elements.filter (fun element => element.satisfies interpretation []) = elements :=
  Multiset.filter_eq_self.mpr fun _ _ => rfl

theorem satisfies_append (first rest : List Predicate) (element : Element δ) :
    element.satisfies interpretation (first ++ rest) =
      (element.satisfies interpretation first && element.satisfies interpretation rest) :=
  List.all_append

theorem Operator.Filters.elements_eq {operator : Operator} (filters : operator.Filters lookup) :
    operator.elements lookup interpretation elements = elements.filter fun element =>
      element.satisfies interpretation (operator.reads? lookup).toList := by
  cases operator with
  | filter predicate =>
      obtain ⟨reading, read⟩ := Option.isSome_iff_exists.mp (filters.reads predicate rfl)
      have reads : (Operator.filter predicate).reads? lookup = some reading := read
      simp only [Operator.elements, Lambda.accepts, read, reads,
        Option.any_some, Option.toList_some]
  | select projector =>
      have whole : projector.body.columnIn? lookup = none := filters.whole
      have kept : projector.project lookup elements = elements := by
        simp only [Lambda.project, whole]
      exact kept.trans satisfies_nil.symm
  | join _ _ _ | orderBy _ _ => exact satisfies_nil.symm
  | distinct => cases filters.kept
  | take _ | skip _ | first _ _ => cases filters.unlimited

theorem elementsAfter_filter (filters : ∀ operator ∈ operators, operator.Filters lookup) :
    elementsAfter lookup interpretation operators elements =
      elements.filter fun element =>
        element.satisfies interpretation (operators.filterMap (Operator.reads? lookup)) := by
  induction operators generalizing elements with
  | nil => exact satisfies_nil.symm
  | cons operator rest ih =>
      obtain ⟨first, following⟩ := List.forall_mem_cons.mp filters
      have reads : (operator :: rest).filterMap (Operator.reads? lookup) =
          (operator.reads? lookup).toList ++ rest.filterMap (Operator.reads? lookup) := by
        cases read : operator.reads? lookup <;> simp [read]
      have step : elementsAfter lookup interpretation (operator :: rest) elements =
          elementsAfter lookup interpretation rest
            (operator.elements lookup interpretation elements) := rfl
      rw [step, first.elements_eq, ih following, Multiset.filter_filter, reads]
      refine Multiset.filter_congr ?_
      intro element _
      rw [satisfies_append, Bool.and_eq_true, and_comm]

theorem Operator.elements_nodup {operator : Operator} (whole : operator.member? lookup = none)
    (nodup : elements.Nodup) : (operator.elements lookup interpretation elements).Nodup := by
  cases operator with
  | distinct => exact Multiset.nodup_dedup _
  | filter predicate => exact nodup.filter _
  | select projector =>
      have whole : projector.body.columnIn? lookup = none := whole
      simpa only [Operator.elements, Lambda.project, whole] using nodup
  | join _ _ _ | orderBy _ _ | take _ | skip _ | first _ _ => exact nodup

theorem elementsAfter_nodup (lookup : Lookup) (interpretation : Interpretation δ)
    (whole : ∀ operator ∈ operators, operator.member? lookup = none)
    (nodup : elements.Nodup) : (elementsAfter lookup interpretation operators elements).Nodup := by
  induction operators generalizing elements with
  | nil => exact nodup
  | cons operator rest ih =>
      obtain ⟨first, following⟩ := List.forall_mem_cons.mp whole
      exact ih following (Operator.elements_nodup first nodup)

/-- A distinct operator that no projection follows leaves no duplicates. -/
theorem elementsAfter_distinct (lookup : Lookup) (interpretation : Interpretation δ)
    (elements : Multiset (Element δ)) {later : List Operator}
    (distinct : later.any Operator.isDistinct)
    (whole : ∀ operator ∈ later, operator.member? lookup = none) (earlier : List Operator) :
    (elementsAfter lookup interpretation (earlier ++ later) elements).Nodup := by
  obtain ⟨operator, member, removes⟩ := List.any_eq_true.mp distinct
  obtain ⟨before, after, rfl⟩ := List.append_of_mem member
  cases operator <;> cases removes
  have following : ∀ operator ∈ after, operator.member? lookup = none := fun operator listed =>
    whole operator (List.mem_append_right _ (List.mem_cons_of_mem _ listed))
  rw [← List.append_assoc, elementsAfter_append]
  have removed :=
    Multiset.nodup_dedup (elementsAfter lookup interpretation (earlier ++ before) elements)
  have left := elementsAfter_nodup lookup interpretation following removed
  exact left

/-- The operators of a chain other than those that remove duplicates. -/
def keeping (operators : List Operator) : List Operator :=
  operators.filter fun operator => !operator.isDistinct

theorem keeping_reads (lookup : Lookup) (operators : List Operator) :
    (keeping operators).filterMap (Operator.reads? lookup) =
      operators.filterMap (Operator.reads? lookup) := by
  rw [keeping, List.filterMap_filter]
  refine List.filterMap_congr ?_
  intro operator _
  cases operator <;> rfl

theorem Query.elements_agree (query : Query) (lookup : Lookup) (interpretation : Interpretation δ)
    (elements : Multiset (Element δ)) :
    Agree query.isDistinct (elementsAfter lookup interpretation query.operators elements)
      (elementsAfter lookup interpretation (keeping query.operators) elements) := by
  have same : Agree false elements elements := ⟨fun _ => Iff.rfl, fun _ => rfl⟩
  exact elementsAfter_agree same

end Chains

section Records

variable {δ : Type} {table : Table}

theorem get?_map_find? {α : Type} (columns : List Column) (f : Column → α) (property : String) :
    Dictionary.get? property (columns.map fun column => (column.property, f column)) =
      (columns.find? fun column => column.property = property).map f := by
  induction columns with
  | nil => rfl
  | cons column rest ih =>
      by_cases named : column.property = property
      · simp [Dictionary.get?, named]
      · simp [Dictionary.get?, named, ih]

/-- A record gives a column the value that the row has in it. -/
theorem Element.field_ofRow (row : TableRow δ) {column : ColumnRef}
    (mapped : table.column? column.column.property = some column.column) :
    (Element.ofRow table row).field column = row column.column.name := by
  have found := get?_map_find? table.columns (fun column => row column.name) column.column.property
  rw [Schema.Table.column?] at mapped
  rw [mapped] at found
  exact congrArg Option.join found

theorem Element.fields_ofRow (row : TableRow δ) :
    (Element.ofRow table row).fields = table.columns.map fun column => row column.name := by
  simp only [Element.ofRow, Element.fields, List.map_map, Function.comp_def]

/-- Rows with the same fields make the same record. -/
theorem Element.ofRow_inj {row other : TableRow δ}
    (same : (Element.ofRow table row).fields = (Element.ofRow table other).fields) :
    Element.ofRow table row = Element.ofRow table other := by
  rw [fields_ofRow, fields_ofRow, List.map_inj_left] at same
  refine congrArg Element.record (List.map_inj_left.mpr ?_)
  intro column declared
  rw [same column declared]

theorem Predicate.meaning_congr [DecidableEq δ] {interpretation : Interpretation δ}
    {row other : ColumnRef → Option δ} (predicate : Predicate)
    (same : ∀ column ∈ predicate.columns, row column = other column) :
    predicate.meaning interpretation row = predicate.meaning interpretation other := by
  have term_congr : ∀ term : Term, (∀ column ∈ term.columns, row column = other column) →
      term.meaning interpretation row = term.meaning interpretation other := by
    intro term same
    cases term with
    | column found => exact same found (List.mem_singleton_self found)
    | value known => rfl
  induction predicate with
  | truth value => rfl
  | compare op left right =>
      obtain ⟨leftSame, rightSame⟩ := List.forall_mem_append.mp same
      simp only [meaning, term_congr left leftSame, term_congr right rightSame]
  | connect op left right ihLeft ihRight =>
      obtain ⟨leftSame, rightSame⟩ := List.forall_mem_append.mp same
      cases op <;> simp only [meaning, ihLeft leftSame, ihRight rightSame]
  | not operand ih => simp only [meaning, ih same]
  | flag column | hasValue column | oneOf column values | nullOrEmpty column =>
      simp only [meaning, same column (List.mem_singleton_self column)]
  | like column op pattern =>
      obtain ⟨first, following⟩ := List.forall_mem_cons.mp same
      simp only [meaning, first, term_congr pattern following]

end Records

end QueryChain
