import Mathlib.Data.List.Forall2
import QueryChain.Proofs.Expr.Rows
import QueryChain.Proofs.Query.Meaning

namespace QueryChain

open Json Schema

/-! What a compiled query takes from its expressions: columns, and values that no row has a part in.

An operand of a comparison or the value of a match is written as a column exactly where it is a
member of a parameter.  Everything else that a statement binds, lists or decides was evaluated
before, and so mentions no parameter at all.
-/

namespace Expr

/-- The operands of comparisons and the values of matches, from left to right, under negations
and connectives. -/
def operands : Expr → List Expr
  | .not operand => operand.operands
  | .connect _ left right => left.operands ++ right.operands
  | .compare _ left right => [left, right]
  | .stringMatch _ _ value => [value]
  | _ => []

/-- The flags and collections under negations and connectives. -/
def settled : Expr → List Expr
  | .not operand => operand.settled
  | .connect _ left right => left.settled ++ right.settled
  | .collectionContains collection _ => [collection]
  | .member target name =>
    if (Expr.column? (.member target name)).isSome then [] else [.member target name]
  | .constant value => [.constant value]
  | .captured name value => [.captured name value]
  | _ => []

end Expr

namespace Sql.Condition

variable {ρ : Type}

/-- What a condition compares and matches, from left to right. -/
def compared : Condition ρ → List (Operand ρ)
  | .connect _ _ left right => left.compared ++ right.compared
  | .compare _ _ left right => [left, right]
  | .like _ _ _ pattern => [pattern]
  | _ => []

end Sql.Condition

namespace Query

def operands (query : Query) : List Expr :=
  query.predicates.flatMap fun predicate => predicate.body.operands

def settled (query : Query) : List Expr :=
  query.predicates.flatMap fun predicate => predicate.body.settled

end Query

/-- How an operand is written: a member of a parameter as its column, and anything else, which
mentions no row, as the value that it evaluates to. -/
inductive Expr.Emits (lookup : Lookup) (parameters : Sql.Parameters) (expr : Expr) :
    Sql.Operand ColumnRef → Prop where
  | column {param : Param} {property : String} {found : ColumnRef}
      (member : expr = .member (.parameter param) property)
      (resolved : expr.columnIn? lookup = some found) : Emits lookup parameters expr (.column found)
  | null (free : expr.mentionsRow = false) (evaluates : expr.evaluate = .ok .null) :
      Emits lookup parameters expr .null
  | placeholder {name : String} {value : Value} (free : expr.mentionsRow = false)
      (evaluates : expr.evaluate = .ok value) (present : value.isNull = false)
      (bound : parameters.get? name = some value) : Emits lookup parameters expr (.placeholder name)

/-- A value that an expression without rows evaluates to, or an element of such a collection. -/
def Expr.Gives (expr : Expr) (value : Value) : Prop :=
  expr.mentionsRow = false ∧
    (expr.evaluate = .ok value ∨ ∃ items, expr.evaluateList = .ok items ∧ value ∈ items)

/-- A compiled query whose operands are written as columns or known values, and which takes
nothing else from an expression that mentions a row. -/
structure Compiled.Grounded (lookup : Lookup) (naming : Naming) (query : Query)
    (compiled : Compiled) : Prop where
  operands : ∃ conditions : List (Sql.Condition ColumnRef),
    compiled.statement.predicate =
      Sql.conjunctionTokens (conditions.map (Sql.Condition.map (ColumnRef.reference naming))) ∧
    List.Forall₂ (Expr.Emits lookup compiled.parameters) query.operands
      (conditions.flatMap Sql.Condition.compared)
  settled : ∀ expr ∈ query.settled, expr.mentionsRow = false
  counts : ∀ count ∈ query.counts, count.mentionsRow = false
  bound : ∀ value ∈ compiled.parameters.values,
    ∃ expr ∈ query.operands ++ query.settled, expr.Gives value

/-- The ways in which a condition reads as a predicate.  What is `known` is a flag without a
column. -/
inductive Expr.ReadsAs (lookup : Lookup) : Expr → Predicate → Prop where
  | not {operand : Expr} {inner : Predicate} (reads : ReadsAs lookup operand inner) :
      ReadsAs lookup (.not operand) (.not inner)
  | connect {left right : Expr} {first second : Predicate} (op : Connective)
      (readsLeft : ReadsAs lookup left first) (readsRight : ReadsAs lookup right second) :
      ReadsAs lookup (.connect op left right) (.connect op first second)
  | compare {left right : Expr} {first second : Term} (op : Comparison)
      (readsLeft : left.term? lookup = some first) (readsRight : right.term? lookup = some second) :
      ReadsAs lookup (.compare op left right) (.compare op first second)
  | like {value : Expr} {pattern : Term} (op : StringOp) (target : Expr) (column : ColumnRef)
      (reads : value.term? lookup = some pattern) :
      ReadsAs lookup (.stringMatch op target value) (.like column op pattern)
  | oneOf {collection : Expr} {values : List Value} (item : Expr) (column : ColumnRef)
      (evaluates : collection.evaluateList = .ok values) :
      ReadsAs lookup (.collectionContains collection item) (.oneOf column values)
  | hasValue (operand : Expr) (column : ColumnRef) :
      ReadsAs lookup (.hasValue operand) (.hasValue column)
  | nullOrEmpty (operand : Expr) (column : ColumnRef) :
      ReadsAs lookup (.isNullOrEmpty operand) (.nullOrEmpty column)
  | flag {target : Expr} {name : String} (column : ColumnRef)
      (named : (Expr.member target name).column?.isSome) :
      ReadsAs lookup (.member target name) (.flag column)
  | known {expr : Expr} {flag : Bool} (operands : expr.operands = [])
      (settled : expr.settled = [expr])
      (evaluates : expr.evaluate = .ok (.bool flag)) : ReadsAs lookup expr (.truth flag)

section Predicates

variable {lookup : Lookup} {expr : Expr} {predicate : Predicate} {parameters : Sql.Parameters}
  {bound : Nat}

theorem Expr.ReadsAs.of_member {target : Expr} {name : String}
    (read : (Expr.member target name).predicate? lookup = some predicate) :
    (Expr.member target name).ReadsAs lookup predicate := by
  simp only [Expr.predicate?] at read
  cases named : (Expr.member target name).column? with
  | none =>
      rw [named] at read
      obtain ⟨flag, evaluates, rfl⟩ := Expr.known?_eq_some.mp read
      exact .known rfl (by simp [Expr.settled, named]) evaluates
  | some member =>
      rw [named] at read
      obtain ⟨column, _, flagged⟩ := Option.bind_eq_some_iff.mp read
      split at flagged
      · cases flagged
        exact .flag column (by simp [named])
      · cases flagged

theorem Expr.ReadsAs.of_collectionContains {collection item : Expr}
    (read : (Expr.collectionContains collection item).predicate? lookup = some predicate) :
    (Expr.collectionContains collection item).ReadsAs lookup predicate := by
  obtain ⟨column, _, read⟩ := Option.bind_eq_some_iff.mp read
  obtain ⟨values, evaluated, same⟩ := Option.bind_eq_some_iff.mp read
  cases same
  cases outcome : collection.evaluateList with
  | error cause => simp [outcome, Except.toOption] at evaluated
  | ok items =>
      rw [outcome] at evaluated
      cases evaluated
      exact .oneOf item column outcome

theorem Expr.ReadsAs.of_predicate? : (expr : Expr) → {predicate : Predicate} →
    (read : expr.predicate? lookup = some predicate) → expr.ReadsAs lookup predicate
  | .not operand, _, read => by
      obtain ⟨inner, readInner, same⟩ := Option.bind_eq_some_iff.mp read
      cases same
      exact .not (of_predicate? operand readInner)
  | .connect op left right, _, read => by
      obtain ⟨first, readLeft, read⟩ := Option.bind_eq_some_iff.mp read
      obtain ⟨second, readRight, same⟩ := Option.bind_eq_some_iff.mp read
      cases same
      exact .connect op (of_predicate? left readLeft) (of_predicate? right readRight)
  | .compare op left right, _, read => by
      obtain ⟨first, readLeft, read⟩ := Option.bind_eq_some_iff.mp read
      obtain ⟨second, readRight, same⟩ := Option.bind_eq_some_iff.mp read
      cases same
      exact .compare op readLeft readRight
  | .stringMatch op target value, _, read => by
      obtain ⟨column, _, read⟩ := Option.bind_eq_some_iff.mp read
      obtain ⟨pattern, readPattern, same⟩ := Option.bind_eq_some_iff.mp read
      cases same
      exact .like op target column readPattern
  | .collectionContains collection item, _, read => .of_collectionContains read
  | .member target name, _, read => .of_member read
  | .constant _, _, read | .captured _ _, _, read => by
      obtain ⟨flag, evaluates, rfl⟩ := Expr.known?_eq_some.mp read
      exact .known rfl rfl evaluates
  | .hasValue operand, _, read => by
      obtain ⟨column, _, rfl⟩ := Option.map_eq_some_iff.mp read
      exact .hasValue operand column
  | .isNullOrEmpty operand, _, read => by
      obtain ⟨column, _, rfl⟩ := Option.map_eq_some_iff.mp read
      exact .nullOrEmpty operand column

theorem emits_term {term : Term} (read : expr.term? lookup = some term)
    (held : parameters.HoldAt bound term.values) :
    expr.Emits lookup parameters (term.operand parameters.stem bound) := by
  obtain ⟨param, property, found, shape, resolved, rfl⟩ | ⟨value, evaluates, rfl⟩ :=
    Expr.term?_cases read
  · exact .column shape resolved
  · have free := Expr.mentionsRow_of_evaluate evaluates
    simp only [Term.operand, valueOperand]
    cases null : value.isNull with
    | true =>
        cases value with
        | null => exact .null free evaluates
        | bool _ | number _ | string _ | array _ | object _ => cases null
    | false =>
        obtain ⟨earlier, later, rfl, values⟩ := held
        refine .placeholder free evaluates null ?_
        simp [parameters.get?_nameFrom, values, Term.values, nonNull, null]

theorem emits_condition (reads : expr.ReadsAs lookup predicate) (negated : Bool)
    (held : parameters.HoldAt bound predicate.values) :
    List.Forall₂ (Expr.Emits lookup parameters) expr.operands
      (predicate.condition parameters.stem negated bound).compared := by
  induction reads generalizing negated bound with
  | not _ ih => exact ih (!negated) held
  | connect op _ _ ihLeft ihRight =>
      obtain ⟨heldFirst, heldSecond⟩ := HoldAt.append held
      exact List.rel_append (ihLeft false heldFirst) (ihRight false heldSecond)
  | compare op readsLeft readsRight =>
      obtain ⟨heldFirst, heldSecond⟩ := HoldAt.append held
      exact .cons (emits_term readsLeft heldFirst) (.cons (emits_term readsRight heldSecond) .nil)
  | like op target column reads => exact .cons (emits_term reads held) .nil
  | oneOf item column _ =>
      simp only [Predicate.condition]
      split <;> exact .nil
  | hasValue _ _ | nullOrEmpty _ _ | flag _ _ => exact .nil
  | known operands _ _ =>
      rw [operands]
      exact .nil

/-- The conditions of predicates compare what the operands of the predicates are written as. -/
theorem emits_conditions {predicates : List Lambda} {readings : List Predicate}
    (read : predicates.mapM (fun predicate => predicate.body.predicate? lookup) = some readings)
    (held : parameters.HoldAt bound (readings.flatMap Predicate.values)) :
    List.Forall₂ (Expr.Emits lookup parameters)
      (predicates.flatMap fun predicate => predicate.body.operands)
      ((conditionsFrom parameters.stem bound readings).flatMap Sql.Condition.compared) := by
  induction predicates generalizing readings bound with
  | nil =>
      cases read
      exact .nil
  | cons predicate rest ih =>
      rw [List.mapM_cons] at read
      obtain ⟨first, readFirst, read⟩ := Option.bind_eq_some_iff.mp read
      obtain ⟨following, readRest, same⟩ := Option.bind_eq_some_iff.mp read
      cases same
      obtain ⟨heldFirst, heldRest⟩ := HoldAt.append held
      exact List.rel_append
        (emits_condition (.of_predicate? predicate.body readFirst) false heldFirst)
        (ih readRest heldRest)

theorem settled_free (reads : expr.ReadsAs lookup predicate) :
    ∀ known ∈ expr.settled, known.mentionsRow = false := by
  induction reads with
  | not _ ih => exact ih
  | connect op _ _ ihLeft ihRight => exact List.forall_mem_append.mpr ⟨ihLeft, ihRight⟩
  | compare _ _ _ | like _ _ _ _ | hasValue _ _ | nullOrEmpty _ _ => simp [Expr.settled]
  | oneOf item column evaluates =>
      exact List.forall_mem_singleton.mpr (Expr.mentionsRow_of_evaluateList evaluates)
  | flag column named => simp [Expr.settled, named]
  | known _ settled evaluates =>
      rw [settled]
      exact List.forall_mem_singleton.mpr (Expr.mentionsRow_of_evaluate evaluates)

theorem gives_term {term : Term} (read : expr.term? lookup = some term) :
    ∀ value ∈ term.values, expr.Gives value := by
  obtain ⟨_, _, _, _, _, rfl⟩ | ⟨value, evaluates, rfl⟩ := Expr.term?_cases read
  · simp [Term.values]
  · exact List.forall_mem_singleton.mpr
      ⟨Expr.mentionsRow_of_evaluate evaluates, .inl evaluates⟩

theorem gives_predicate (reads : expr.ReadsAs lookup predicate) : ∀ value ∈ predicate.values,
    ∃ source ∈ expr.operands ++ expr.settled, source.Gives value := by
  induction reads with
  | not _ ih => exact ih
  | connect op _ _ ihLeft ihRight =>
      simp only [Predicate.values, Expr.operands, Expr.settled, List.mem_append] at *
      grind
  | @compare left right _ _ op readsLeft readsRight =>
      refine List.forall_mem_append.mpr ⟨?_, ?_⟩
      · intro value member
        exact ⟨left, by simp [Expr.operands], gives_term readsLeft value member⟩
      · intro value member
        exact ⟨right, by simp [Expr.operands], gives_term readsRight value member⟩
  | @like matched _ op target column reads =>
      intro value member
      exact ⟨matched, by simp [Expr.operands], gives_term reads value member⟩
  | @oneOf collection values item column evaluates =>
      intro value member
      exact ⟨collection, by simp [Expr.settled], Expr.mentionsRow_of_evaluateList evaluates,
        .inr ⟨values, evaluates, member⟩⟩
  | hasValue _ _ | nullOrEmpty _ _ | flag _ _ | known _ _ _ => simp [Predicate.values]

end Predicates

section Compiling

variable {catalog : Catalog} {registry : Registry}

/-- An operand that is written is a member of a parameter or mentions no row. -/
theorem Expr.Emits.column?_or_free {lookup : Lookup} {parameters : Sql.Parameters} {expr : Expr}
    {operand : Sql.Operand ColumnRef} (emits : expr.Emits lookup parameters operand) :
    expr.column? = none → expr.mentionsRow = false := by
  intro unnamed
  cases emits with
  | column member resolved =>
      rw [member] at unnamed
      cases unnamed
  | null free evaluates => exact free
  | placeholder free evaluates present bound => exact free

theorem Query.Acceptable.settled_free {settings : Settings} {query : Query}
    (acceptable : query.Acceptable catalog settings) :
    ∀ expr ∈ query.settled, expr.mentionsRow = false := by
  intro expr member
  obtain ⟨predicate, asked, within⟩ := List.mem_flatMap.mp member
  obtain ⟨reading, read⟩ := Option.isSome_iff_exists.mp (acceptable.predicates predicate asked)
  exact QueryChain.settled_free (.of_predicate? predicate.body read) expr within

theorem Query.Acceptable.counts_free {settings : Settings} {query : Query}
    (acceptable : query.Acceptable catalog settings) :
    ∀ count ∈ query.counts, count.mentionsRow = false := by
  intro count member
  obtain ⟨number, _, evaluates⟩ := acceptable.counts count member
  exact Expr.mentionsRow_of_evaluate evaluates

theorem Schema.Registry.Reachable.grounded (reachable : Registry.Reachable catalog registry)
    {settings : Settings} {query : Query} {compiled : Compiled} {after : Registry}
    (compiles : registry.compile settings query = (.ok compiled, after)) :
    compiled.Grounded catalog.lookup after.aliasOf query := by
  obtain ⟨plan, walkable, planned, rfl, names⟩ := reachable.compiled_planned compiles
  have acceptable := walkable.acceptable
  have readings := acceptable.readings rfl
  have parameters : (plan.compiled after.aliasOf).parameters =
      ⟨settings.stem, settings.limit, nonNull (query.values catalog.lookup)⟩ :=
        planned.parameters
  refine {
    operands := ⟨conditionsFrom settings.stem 0 (query.readings catalog.lookup),
      planned.predicate after.aliasOf, ?_⟩
    settled := acceptable.settled_free
    counts := acceptable.counts_free
    bound := ?_ }
  · rw [parameters]
    exact emits_conditions readings ⟨[], [], rfl, (List.append_nil _).symm⟩
  · rw [parameters]
    intro value member
    have written : value ∈ query.values catalog.lookup := List.mem_of_mem_filter member
    obtain ⟨reading, read, among⟩ := List.mem_flatMap.mp written
    obtain ⟨operator, applied, reads⟩ := List.mem_filterMap.mp read
    obtain ⟨predicate, asks, read⟩ := Option.bind_eq_some_iff.mp reads
    obtain ⟨expr, within, gives⟩ :=
      gives_predicate (.of_predicate? predicate.body read) value among
    have asked : predicate ∈ query.predicates :=
      List.mem_filterMap.mpr ⟨operator, applied, asks⟩
    refine ⟨expr, ?_, gives⟩
    rcases List.mem_append.mp within with compared | known
    · exact List.mem_append_left _ (List.mem_flatMap.mpr ⟨predicate, asked, compared⟩)
    · exact List.mem_append_right _ (List.mem_flatMap.mpr ⟨predicate, asked, known⟩)

/-- An expression that mentions a row does not evaluate, and so nothing that a compiled query
binds, lists, decides or counts mentions one.  A query that would need such a value, where no
column can be written, does not compile. -/
theorem Schema.Registry.Reachable.rows_unevaluated (reachable : Registry.Reachable catalog registry)
    (settings : Settings) (query : Query) :
    (∀ expr : Expr, expr.mentionsRow = true →
      (∃ cause, expr.evaluate = .error (.malformed cause)) ∧
      (∃ cause, expr.evaluateList = .error (.malformed cause)) ∧
      ∃ cause, expr.evaluateCount = .error (.malformed cause)) ∧
    (∀ compiled after, registry.compile settings query = (.ok compiled, after) →
      compiled.Grounded catalog.lookup after.aliasOf query) ∧
    (∀ expr ∈ query.operands, expr.mentionsRow = true → expr.column? = none →
      ∃ error, (registry.compile settings query).1 = .error error) ∧
    ∀ expr ∈ query.settled ++ query.counts, expr.mentionsRow = true →
      ∃ error, (registry.compile settings query).1 = .error error := by
  refine ⟨?_, fun compiled after => reachable.grounded, ?_, ?_⟩
  · intro expr mentions
    exact ⟨Expr.evaluate_of_mentionsRow mentions, Expr.evaluateList_of_mentionsRow mentions,
      Expr.evaluateCount_of_mentionsRow mentions⟩
  · intro expr member mentions unnamed
    cases outcome : (registry.compile settings query).1 with
    | error error => exact ⟨error, rfl⟩
    | ok compiled =>
        obtain ⟨conditions, _, emitted⟩ := (reachable.grounded (Prod.ext outcome rfl)).operands
        have each := (List.forall₂_and_left _ _).mp
          (emitted.imp fun _ _ emits => ⟨emits.column?_or_free, emits⟩)
        cases mentions.symm.trans (each.1 expr member unnamed)
  · intro expr member mentions
    cases outcome : (registry.compile settings query).1 with
    | error error => exact ⟨error, rfl⟩
    | ok compiled =>
        have grounded := reachable.grounded (Prod.ext outcome rfl)
        have free := List.forall_mem_append.mpr ⟨grounded.settled, grounded.counts⟩
        cases mentions.symm.trans (free expr member)

end Compiling

namespace Sample

/-- The players that are called what the test of their name comes to. -/
def rowDependent : Query :=
  ⟨players, [.filter ⟨[player],
    .compare .eq (.field player "Name") (.isNullOrEmpty (.field player "Name"))⟩]⟩

/-- Of the sample chain one operand is a column, and the value beside it mentions no row.  The
test of a name is no value, and neither is a disjunction that holds whatever the test gives. -/
theorem query_grounded :
    (∃ compiled after, (Registry.ofCatalog catalog).compile {} query = (.ok compiled, after) ∧
      query.operands = [.field player "Name", .captured "name" (.string "Ada")] ∧
      compiled.Grounded catalog.lookup after.aliasOf query) ∧
    (∃ error, ((Registry.ofCatalog catalog).compile {} rowDependent).1 = .error error) ∧
    ∃ cause, (Expr.connect .or (.constant (.bool true))
      (.isNullOrEmpty (.field player "Name"))).evaluate = .error (.malformed cause) := by
  obtain ⟨compiled, after, compiles⟩ := query_compiles
  have tested : .isNullOrEmpty (.field player "Name") ∈ rowDependent.operands := by
    simp [Query.operands, Query.predicates, rowDependent, Operator.predicate?, Expr.operands]
  have reachable : Registry.Reachable catalog (.ofCatalog catalog) := .ofCatalog
  refine ⟨⟨compiled, after, compiles, rfl, ?_⟩, ?_, ?_⟩
  · exact (Registry.Reachable.rows_unevaluated reachable {} query).2.1 compiled after compiles
  · exact (Registry.Reachable.rows_unevaluated reachable {} rowDependent).2.2.1 _ tested rfl rfl
  · exact ((Registry.Reachable.rows_unevaluated reachable {} query).1 _ rfl).1

end Sample

end QueryChain
