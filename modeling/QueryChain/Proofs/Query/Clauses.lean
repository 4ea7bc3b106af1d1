import QueryChain.Proofs.Query.Acceptance

namespace QueryChain

open Json Schema

/-! The text of a compiled query, clause by clause.

`Query.sqlText?` writes a chain with the names that the descriptors of a registry
give to its columns.  It takes the operators in the order of writing, one kind after
the other.
-/

def valueText (stem : String) (bound : Nat) (value : Value) : String :=
  if value.isNull then "NULL" else "@" ++ stem ++ toString (bound + 1)

def valueTexts (stem : String) : Nat → List Value → List String
  | _, [] => []
  | bound, value :: rest =>
    valueText stem bound value :: valueTexts stem (bound + (nonNull [value]).length) rest

def Term.text (spell : ColumnRef → String) (stem : String) (bound : Nat) : Term → String
  | .column found => spell found
  | .value known => valueText stem bound known

def truthText (value : Bool) : String := if value then "1 = 1" else "1 = 0"

def comparisonText : Comparison → String
  | .eq => " = "
  | .ne => " <> "
  | .lt => " < "
  | .le => " <= "
  | .gt => " > "
  | .ge => " >= "

def connectiveText : Connective → String
  | .and => " AND "
  | .or => " OR "

/-- A text that is looked for, with a wildcard wherever others may surround it. -/
def patternText (text : String) : StringOp → String
  | .contains => "'%'+" ++ text ++ "+'%'"
  | .startsWith => text ++ "+'%'"
  | .endsWith => "'%'+" ++ text

/-- The text of a predicate, or of its negation, when `bound` values are bound
before it. -/
def Predicate.text (spell : ColumnRef → String) (stem : String) (negated : Bool) (bound : Nat) :
    Predicate → String
  | .truth value => truthText (value != negated)
  | .compare op left right =>
    (if negated then "NOT " else "") ++ "(" ++ left.text spell stem bound ++ comparisonText op
      ++ right.text spell stem (bound + (nonNull left.values).length) ++ ")"
  | .connect op left right =>
    (if negated then "NOT " else "") ++ "(" ++ left.text spell stem false bound ++ connectiveText op
      ++ right.text spell stem false (bound + (nonNull left.values).length) ++ ")"
  | .not operand => operand.text spell stem (!negated) bound
  | .flag column => spell column ++ (if negated then " = 0" else " <> 0")
  | .hasValue column => spell column ++ (if negated then " IS NULL" else " IS NOT NULL")
  | .like column op pattern =>
    spell column ++ (if negated then " NOT LIKE " else " LIKE ")
      ++ patternText (pattern.text spell stem bound) op
  | .oneOf column values =>
    if values.isEmpty then truthText negated
    else spell column ++ (if negated then " NOT IN " else " IN ") ++ "("
      ++ ", ".intercalate (valueTexts stem bound values) ++ ")"
  | .nullOrEmpty column =>
    "ISNULL(" ++ spell column ++ ", '') " ++ (if negated then "<>" else "=") ++ " ''"

def predicateTexts (spell : ColumnRef → String) (stem : String) :
    Nat → List Predicate → List String
  | _, [] => []
  | bound, predicate :: rest =>
    predicate.text spell stem false bound ::
      predicateTexts spell stem (bound + (nonNull predicate.values).length) rest

namespace Schema.Registry

variable (registry : Registry)

/-- A column under the alias of its table. -/
def columnText (column : ColumnRef) : String :=
  registry.aliasOf column.entity ++ ".[" ++ column.column.name ++ "]"

def memberText? (expr : Expr) : Option String :=
  (expr.columnIn? registry.lookup).map registry.columnText

def sourceText? (entity : Entity) : Option String :=
  (registry.find? entity).map fun descriptor =>
    "[" ++ descriptor.table.name ++ "] " ++ descriptor.qualifier

/-- All columns of an entity in the order in which they are declared. -/
def columnsText? (entity : Entity) : Option String :=
  (registry.find? entity).map fun descriptor =>
    ",".intercalate
      (descriptor.table.columns.map fun column => registry.columnText ⟨entity, column⟩)

def projectionText? (projector : Lambda) : Option String :=
  match projector.body with
  | .parameter param => registry.columnsText? param.entity
  | body => registry.memberText? body

def joinText? : Entity × Lambda × Lambda → Option String
  | (inner, outerKey, innerKey) => do
    let source ← registry.sourceText? inner
    let left ← registry.memberText? outerKey.body
    let right ← registry.memberText? innerKey.body
    return " JOIN " ++ source ++ " ON " ++ left ++ " = " ++ right

def keyText? : Lambda × Direction → Option String
  | (key, direction) => do
    let column ← registry.memberText? key.body
    return column ++ (if direction = .descending then " DESC" else "")

end Schema.Registry

namespace Query

variable (registry : Registry) (query : Query)

/-- What the select operator written last selects, or else the source. -/
def selectText? : Option String :=
  match query.projectors.getLast? with
  | some projector => registry.projectionText? projector
  | none => registry.columnsText? query.source

def topText : String :=
  match query.offset?, query.limit? with
  | none, some count => "TOP(" ++ toString count ++ ") "
  | _, _ => ""

def whereText (texts : List String) : String :=
  if texts.isEmpty then "" else " WHERE " ++ " AND ".intercalate texts

/-- An offset without sort keys takes an arbitrary order. -/
def orderText (keys : List String) : String :=
  if keys.isEmpty then if query.offset?.isSome then " ORDER BY (SELECT NULL)" else ""
  else " ORDER BY " ++ ", ".intercalate keys

def pageText : String :=
  match query.offset?, query.limit? with
  | none, _ => ""
  | some offset, none => " OFFSET " ++ toString offset ++ " ROWS"
  | some offset, some count =>
    " OFFSET " ++ toString offset ++ " ROWS FETCH NEXT " ++ toString count ++ " ROWS ONLY"

def sqlText? (stem : String) : Option String := do
  let columns ← query.selectText? registry
  let source ← registry.sourceText? query.source
  let joins ← query.joins.mapM registry.joinText?
  let predicates ← query.predicates.mapM fun predicate =>
    predicate.body.predicate? registry.lookup
  let keys ← query.sortKeys.mapM registry.keyText?
  return "SELECT " ++ query.topText ++ (if query.isDistinct then "DISTINCT " else "") ++ columns
    ++ " FROM " ++ source ++ String.join joins
    ++ whereText (predicateTexts registry.columnText stem 0 predicates)
    ++ query.orderText keys ++ query.pageText

end Query

namespace Sql

variable {ρ : Type} {spell : ρ → String}

@[simp] theorem opening_text : (Token.opening : Token ρ).text spell = "(" := rfl

@[simp] theorem closing_text : (Token.closing : Token ρ).text spell = ")" := rfl

@[simp] theorem space_text : (Token.space : Token ρ).text spell = " " := rfl

@[simp] theorem isNull_text : (Token.keyword .isNull : Token ρ).text spell = "ISNULL" := rfl

@[simp] theorem reference_text (column : ρ) : (Token.reference column).text spell = spell column :=
  rfl

@[simp] theorem negation_text (negated : Bool) :
    tokensText spell (Condition.negation negated) = if negated then "NOT " else "" := by
  cases negated <;> rfl

@[simp] theorem comparison_text (op : Comparison) :
    tokensText spell (Phrase.comparison op) = comparisonText op := by
  cases op <;> rfl

@[simp] theorem connective_text (op : Connective) :
    tokensText spell (Phrase.spaced (connective op)) = connectiveText op := by
  cases op <;> rfl

@[simp] theorem flag_text (negated : Bool) :
    tokensText spell (Phrase.flag negated) = if negated then " = 0" else " <> 0" := by
  cases negated <;> rfl

@[simp] theorem nullTest_text (negated : Bool) :
    tokensText spell (Phrase.nullTest negated) =
      if negated then " IS NULL" else " IS NOT NULL" := by
  cases negated <;> rfl

@[simp] theorem like_text (negated : Bool) :
    tokensText spell (Phrase.like negated) = if negated then " NOT LIKE " else " LIKE " := by
  cases negated <;> rfl

theorem pattern_text (op : StringOp) (pattern : String) :
    tokensText spell (if op.leadingWildcard then Phrase.leadingWildcard else []) ++
        (pattern ++
          tokensText spell (if op.trailingWildcard then Phrase.trailingWildcard else [])) =
      patternText pattern op := by
  have leading : tokensText spell Phrase.leadingWildcard = "'%'+" := rfl
  have trailing : tokensText spell Phrase.trailingWildcard = "+'%'" := rfl
  cases op <;>
    simp [StringOp.leadingWildcard, StringOp.trailingWildcard, patternText, leading, trailing,
      String.append_assoc]

@[simp] theorem isIn_text (negated : Bool) :
    tokensText spell (Phrase.isIn negated) = if negated then " NOT IN " else " IN " := by
  cases negated <;> rfl

@[simp] theorem truth_text (value : Bool) :
    tokensText spell (Phrase.truth value) = truthText value := by
  cases value <;> rfl

@[simp] theorem equality_text (negated : Bool) :
    (Phrase.equality negated).text spell = if negated then "<>" else "=" := by
  cases negated <;> rfl

@[simp] theorem separator_text : tokensText spell Phrase.separator = ", " := rfl

@[simp] theorem emptyText_text : Phrase.emptyText.text spell = "''" := rfl

@[simp] theorem listTokens_text (values : List (Operand ρ)) :
    tokensText spell (Condition.listTokens values) =
      ", ".intercalate (values.map fun value => value.token.text spell) := by
  induction values with
  | nil => rfl
  | cons value rest ih =>
      cases rest with
      | nil => simp [Condition.listTokens]
      | cons next rest =>
          simp only [Condition.listTokens, tokensText_cons, tokensText_append, ih, separator_text,
            List.map_cons, String.intercalate_cons_cons, String.append_assoc]

end Sql

section Texts

open Sql

variable {naming : Naming} (stem : String)

/-- The text of a column in a statement. -/
abbrev ColumnRef.spelled (naming : Naming) (column : ColumnRef) : String :=
  (column.reference naming).text

theorem valueOperand_text (bound : Nat) (value : Value) :
    ((valueOperand stem bound value).map (ColumnRef.reference naming)).token.text Reference.text =
      valueText stem bound value := by
  unfold valueOperand valueText
  split
  · rfl
  · simp [Operand.map, Operand.token, Token.text, Parameters.nameFrom, String.append_assoc]

theorem valueOperands_text (bound : Nat) (values : List Value) :
    ((valueOperands stem bound values).map (Operand.map (ColumnRef.reference naming))).map
        (fun value => value.token.text Reference.text) =
      valueTexts stem bound values := by
  induction values generalizing bound with
  | nil => rfl
  | cons value rest ih =>
      simp only [valueOperands, valueTexts, List.map_cons, valueOperand_text, ih]

theorem operand_text (bound : Nat) (term : Term) :
    ((term.operand stem bound).map (ColumnRef.reference naming)).token.text Reference.text =
      term.text (ColumnRef.spelled naming) stem bound := by
  cases term with
  | column found => rfl
  | value known => exact valueOperand_text stem bound known

theorem condition_text (predicate : Predicate) (negated : Bool) (bound : Nat) :
    tokensText Reference.text
        ((predicate.condition stem negated bound).map (ColumnRef.reference naming)).tokens =
      predicate.text (ColumnRef.spelled naming) stem negated bound := by
  induction predicate generalizing negated bound with
  | truth value => exact truth_text _
  | compare op left right =>
      simp [Predicate.condition, Condition.map, Condition.tokens, Predicate.text, operand_text,
        String.append_assoc]
  | connect op left right ihLeft ihRight =>
      simp [Predicate.condition, Condition.map, Condition.tokens, Predicate.text, ihLeft, ihRight,
        String.append_assoc]
  | not operand ih => exact ih _ _
  | flag column => simp [Predicate.condition, Condition.map, Condition.tokens, Predicate.text]
  | hasValue column => simp [Predicate.condition, Condition.map, Condition.tokens, Predicate.text]
  | like column op pattern =>
      simp [Predicate.condition, Condition.map, Condition.tokens, Predicate.text, operand_text,
        pattern_text, String.append_assoc]
  | oneOf column values =>
      by_cases empty : values.isEmpty
      · simp [Predicate.condition, Predicate.text, empty, Condition.map, Condition.tokens]
      · have list := @listTokens_text _ Reference.text
          ((valueOperands stem bound values).map (Operand.map (ColumnRef.reference naming)))
        rw [valueOperands_text] at list
        simp [Predicate.condition, empty, Condition.map, Condition.tokens, Predicate.text, list,
          String.append_assoc]
  | nullOrEmpty column =>
      have start : ∀ text, "ISNULL" ++ ("(" ++ text) = "ISNULL(" ++ text := by
        intro text
        rw [← String.append_assoc]
        rfl
      have default : ∀ text, ", " ++ ("''" ++ (")" ++ (" " ++ text))) = ", '') " ++ text := by
        intro text
        simp only [← String.append_assoc]
        rfl
      simp [Predicate.condition, Condition.map, Condition.tokens, Predicate.text, start, default,
        String.append_assoc]

theorem conditions_text (predicates : List Predicate) (bound : Nat) :
    ((conditionsFrom stem bound predicates).map (Condition.map (ColumnRef.reference naming))).map
        (fun condition => tokensText Reference.text condition.tokens) =
      predicateTexts (ColumnRef.spelled naming) stem bound predicates := by
  induction predicates generalizing bound with
  | nil => rfl
  | cons predicate rest ih =>
      simp only [conditionsFrom, predicateTexts, List.map_cons, condition_text, ih]

theorem conjunction_text (conditions : List (Condition Reference)) :
    tokensText Reference.text (conjunctionTokens conditions) =
      " AND ".intercalate
        (conditions.map fun condition => tokensText Reference.text condition.tokens) := by
  cases conditions with
  | nil => rfl
  | cons first rest =>
      have and : tokensText Reference.text (Phrase.spaced .and) = " AND " := rfl
      simp only [conjunctionTokens, tokensText_append, List.map_cons]
      induction rest generalizing first with
      | nil => simp
      | cons next rest ih =>
          simp only [List.flatMap_cons, tokensText_append, and, List.map_cons,
            String.intercalate_cons_cons, ← ih next, String.append_assoc]

end Texts

theorem columnText_eq {registry : Registry} (column : ColumnRef) :
    (column.reference registry.aliasOf).text = registry.columnText column := by
  have start : ".[" = "." ++ "[" := rfl
  simp only [ColumnRef.reference, Sql.Reference.text, Sql.bracketed, Registry.columnText, start,
    String.append_assoc]

section Named

variable {catalog : Catalog} {registry : Registry} {settings : Settings} {query : Query}

variable (names : Names catalog registry query)

include names

theorem Names.find? {entity : Entity} (member : entity ∈ query.tables) {table : Table}
    (mapped : catalog.lookup entity = some table) :
    ∃ qualifier, registry.find? entity = some ⟨table, qualifier⟩ ∧
      registry.aliasOf entity = qualifier := by
  obtain ⟨⟨_, qualifier⟩, found⟩ := names.held entity member
  cases mapped.symm.trans (names.faithful.table_eq entity _ found)
  exact ⟨qualifier, found, by simp [Registry.aliasOf, found]⟩

theorem Names.memberText? {expr : Expr} {found : ColumnRef}
    (resolved : expr.columnIn? (catalog.lookup.within query.tables) = some found) :
    registry.memberText? expr = some (found.reference registry.aliasOf).text := by
  rw [← names.faithful.lookup_within names.held] at resolved
  rw [Registry.memberText?, (Expr.columnIn?_within.mp resolved).1, columnText_eq]
  rfl

theorem Names.sourceText? {entity : Entity} (member : entity ∈ query.tables) {table : Table}
    (mapped : catalog.lookup entity = some table) :
    registry.sourceText? entity =
      some (TableRef.source registry.aliasOf ⟨entity, table⟩).text := by
  obtain ⟨qualifier, found, named⟩ := names.find? member mapped
  simp [Registry.sourceText?, found, TableRef.source, Sql.Source.text, Sql.bracketed, named,
    String.append_assoc]

theorem Names.columnsText? {entity : Entity} (member : entity ∈ query.tables) {table : Table}
    (mapped : catalog.lookup entity = some table) :
    registry.columnsText? entity = some (",".intercalate
      ((TableRef.columns ⟨entity, table⟩).map fun column =>
        (column.reference registry.aliasOf).text)) := by
  obtain ⟨qualifier, found, _⟩ := names.find? member mapped
  simp [Registry.columnsText?, found, TableRef.columns, columnText_eq, Function.comp_def]

theorem Names.selectText? {selection : Selection} (acceptable : query.Acceptable catalog settings)
    (selected : query.selection? catalog.lookup = some selection) :
    query.selectText? registry = some (",".intercalate
      (selection.columns.map fun column => (column.reference registry.aliasOf).text)) := by
  unfold Query.selection? at selected
  unfold Query.selectText?
  cases last : query.projectors.getLast? with
  | none =>
      simp only [last, Option.map_eq_some_iff] at selected
      obtain ⟨table, held, rfl⟩ := selected
      exact names.columnsText? (by simp [Query.tables]) held
  | some projector =>
      rw [last] at selected
      dsimp only at selected ⊢
      rcases acceptable.projectors projector (List.mem_of_getLast? last) with whole | column
      · obtain ⟨param, body, member⟩ := whole
        simp only [Lambda.selection?, body, Option.map_eq_some_iff] at selected
        obtain ⟨table, held, rfl⟩ := selected
        simp only [Registry.projectionText?, body]
        exact names.columnsText? member held
      · obtain ⟨found, resolved⟩ := Option.isSome_iff_exists.mp column
        have member : ∀ param, projector.body ≠ .parameter param := by
          intro param body
          rw [body] at resolved
          cases resolved
        rw [Planning.selection?_column member, (Expr.columnIn?_within.mp resolved).1] at selected
        cases selected
        have projected : registry.projectionText? projector =
            registry.memberText? projector.body := by
          unfold Registry.projectionText?
          split
          · rename_i param body
            exact absurd body (member param)
          · rfl
        simp [projected, names.memberText? resolved, Selection.columns]

theorem Names.joinTexts (acceptable : query.Acceptable catalog settings) :
    query.joins.mapM registry.joinText? = some
      ((query.operators.filterMap (Operator.plannedJoin? catalog.lookup)).map fun join =>
        (join.named registry.aliasOf).text) := by
  apply mapM_filterMap
  · intro operator member join asks
    cases operator <;> cases asks
    rename_i inner outerKey innerKey
    obtain ⟨joined, left, right, outerIs, innerIs⟩ := acceptable.joinKeys member
    obtain ⟨table, held⟩ := acceptable.mapped inner joined
    have mapped := Catalog.lookup_eq_some.mpr held
    refine ⟨⟨⟨inner, table⟩, left, right⟩, ?_, ?_⟩
    · exact Planning.plannedJoin?_eq_some.mpr ⟨table, left, right, mapped,
        (Expr.columnIn?_within.mp outerIs).1, (Expr.columnIn?_within.mp innerIs).1, rfl⟩
    · simp [Registry.joinText?, names.sourceText? joined mapped, names.memberText? outerIs,
        names.memberText? innerIs, PlannedJoin.named, Sql.Join.text]
  · intro operator none
    cases operator <;> first | rfl | cases none

theorem Names.keyTexts (acceptable : query.Acceptable catalog settings) :
    query.sortKeys.mapM registry.keyText? = some
      ((query.operators.filterMap (Operator.plannedKey? catalog.lookup)).map fun key =>
        (key.named registry.aliasOf).text) := by
  apply mapM_filterMap
  · intro operator member key asks
    have resolves := List.forall_mem_filterMap.mp acceptable.keys operator member key asks
    cases operator <;> cases asks
    rename_i key direction
    obtain ⟨found, resolved⟩ := Option.isSome_iff_exists.mp resolves
    refine ⟨⟨found, direction⟩, ?_, ?_⟩
    · simp [Operator.plannedKey?, (Expr.columnIn?_within.mp resolved).1]
    · simp [Registry.keyText?, names.memberText? resolved, PlannedKey.named, Sql.SortKey.text]
  · intro operator none
    cases operator <;> first | rfl | cases none

end Named

section Statements

open Sql

variable {statement : Statement}

theorem orderText_eq {keys : List SortKey} (visible : ∀ key ∈ keys, key.text ≠ "") :
    Sql.orderText keys = ", ".intercalate (keys.map SortKey.text) ∧
      (Sql.orderText keys).isEmpty = keys.isEmpty := by
  induction keys with
  | nil => exact ⟨rfl, rfl⟩
  | cons key rest ih =>
      obtain ⟨first, following⟩ := List.forall_mem_cons.mp visible
      obtain ⟨written, empty⟩ := ih following
      refine ⟨?_, by simp [Sql.orderText, first]⟩
      cases rest with
      | nil => simp [Sql.orderText]
      | cons next rest =>
          rw [Sql.orderText, empty, written]
          simp [String.append_assoc]

theorem sortKey_visible (naming : Naming) (key : PlannedKey) : (key.named naming).text ≠ "" := by
  simp [PlannedKey.named, SortKey.text, ColumnRef.reference, Reference.text]

end Statements

section Planned

variable {lookup : Lookup} {settings : Settings} {query : Query} {plan : Plan}
  (planned : query.Planned lookup settings plan) (naming : Naming)

include planned

theorem Query.Planned.headText :
    (plan.statement naming).headText = "SELECT " ++ query.topText ++
      (if query.isDistinct then "DISTINCT " else "") ++
      ",".intercalate
        (plan.selection.columns.map fun column => (column.reference naming).text) := by
  simp only [Plan.statement_eq, Sql.Statement.headText, Outline.window,
    planned.skipped, planned.taken, planned.distinct, Query.topText,
    List.map_map, Function.comp_def]
  cases query.offset? <;> cases query.limit? <;> rfl

theorem Query.Planned.whereText :
    (plan.statement naming).whereText = Query.whereText
      (predicateTexts (ColumnRef.spelled naming) settings.stem 0 (query.readings lookup)) := by
  rw [Query.whereText, ← conditions_text, ← planned.conditions, ← conjunction_text,
    List.isEmpty_map, ← Sql.conjunction_isEmpty, Plan.statement_eq]
  rfl

theorem Query.Planned.orderByText :
    (plan.statement naming).orderByText =
      query.orderText (plan.order.map fun key => (key.named naming).text) := by
  obtain ⟨written, empty⟩ := @orderText_eq (plan.order.map (·.named naming))
    (List.forall_mem_map.mpr fun key _ => sortKey_visible naming key)
  rw [List.map_map] at written
  simp only [Plan.statement_eq, Sql.Statement.orderByText, Outline.window, planned.skipped,
    planned.taken, Query.orderText, empty, List.isEmpty_map]
  rw [written]
  cases query.offset? <;> cases query.limit? <;> rfl

theorem Query.Planned.pageText : (plan.statement naming).pageText = query.pageText := by
  simp only [Plan.statement_eq, Sql.Statement.pageText, Outline.window,
    planned.skipped, planned.taken, Query.pageText]
  cases query.offset? <;> cases query.limit? <;> rfl

end Planned

theorem Schema.Registry.Reachable.sql_eq {catalog : Catalog} {registry after : Registry}
    {settings : Settings} {query : Query} {compiled : Compiled}
    (reachable : Registry.Reachable catalog registry)
    (compiles : registry.compile settings query = (.ok compiled, after)) :
    query.sqlText? after settings.stem = some compiled.sql := by
  obtain ⟨plan, walkable, planned, rfl, names⟩ := reachable.compiled_planned compiles
  have acceptable := walkable.acceptable
  have source := names.sourceText? (by simp [Query.tables]) planned.source.2
  have spelled : ColumnRef.spelled after.aliasOf = after.columnText := funext columnText_eq
  simp only [Query.sqlText?, names.selectText? acceptable planned.selection, source,
    names.joinTexts acceptable, names.keyTexts acceptable,
    acceptable.readings (names.faithful.lookup_within names.held)]
  rw [← planned.joins, ← planned.order]
  change some _ = some (plan.statement after.aliasOf).text
  rw [Sql.Statement.text, planned.headText, planned.whereText,
    planned.orderByText, planned.pageText, spelled, Sql.Statement.fromText,
    Plan.statement_eq, List.map_map]
  rw [← planned.source.1]
  simp [String.append_assoc, Function.comp_def]

theorem Sample.query_sql : ∃ compiled after,
    (Registry.ofCatalog Sample.catalog).compile {} Sample.query = (.ok compiled, after) ∧
      Sample.query.sqlText? after ({} : Settings).stem = some compiled.sql := by
  obtain ⟨compiled, after, compiles⟩ := Sample.query_compiles
  exact ⟨compiled, after, compiles, Registry.Reachable.sql_eq .ofCatalog compiles⟩

example :
    ((Registry.ofCatalog Sample.catalog).compile {} Sample.query).1.toOption.map Compiled.sql =
      some ("SELECT TOP(3) a.[Id],a.[Name],a.[TeamId] FROM [Player] a" ++
        " JOIN [Team] b ON a.[TeamId] = b.[TeamId]" ++
        " WHERE NOT (a.[Name] = @p1) AND b.[TeamId] IN (NULL, @p2) ORDER BY a.[Id] DESC") := by
  decide +kernel

end QueryChain
