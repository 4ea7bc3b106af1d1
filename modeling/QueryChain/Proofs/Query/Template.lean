import QueryChain.Proofs.Query.Scope

namespace QueryChain

open Schema

/-! Statements before their tables have aliases.

The text of a statement is fixed up to the aliases of its tables.  A template is that
text with a place for each alias, together with what is selected and the parameters,
which do not depend on aliases at all.
-/

/-- A part of a text: fixed, or the alias of an entity. -/
inductive Piece where
  | fixed (text : String)
  | qualifier (entity : Entity)
deriving DecidableEq

def Piece.filled (naming : Naming) : Piece → String
  | .fixed text => text
  | .qualifier entity => naming entity

def fill (naming : Naming) (pieces : List Piece) : String :=
  String.join (pieces.map (Piece.filled naming))

structure Template where
  pieces : List Piece
  selection : Selection
  parameters : Sql.Parameters

def Selection.owner : Selection → Entity
  | .entity table => table.entity
  | .column found => found.entity

/-- A template has places for the aliases of the given entities only. -/
structure Template.Within (entities : List Entity) (template : Template) : Prop where
  pieces : ∀ entity, Piece.qualifier entity ∈ template.pieces → entity ∈ entities
  selection : template.selection.owner ∈ entities

/-- What a query compiles to is a template under some aliases. -/
structure Template.Fills (template : Template) (naming : Naming) (compiled : Compiled) : Prop where
  sql : compiled.sql = fill naming template.pieces
  parameters : compiled.parameters = template.parameters
  shape : compiled.shape = template.selection.shape naming

/-- A text that depends on the aliases of the given entities, and holds them verbatim. -/
def Templated (entities : List Entity) (text : Naming → String) : Prop :=
  ∃ pieces, (∀ entity, Piece.qualifier entity ∈ pieces → entity ∈ entities) ∧
    ∀ naming, fill naming pieces = text naming

section Templates

variable {entities : List Entity} {naming other : Naming}

theorem fill_append (first rest : List Piece) :
    fill naming (first ++ rest) = fill naming first ++ fill naming rest := by
  simp [fill]

/-- Equal aliases fill the places of a template with equal text. -/
theorem fill_congr {pieces : List Piece}
    (same : ∀ entity, Piece.qualifier entity ∈ pieces → naming entity = other entity) :
    fill naming pieces = fill other pieces := by
  have filled : ∀ piece ∈ pieces, piece.filled naming = piece.filled other := by
    intro piece member
    cases piece with
    | fixed text => rfl
    | qualifier entity => exact same entity member
  rw [fill, fill, List.map_congr_left filled]

theorem Selection.shape_congr {selection : Selection}
    (same : naming selection.owner = other selection.owner) :
    selection.shape naming = selection.shape other := by
  cases selection with
  | entity table =>
      have qualifier : naming table.entity = other table.entity := same
      rw [Selection.shape, Selection.shape, qualifier]
  | column found => rfl

/-- Compilations that fill one template under equal aliases do not differ. -/
theorem Template.Fills.congr {template : Template} {compiled again : Compiled}
    (within : template.Within entities)
    (same : ∀ entity ∈ entities, naming entity = other entity)
    (filled : template.Fills naming compiled) (filledAgain : template.Fills other again) :
    again.sql = compiled.sql ∧ again.parameters = compiled.parameters ∧
      again.shape = compiled.shape := by
  have sql : fill naming template.pieces = fill other template.pieces :=
    fill_congr fun entity member => same entity (within.pieces entity member)
  have shape := Selection.shape_congr (same _ within.selection)
  refine ⟨?_, ?_, ?_⟩
  · rw [filledAgain.sql, filled.sql, sql]
  · rw [filledAgain.parameters, filled.parameters]
  · rw [filledAgain.shape, filled.shape, shape]

theorem Templated.fixed (text : String) : Templated entities fun _ => text := by
  refine ⟨[.fixed text], ?_, ?_⟩
  · intro entity member
    cases List.mem_singleton.mp member
  · intro naming
    simp [fill, Piece.filled]

theorem Templated.qualifier {entity : Entity} (member : entity ∈ entities) :
    Templated entities fun naming => naming entity := by
  refine ⟨[.qualifier entity], ?_, ?_⟩
  · intro named listed
    cases List.mem_singleton.mp listed
    exact member
  · intro naming
    simp [fill, Piece.filled]

theorem Templated.append {first rest : Naming → String} (templated : Templated entities first)
    (following : Templated entities rest) :
    Templated entities fun naming => first naming ++ rest naming := by
  obtain ⟨pieces, within, filled⟩ := templated
  obtain ⟨others, withinToo, filledToo⟩ := following
  refine ⟨pieces ++ others, ?_, ?_⟩
  · intro entity member
    rcases List.mem_append.mp member with member | member
    · exact within entity member
    · exact withinToo entity member
  · intro naming
    rw [fill_append, filled, filledToo]

theorem Templated.join {α : Type} {items : List α} {text : α → Naming → String}
    (templated : ∀ item ∈ items, Templated entities (text item)) :
    Templated entities fun naming => String.join (items.map fun item => text item naming) := by
  induction items with
  | nil => exact fixed ""
  | cons item rest ih =>
      obtain ⟨first, following⟩ := List.forall_mem_cons.mp templated
      simpa using first.append (ih following)

theorem Templated.intercalate {α : Type} {items : List α} {text : α → Naming → String}
    (separator : String) (templated : ∀ item ∈ items, Templated entities (text item)) :
    Templated entities fun naming =>
      separator.intercalate (items.map fun item => text item naming) := by
  induction items with
  | nil => exact fixed ""
  | cons item rest ih =>
      obtain ⟨first, following⟩ := List.forall_mem_cons.mp templated
      cases rest with
      | nil => simpa using first
      | cons next rest =>
          have separated := (first.append (fixed separator)).append (ih following)
          simpa using separated

end Templates

section Clauses

open Sql

variable {lookup : Lookup} {entities : List Entity}

theorem ColumnRef.templated {column : ColumnRef} (member : column.entity ∈ entities) :
    Templated entities (column.spelled ·) :=
  (Templated.qualifier member).append (.fixed ".") |>.append (.fixed (bracketed column.column.name))

theorem TableRef.templated {table : TableRef} (member : table.entity ∈ entities) :
    Templated entities fun naming => (table.source naming).text :=
  (Templated.fixed (bracketed table.table.name ++ " ")).append (.qualifier member)

theorem PlannedJoin.templated {join : PlannedJoin} (inner : join.inner.entity ∈ entities)
    (left : join.left.entity ∈ entities) (right : join.right.entity ∈ entities) :
    Templated entities fun naming => (join.named naming).text := by
  have source := (Templated.fixed " JOIN ").append (TableRef.templated inner)
  have outer := (source.append (.fixed " ON ")).append (ColumnRef.templated left)
  exact (outer.append (.fixed " = ")).append (ColumnRef.templated right)

theorem PlannedKey.templated {key : PlannedKey} (member : key.column.entity ∈ entities) :
    Templated entities fun naming => (key.named naming).text := by
  have direction := (ColumnRef.templated member).append
    (.fixed (if key.direction = .descending then " DESC" else ""))
  simpa [PlannedKey.named, SortKey.text] using direction

theorem tokensText_templated {tokens : List (Token ColumnRef)}
    (named : ScopedBy (fun column => column.entity ∈ entities) tokens) :
    Templated entities fun naming => tokensText (ColumnRef.spelled naming) tokens := by
  apply Templated.join
  intro token member
  have known := named token member
  cases token with
  | reference column => exact ColumnRef.templated known
  | verbatim text => cases known
  | space | opening | closing | comma | plus | keyword _ | comparison _ | number _ | string _
  | placeholder _ => exact .fixed _

variable {plan : Plan} (inScope : plan.Scoped lookup entities)

include inScope

theorem Plan.Scoped.headText_templated :
    Templated entities fun naming => (plan.statement naming).headText := by
  have columns : Templated entities fun naming =>
      ",".intercalate (plan.selection.columns.map fun column => column.spelled naming) :=
    .intercalate "," fun column listed =>
      ColumnRef.templated (inScope.selection.columns column listed).1
  have head := fun top : String =>
    (Templated.fixed ("SELECT " ++ top ++ if plan.outline.distinct then "DISTINCT " else "")).append
      columns
  simp only [Plan.statement_eq, Sql.Statement.headText, List.map_map, Function.comp_def]
  cases plan.outline.window <;> exact head _

theorem Plan.Scoped.fromText_templated :
    Templated entities fun naming => (plan.statement naming).fromText := by
  have member : ∀ table ∈ plan.tables, table.entity ∈ entities := by
    intro table listed
    rw [← inScope.tables]
    exact List.mem_map_of_mem listed
  have source := (Templated.fixed " FROM ").append
    (TableRef.templated (member plan.source List.mem_cons_self))
  have joins : Templated entities fun naming =>
      String.join (plan.joins.map fun join => (join.named naming).text) := by
    apply Templated.join
    intro join listed
    obtain ⟨index, found⟩ := List.mem_iff_getElem?.mp listed
    obtain ⟨left, right⟩ := inScope.joins index join found
    have inner := member join.inner (List.mem_cons_of_mem _ (List.mem_map_of_mem listed))
    have outer := List.mem_of_mem_take left.1
    have joined : join.right.entity = join.inner.entity := List.mem_singleton.mp right.1
    exact PlannedJoin.templated inner outer (joined ▸ inner)
  simp only [Plan.statement_eq, Sql.Statement.fromText, List.map_map, Function.comp_def]
  exact source.append joins

theorem Plan.Scoped.whereText_templated :
    Templated entities fun naming => (plan.statement naming).whereText := by
  have named : ScopedBy (fun column => column.entity ∈ entities)
      (conjunctionTokens plan.conditions) :=
    conjunctionTokens_scopedBy fun condition listed column used =>
      (inScope.conditions condition listed column used).1
  have written : ∀ naming, (plan.statement naming).whereText =
      if plan.conditions.isEmpty then ""
      else " WHERE " ++ tokensText (ColumnRef.spelled naming)
        (conjunctionTokens plan.conditions) := by
    intro naming
    have empty := @conjunction_isEmpty _ Reference.text
      (plan.conditions.map (Condition.map (ColumnRef.reference naming)))
    rw [List.isEmpty_map] at empty
    rw [Plan.statement_eq, Sql.Statement.whereText, Sql.Statement.predicateText, empty,
      conjunctionTokens_map, tokensText_map]
  simp only [written]
  cases plan.conditions.isEmpty with
  | true => exact .fixed ""
  | false => exact (Templated.fixed " WHERE ").append (tokensText_templated named)

theorem Plan.Scoped.orderByText_templated :
    Templated entities fun naming => (plan.statement naming).orderByText := by
  have keys : Templated entities fun naming =>
      ", ".intercalate (plan.order.map fun key => (key.named naming).text) :=
    .intercalate ", " fun key listed => PlannedKey.templated (inScope.order key listed).1
  cases none : plan.order.isEmpty with
  | true =>
      -- What stands in place of the keys names no column.
      have fixed : ∀ naming, (plan.statement naming).orderByText =
          (plan.statement fun _ => "").orderByText := by
        intro naming
        rw [List.isEmpty_iff] at none
        rw [Plan.statement_eq, Plan.statement_eq, none]
        rfl
      simp only [fixed]
      exact .fixed _
  | false =>
      have written : ∀ naming, (plan.statement naming).orderByText =
          " ORDER BY " ++ ", ".intercalate (plan.order.map fun key => (key.named naming).text) := by
        intro naming
        obtain ⟨listed, empty⟩ := @orderText_eq (plan.order.map (·.named naming))
          (List.forall_mem_map.mpr fun key _ => sortKey_visible naming key)
        rw [List.isEmpty_map, none] at empty
        rw [Plan.statement_eq, Sql.Statement.orderByText, empty, listed, List.map_map]
        rfl
      simp only [written]
      exact (Templated.fixed " ORDER BY ").append keys

theorem Plan.Scoped.templated : Templated entities fun naming => (plan.statement naming).text := by
  have page : Templated entities fun naming => (plan.statement naming).pageText := by
    simp only [Plan.statement_eq, Sql.Statement.pageText]
    exact .fixed _
  have start := inScope.headText_templated.append inScope.fromText_templated
  have following := start.append inScope.whereText_templated
  exact (following.append inScope.orderByText_templated).append page

/-- A plan over some entities is a template that awaits their aliases. -/
theorem Plan.Scoped.template : ∃ template : Template, template.Within entities ∧
    ∀ naming, template.Fills naming (plan.compiled naming) := by
  obtain ⟨pieces, within, filled⟩ := inScope.templated
  have selected : plan.selection.owner ∈ entities := by
    have among := inScope.selection
    cases selection : plan.selection with
    | entity table =>
        rw [selection] at among
        exact among.1
    | column found =>
        rw [selection] at among
        exact among.1
  refine ⟨⟨pieces, plan.selection, plan.parameters⟩, ⟨within, selected⟩, ?_⟩
  intro naming
  exact ⟨(filled naming).symm, rfl, rfl⟩

end Clauses

end QueryChain
