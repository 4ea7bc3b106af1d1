import QueryChain.Proofs.Query.Compiled
import QueryChain.Proofs.Schema.Mapping
import QueryChain.Provider

namespace QueryChain

open Json Schema

/-! What a row gives to the properties of an entity.

The columns of a table are taken out of a row one after another.  A property is given the
value of its column, unless a property before it took that column already: then it is given
null, as if the row had no such column.
-/

namespace Dictionary

variable {κ α : Type} [DecidableEq κ] {key : κ} {value : α} {entries : Dictionary κ α}

theorem keys_insert (key : κ) (value : α) (entries : Dictionary κ α) :
    (insert key value entries).map Prod.fst =
      if key ∈ entries.map Prod.fst then entries.map Prod.fst
      else entries.map Prod.fst ++ [key] := by
  induction entries with
  | nil => simp [insert]
  | cons entry rest ih =>
      obtain ⟨name, old⟩ := entry
      by_cases same : name = key
      · simp [insert, same]
      · rw [insert, if_neg same, List.map_cons, ih]
        by_cases member : key ∈ rest.map Prod.fst <;> simp [member, Ne.symm same]

theorem keys_erase (key : κ) (entries : Dictionary κ α) :
    (erase key entries).map Prod.fst = (entries.map Prod.fst).erase key := by
  induction entries with
  | nil => rfl
  | cons entry rest ih =>
      obtain ⟨name, old⟩ := entry
      by_cases same : name = key
      · simp [erase, same]
      · simp [erase, same, ih]

theorem get?_erase_self (distinct : (entries.map Prod.fst).Nodup) :
    get? key (erase key entries) = none := by
  rw [get?_eq_none, keys_erase]
  exact distinct.not_mem_erase

end Dictionary

namespace Row

variable {row : Row} {column other : String} {value : Value}

/-- No two columns of a row have one name. -/
def WellFormed (row : Row) : Prop := (row.columns.map Prod.fst).Nodup

/-- The value under a column name, or null. -/
def valueOrNull (row : Row) (column : String) : Value := (row.find? column).getD .null

theorem empty_wellFormed : empty.WellFormed := List.nodup_nil

theorem WellFormed.insert (wellFormed : row.WellFormed) (column : String) (value : Value) :
    (row.insert column value).WellFormed := by
  unfold WellFormed Row.insert
  rw [Dictionary.keys_insert]
  split
  · exact wellFormed
  · rename_i absent
    rw [List.nodup_append]
    refine ⟨wellFormed, by simp, ?_⟩
    intro name member added new same
    cases List.mem_singleton.mp new
    cases same
    exact absent member

theorem WellFormed.remove (wellFormed : row.WellFormed) (column : String) :
    (row.remove column).2.WellFormed := by
  unfold WellFormed Row.remove
  rw [Dictionary.keys_erase]
  exact wellFormed.erase column

/-- A column that is taken out is there no more, and all others are as they were. -/
theorem WellFormed.valueOrNull_remove (wellFormed : row.WellFormed) :
    (row.remove column).2.valueOrNull other =
      if other = column then .null else row.valueOrNull other := by
  unfold valueOrNull find? Row.remove
  split
  · rename_i same
    rw [same, Dictionary.get?_erase_self wellFormed]
    rfl
  · rename_i different
    rw [Dictionary.get?_erase_of_ne different]

end Row

/-- The members that an entity is read from when its properties are mapped onto columns. -/
structure Row.Fills (row : Row) (columns : List Column) (members : List (String × Value)) :
    Prop where
  properties : members.map Prod.fst = columns.map Column.property
  first : ∀ index column, columns[index]? = some column →
    column.name ∉ (columns.take index).map Column.name →
      members[index]? = some (column.property, row.valueOrNull column.name)
  later : ∀ index column, columns[index]? = some column →
    column.name ∈ (columns.take index).map Column.name →
      members[index]? = some (column.property, .null)
  complete :
    members = columns.map (fun column => (column.property, row.valueOrNull column.name)) ↔
    ∀ index column, columns[index]? = some column →
      column.name ∈ (columns.take index).map Column.name → row.valueOrNull column.name = .null

section Members

variable {columns : List Column} {row : Row}

theorem entityMembers_properties (columns : List Column) (row : Row) :
    (entityMembers columns row).map Prod.fst = columns.map Column.property := by
  induction columns generalizing row with
  | nil => rfl
  | cons column rest ih => simp [entityMembers, ih]

theorem entityMembers_getElem? (wellFormed : row.WellFormed) (columns : List Column) (index : Nat) :
    (entityMembers columns row)[index]? = columns[index]?.map fun column =>
      (column.property,
        if column.name ∈ (columns.take index).map Column.name then .null
        else row.valueOrNull column.name) := by
  induction columns generalizing row index with
  | nil => rfl
  | cons column rest ih =>
      cases index with
      | zero => simp [entityMembers, Row.remove, Row.valueOrNull]
      | succ index =>
          have tail := ih (wellFormed.remove column.name) index
          simp only [entityMembers, List.getElem?_cons_succ, List.take_succ_cons, List.map_cons,
            List.mem_cons]
          refine tail.trans ?_
          congr 1
          funext later
          rw [wellFormed.valueOrNull_remove]
          by_cases same : later.name = column.name <;> simp [same]

theorem Row.WellFormed.fills (wellFormed : row.WellFormed) (columns : List Column) :
    row.Fills columns (entityMembers columns row) := by
  have members := entityMembers_getElem? wellFormed columns
  refine ⟨entityMembers_properties columns row, ?_, ?_, ?_⟩
  · intro index column declared untaken
    rw [members, declared, Option.map_some, if_neg untaken]
  · intro index column declared taken
    rw [members, declared, Option.map_some, if_pos taken]
  · refine ⟨?_, ?_⟩
    · intro complete index column declared taken
      have given := members index
      rw [complete, List.getElem?_map, declared, Option.map_some, Option.map_some, if_pos taken]
        at given
      simpa using given
    · intro empty
      apply List.ext_getElem?
      intro index
      rw [members, List.getElem?_map]
      cases declared : columns[index]? with
      | none => rfl
      | some column =>
          by_cases taken : column.name ∈ (columns.take index).map Column.name
          · rw [Option.map_some, if_pos taken, Option.map_some, empty index column declared taken]
          · rw [Option.map_some, if_neg taken, Option.map_some]

/-- Rows that agree on the mapped columns give the same members. -/
theorem entityMembers_congr {other : Row} (wellFormed : row.WellFormed)
    (otherWellFormed : other.WellFormed)
    (agree : ∀ column ∈ columns, other.find? column.name = row.find? column.name) :
    entityMembers columns other = entityMembers columns row := by
  apply List.ext_getElem?
  intro index
  rw [entityMembers_getElem? wellFormed, entityMembers_getElem? otherWellFormed]
  cases declared : columns[index]? with
  | none => rfl
  | some column =>
      rw [Option.map_some, Option.map_some, Row.valueOrNull, Row.valueOrNull,
        agree column (List.mem_of_getElem? declared)]

end Members

namespace Schema.Registry

variable {catalog : Catalog} {registry : Registry} {entity : Entity} {descriptor : Descriptor}

/-- A row gives each property of a mapped entity the value of its column, or null where an
earlier property took that column.  All properties get what the row has for them exactly if the
row has nothing but null in the columns that several of them share. -/
theorem Reachable.row_fills (reachable : Reachable catalog registry)
    (resolved : (registry.resolve entity).1 = .ok descriptor) :
    ∃ mapping, catalog.find? entity = some mapping ∧
      (mapping.columns.map Column.property).Nodup ∧
      ∀ row : Row, row.WellFormed → ∃ members,
        (Shape.entity descriptor).rowValue row = .object members ∧
        row.Fills mapping.columns members ∧
        ∀ other : Row, other.WellFormed →
          (∀ column ∈ mapping.columns, other.find? column.name = row.find? column.name) →
            (Shape.entity descriptor).rowValue other = .object members := by
  obtain ⟨mapping, found, table⟩ := reachable.resolve_toTable resolved
  obtain ⟨_, _, distinct, key, _, described⟩ := Mapping.toTable_eq_ok.mp table
  refine ⟨mapping, found, distinct, ?_⟩
  intro row wellFormed
  have value : ∀ row : Row, (Shape.entity descriptor).rowValue row =
      .object (entityMembers mapping.columns row) := by
    intro row
    rw [Shape.rowValue, described, Dictionary.ofEntries_of_nodup]
    rw [entityMembers_properties]
    exact distinct
  refine ⟨_, value row, wellFormed.fills mapping.columns, ?_⟩
  intro other otherWellFormed agree
  rw [value, entityMembers_congr wellFormed otherWellFormed agree]

/-- What a query selects from a single column is the value that the row has under the name of
that column, or null, whatever else is in the row. -/
theorem Reachable.column_read {after : Registry} {settings : Settings} {query : Query}
    {compiled : Compiled} {projector : Lambda} {found : ColumnRef}
    (reachable : Reachable catalog registry)
    (compiles : registry.compile settings query = (.ok compiled, after))
    (last : query.projectors.getLast? = some projector)
    (resolved : projector.body.columnIn? catalog.lookup = some found) (row : Row) :
    compiled.shape.rowValue row = row.valueOrNull found.column.name := by
  obtain ⟨plan, _, planned, rfl, _⟩ := reachable.compiled_planned compiles
  have member : ∀ param, projector.body ≠ .parameter param := by
    intro param body
    rw [body] at resolved
    cases resolved
  have selected : plan.selection = .column found := by
    have selection : projector.selection? catalog.lookup = some plan.selection := by
      simpa only [Query.selection?, last] using planned.selection
    rw [Planning.selection?_column member, resolved] at selection
    exact (Option.some.inj selection).symm
  simp only [Plan.compiled, selected]
  rfl

end Schema.Registry

namespace Sample

def ada : Row :=
  ((Row.empty.insert "Name" (.string "Ada")).insert "Id" (.number (.int 1))).insert "Rank"
    (.number (.int 7))

theorem ada_wellFormed : ada.WellFormed := ((Row.empty_wellFormed.insert ..).insert ..).insert ..

/-- Ada has no team, and nothing reads her rank. -/
theorem ada_fills : ∃ descriptor,
    ((Schema.Registry.ofCatalog catalog).resolve players).1 = .ok descriptor ∧ ada.WellFormed ∧
      ∃ columns members, (Shape.entity descriptor).rowValue ada = .object members ∧
        ada.Fills columns members ∧
        members = [("Id", .number (.int 1)), ("Name", .string "Ada"), ("TeamId", .null)] := by
  obtain ⟨descriptor, resolved⟩ : ∃ descriptor,
      ((Schema.Registry.ofCatalog catalog).resolve players).1 = .ok descriptor := ⟨_, rfl⟩
  obtain ⟨mapping, _, _, fills⟩ := Schema.Registry.Reachable.row_fills .ofCatalog resolved
  obtain ⟨members, value, filled, _⟩ := fills ada ada_wellFormed
  refine ⟨descriptor, resolved, ada_wellFormed, mapping.columns, members, value, filled, ?_⟩
  cases resolved
  cases value
  rfl

/-- Players with two properties in one column. -/
def renamed : Catalog :=
  ⟨[(players,
    ((Mapping.onto "Player").withColumnNamed "First" "Name" .text).withColumnNamed "Second"
      "Name" .text |>.withKey "Id" .integer)]⟩

/-- The second property of the column gets null, where the row has a name for it. -/
theorem renamed_lost : ∃ descriptor,
    ((Schema.Registry.ofCatalog renamed).resolve players).1 = .ok descriptor ∧ ada.WellFormed ∧
      (Shape.entity descriptor).rowValue ada =
        .object [("First", .string "Ada"), ("Second", .null), ("Id", .number (.int 1))] ∧
      (Shape.entity descriptor).rowValue ada ≠ .object (descriptor.table.columns.map fun column =>
        (column.property, ada.valueOrNull column.name)) := by
  obtain ⟨descriptor, resolved⟩ : ∃ descriptor,
      ((Schema.Registry.ofCatalog renamed).resolve players).1 = .ok descriptor := ⟨_, rfl⟩
  have value : (Shape.entity descriptor).rowValue ada =
      .object [("First", .string "Ada"), ("Second", .null), ("Id", .number (.int 1))] := by
    cases resolved
    rfl
  refine ⟨descriptor, resolved, ada_wellFormed, value, ?_⟩
  rw [value]
  cases resolved
  intro same
  injection same with members
  have second : ("Second", Value.null) = ("Second", Value.string "Ada") :=
    Option.some.inj (congrArg (·[1]?) members)
  cases second

end Sample

end QueryChain
