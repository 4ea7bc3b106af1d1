import QueryChain.Proofs.Schema.Mapping

namespace QueryChain.Schema

/-! What a resolved table says of the calls by which its mapping was declared.

A mapping is declared call by call and registered without a check; the first use of its entity
checks it as a whole.  So everything here holds of any list of calls in any list of registrations.
-/

/-- A call that declares a column. -/
inductive Declaration where
  | key (property : String) (type : ColumnType)
  | column (property : String) (type : ColumnType)
  | nullable (property : String) (type : ColumnType)
  | columnNamed (property name : String) (type : ColumnType)

namespace Declaration

def declared : Declaration → Column
  | .key property type | .column property type => ⟨property, property, type, false⟩
  | .nullable property type => ⟨property, property, type, true⟩
  | .columnNamed property name type => ⟨property, name, type, false⟩

def property (declaration : Declaration) : String := declaration.declared.property

def key? : Declaration → Option String
  | .key property _ => some property
  | .column _ _ | .nullable _ _ | .columnNamed _ _ _ => none

end Declaration

/-- A mapping that is registered for an entity, with the calls that declare it. -/
structure Registration where
  entity : Entity
  table : String
  declarations : List Declaration

def Mapping.declare (mapping : Mapping) : Declaration → Mapping
  | .key property type => mapping.withKey property type
  | .column property type => mapping.withColumn property type
  | .nullable property type => mapping.withNullable property type
  | .columnNamed property name type => mapping.withColumnNamed property name type

def Registration.mapping (registration : Registration) : Mapping :=
  registration.declarations.foldl Mapping.declare (.onto registration.table)

/-- The catalog after a registration; one that is refused leaves it as it was. -/
def Catalog.registered (catalog : Catalog) (registration : Registration) : Catalog :=
  (catalog.register registration.entity registration.mapping).toOption.getD catalog

def Catalog.ofRegistrations (registrations : List Registration) : Catalog :=
  registrations.foldl Catalog.registered .empty

/-- The registration that counts for an entity. -/
def Registration.first? (registrations : List Registration) (entity : Entity) :
    Option Registration :=
  registrations.find? fun registration => registration.entity = entity

/-- A table name, a key, and no property declared twice. -/
structure Registration.Usable (registration : Registration) : Prop where
  named : registration.table ≠ ""
  keyed : ∃ declaration ∈ registration.declarations, declaration.key?.isSome
  distinct : (registration.declarations.map Declaration.property).Nodup

/-- A table holds what was declared, in order.  A property leads to the one declaration of it, and
the key is the property of the last call that declared a key. -/
structure Registration.Describes (registration : Registration) (table : Table) : Prop where
  name : table.name = registration.table
  columns : table.columns = registration.declarations.map Declaration.declared
  found_iff : ∀ property, (table.column? property).isSome ↔
    property ∈ registration.declarations.map Declaration.property
  single : ∀ property, table.columns.filter (fun column => column.property = property) =
    (table.column? property).toList
  key : ∃ earlier type later,
    registration.declarations = earlier ++ .key table.key type :: later ∧
      (∀ declaration ∈ later, declaration.key? = none) ∧
      table.column? table.key = some ⟨table.key, table.key, type, false⟩

/-- The first registration of an entity counts, and later ones are refused.  Its entity resolves if
and only if it can be used, and then to a table that describes what it declares. -/
structure Registry.Reflects (registrations : List Registration)
    (registry : Registry) (entity : Entity) :
    Prop where
  counts : (Catalog.ofRegistrations registrations).find? entity =
    (Registration.first? registrations entity).map Registration.mapping
  accepts : ∀ registration, registration.entity = entity →
    Registration.first? registrations entity = none →
      (Catalog.ofRegistrations registrations).register entity registration.mapping =
        .ok (Catalog.ofRegistrations (registrations ++ [registration]))
  refuses : ∀ registration, registration.entity = entity →
    (Registration.first? registrations entity).isSome →
      (Catalog.ofRegistrations registrations).register entity registration.mapping =
          .error (.alreadyRegistered entity) ∧
        Catalog.ofRegistrations (registrations ++ [registration]) =
          Catalog.ofRegistrations registrations
  resolves : (∃ descriptor, (registry.resolve entity).1 = .ok descriptor) ↔
    ∃ registration, Registration.first? registrations entity = some registration ∧
      registration.Usable
  fails : (∀ registration, Registration.first? registrations entity = some registration →
      ¬registration.Usable) → ∃ cause, registry.resolve entity = (.error cause, registry)
  describes : ∀ descriptor, (registry.resolve entity).1 = .ok descriptor →
    ∃ registration, Registration.first? registrations entity = some registration ∧
      registration.Describes descriptor.table

variable {registration : Registration} {registrations : List Registration}
  {catalog : Catalog} {registry : Registry} {entity : Entity} {table : Table}

theorem Mapping.declare_eq (mapping : Mapping) (declaration : Declaration) :
    mapping.declare declaration =
      ⟨mapping.table, declaration.key?.or mapping.key, mapping.columns ++
        [declaration.declared]⟩ := by
  cases declaration <;> rfl

theorem Mapping.foldl_declare (mapping : Mapping) (declarations : List Declaration) :
    declarations.foldl Mapping.declare mapping =
      ⟨mapping.table, (declarations.filterMap Declaration.key?).getLast?.or mapping.key,
        mapping.columns ++ declarations.map Declaration.declared⟩ := by
  induction declarations generalizing mapping with
  | nil => simp
  | cons declaration rest ih =>
      rw [List.foldl_cons, ih, Mapping.declare_eq]
      cases keyed : declaration.key? with
      | none => simp [keyed]
      | some key => simp [keyed, List.getLast?_cons]

theorem Registration.mapping_eq (registration : Registration) :
    registration.mapping =
      ⟨registration.table, (registration.declarations.filterMap Declaration.key?).getLast?,
        registration.declarations.map Declaration.declared⟩ := by
  rw [mapping, Mapping.foldl_declare]
  simp [Mapping.onto]

/-- The key that counts is declared by a call with none after it. -/
theorem Declaration.exists_last_key {declarations : List Declaration} {key : String}
    (last : (declarations.filterMap Declaration.key?).getLast? = some key) :
    ∃ earlier type later, declarations = earlier ++ .key key type :: later ∧
      ∀ declaration ∈ later, declaration.key? = none := by
  obtain ⟨keys, split⟩ := List.getLast?_eq_some_iff.mp last
  obtain ⟨before, after, rfl, _, ends⟩ := List.filterMap_eq_append_iff.mp split
  obtain ⟨skipped, declaration, later, rfl, _, keyed, none⟩ :=
    List.filterMap_eq_cons_iff.mp ends
  cases declaration with
  | key property type =>
      cases keyed
      exact ⟨before ++ skipped, type, later, by simp, List.filterMap_eq_nil_iff.mp none⟩
  | column _ _ | nullable _ _ | columnNamed _ _ _ => cases keyed

/-- Where no property is mapped twice, a property is that of one column at most. -/
theorem Table.filter_property (distinct : (table.columns.map Column.property).Nodup)
    (property : String) :
    table.columns.filter (fun column => column.property = property) =
      (table.column? property).toList := by
  obtain ⟨name, key, columns⟩ := table
  unfold column?
  induction columns with
  | nil => rfl
  | cons column rest ih =>
      obtain ⟨unrepeated, distinct⟩ := List.nodup_cons.mp distinct
      by_cases same : column.property = property
      · have alone : rest.filter (fun other => other.property = property) = [] := by
          refine List.filter_eq_nil_iff.mpr ?_
          intro other member repeated
          refine unrepeated (List.mem_map.mpr ⟨other, member, ?_⟩)
          rw [of_decide_eq_true repeated, same]
        simp [same, alone]
      · simpa [same] using ih distinct

theorem Table.column?_of_mem {column : Column}
    (distinct : (table.columns.map Column.property).Nodup)
    (member : column ∈ table.columns) : table.column? column.property = some column := by
  have kept : column ∈ table.columns.filter (fun other => other.property = column.property) :=
    List.mem_filter.mpr ⟨member, decide_eq_true rfl⟩
  rw [filter_property distinct] at kept
  exact Option.mem_toList.mp kept

theorem Table.column?_isSome_iff {property : String} :
    (table.column? property).isSome ↔ property ∈ table.columns.map Column.property := by
  simp [column?]

theorem Registration.mapping_properties (registration : Registration) :
    registration.mapping.columns.map Column.property =
      registration.declarations.map Declaration.property := by
  rw [mapping_eq, List.map_map]
  rfl

/-- The columns of a mapping need no check of their own, since a key is a column. -/
theorem Registration.usable_iff :
    registration.Usable ↔ ∃ table, registration.mapping.toTable entity = .ok table := by
  refine ⟨?_, ?_⟩
  · intro usable
    obtain ⟨declaration, member, keyed⟩ := usable.keyed
    have columns : registration.mapping.columns ≠ [] := by
      rw [mapping_eq]
      exact fun none => List.ne_nil_of_mem member (List.map_eq_nil_iff.mp none)
    have key : ∃ key, registration.mapping.key = some key := by
      obtain ⟨key, declares⟩ := Option.isSome_iff_exists.mp keyed
      have some : key ∈ registration.declarations.filterMap Declaration.key? :=
        List.mem_filterMap.mpr ⟨declaration, member, declares⟩
      rw [mapping_eq]
      exact ⟨_, List.getLast?_eq_some_getLast (List.ne_nil_of_mem some)⟩
    obtain ⟨key, keyed⟩ := key
    have distinct := usable.distinct
    rw [← mapping_properties] at distinct
    refine ⟨_, Mapping.toTable_eq_ok.mpr ⟨?_, columns, distinct, key, keyed, rfl⟩⟩
    rw [mapping_eq]
    exact usable.named
  · intro described
    obtain ⟨table, described⟩ := described
    obtain ⟨named, _, distinct, key, keyed, _⟩ := Mapping.toTable_eq_ok.mp described
    rw [mapping_properties] at distinct
    rw [mapping_eq] at named keyed
    obtain ⟨earlier, type, later, declared, _⟩ := Declaration.exists_last_key keyed
    exact ⟨named, ⟨.key key type, by simp [declared], rfl⟩, distinct⟩

theorem Registration.describes_of_toTable
    (described : registration.mapping.toTable entity = .ok table) :
    registration.Describes table := by
  obtain ⟨_, _, distinct, key, keyed, same⟩ := Mapping.toTable_eq_ok.mp described
  have columns : table.columns = registration.mapping.columns := by rw [same]
  rw [← columns] at distinct
  rw [mapping_eq] at keyed
  obtain ⟨earlier, type, later, declared, last⟩ := Declaration.exists_last_key keyed
  have keyColumn : ⟨key, key, type, false⟩ ∈ table.columns := by
    rw [columns, mapping_eq, declared]
    exact List.mem_map.mpr ⟨.key key type, by simp, rfl⟩
  refine ⟨?_, ?_, ?_, Table.filter_property distinct, earlier, type, later, ?_, last, ?_⟩
  · rw [same, mapping_eq]
  · rw [same, mapping_eq]
  · intro property
    rw [Table.column?_isSome_iff, columns, mapping_properties]
  · rw [same]
    exact declared
  · have found := Table.column?_of_mem distinct keyColumn
    rw [same] at found ⊢
    exact found

theorem Catalog.register_of_find? {held : Mapping} (found : catalog.find? entity = some held)
    (mapping : Mapping) : catalog.register entity mapping = .error (.alreadyRegistered entity) := by
  simp [register, contains, found]

theorem Catalog.register_of_absent (absent : catalog.find? entity = none) (mapping : Mapping) :
    catalog.register entity mapping = .ok ⟨catalog.mappings.insert entity mapping⟩ := by
  simp [register, contains, absent]

theorem Catalog.registered_of_find? {held : Mapping}
    (found : catalog.find? registration.entity = some held) :
    catalog.registered registration = catalog := by
  rw [registered, register_of_find? found]
  rfl

/-- A registration adds its mapping unless there is one already. -/
theorem Catalog.find?_registered (catalog : Catalog)
    (registration : Registration) (entity : Entity) :
    (catalog.registered registration).find? entity =
      (catalog.find? entity).or
        (if registration.entity = entity then some registration.mapping else none) := by
  cases held : catalog.find? registration.entity with
  | some mapping =>
      rw [registered_of_find? held]
      by_cases same : registration.entity = entity
      · rw [← same, held]
        rfl
      · rw [if_neg same, Option.or_none]
  | none =>
      have added : (catalog.registered registration).find? entity =
          if registration.entity = entity then some registration.mapping
            else catalog.find? entity := by
        rw [registered, register_of_absent held]
        exact Dictionary.get?_insert ..
      rw [added]
      by_cases same : registration.entity = entity
      · rw [if_pos same, if_pos same, ← same, held]
        rfl
      · rw [if_neg same, if_neg same, Option.or_none]

theorem Catalog.find?_foldl_registered (catalog : Catalog) (registrations : List Registration)
    (entity : Entity) :
    (registrations.foldl Catalog.registered catalog).find? entity =
      (catalog.find? entity).or
        ((Registration.first? registrations entity).map Registration.mapping) := by
  induction registrations generalizing catalog with
  | nil => simp [Registration.first?]
  | cons registration rest ih =>
      rw [List.foldl_cons, ih, find?_registered, Option.or_assoc]
      congr 1
      by_cases same : registration.entity = entity <;> simp [Registration.first?, same]

theorem Catalog.find?_ofRegistrations (registrations : List Registration) (entity : Entity) :
    (ofRegistrations registrations).find? entity =
      (Registration.first? registrations entity).map Registration.mapping :=
  find?_foldl_registered .empty registrations entity

theorem Catalog.ofRegistrations_concat (registrations : List Registration)
    (registration : Registration) :
    ofRegistrations (registrations ++ [registration]) =
      (ofRegistrations registrations).registered registration := by
  simp [ofRegistrations]

theorem Registry.Reachable.resolves_iff (reachable : Reachable catalog registry) :
    (∃ descriptor, (registry.resolve entity).1 = .ok descriptor) ↔
      ∃ mapping, catalog.find? entity = some mapping ∧ ∃ table,
        mapping.toTable entity = .ok table := by
  refine ⟨?_, ?_⟩
  · intro resolves
    obtain ⟨descriptor, resolved⟩ := resolves
    obtain ⟨mapping, found, described⟩ := reachable.resolve_toTable resolved
    exact ⟨mapping, found, _, described⟩
  · intro usable
    obtain ⟨mapping, found, table, described⟩ := usable
    cases outcome : (registry.resolve entity).1 with
    | ok descriptor => exact ⟨descriptor, rfl⟩
    | error cause =>
        have fails := (resolve_error outcome).1
        rw [reachable.faithful.catalog_eq, Catalog.table_eq_ok.mpr ⟨mapping, found, described⟩]
          at fails
        cases fails

theorem Registry.Reachable.reflects
    (reachable : Reachable (Catalog.ofRegistrations registrations) registry)
    (entity : Entity) : registry.Reflects registrations entity := by
  have found := Catalog.find?_ofRegistrations registrations entity
  have resolves : (∃ descriptor, (registry.resolve entity).1 = .ok descriptor) ↔
      ∃ registration, Registration.first? registrations entity = some registration ∧
        registration.Usable := by
    rw [reachable.resolves_iff]
    refine ⟨?_, ?_⟩
    · intro described
      obtain ⟨mapping, held, described⟩ := described
      rw [found] at held
      obtain ⟨registration, first, rfl⟩ := Option.map_eq_some_iff.mp held
      exact ⟨registration, first, Registration.usable_iff.mpr described⟩
    · intro first
      obtain ⟨registration, first, usable⟩ := first
      exact ⟨_, found.trans (by rw [first]; rfl), Registration.usable_iff.mp usable⟩
  refine ⟨found, ?_, ?_, resolves, ?_, ?_⟩
  · intro registration same first
    subst same
    rw [first] at found
    rw [Catalog.ofRegistrations_concat, Catalog.registered, Catalog.register_of_absent found]
    rfl
  · intro registration same first
    subst same
    obtain ⟨held, first⟩ := Option.isSome_iff_exists.mp first
    rw [first] at found
    rw [Catalog.ofRegistrations_concat, Catalog.registered_of_find? found]
    exact ⟨Catalog.register_of_find? found _, rfl⟩
  · intro unusable
    cases outcome : (registry.resolve entity).1 with
    | ok descriptor =>
        obtain ⟨registration, first, usable⟩ := resolves.mp ⟨descriptor, outcome⟩
        exact absurd usable (unusable registration first)
    | error cause => exact ⟨cause, Prod.ext outcome (resolve_error outcome).2⟩
  · intro descriptor resolved
    obtain ⟨mapping, held, described⟩ := reachable.resolve_toTable resolved
    rw [found] at held
    obtain ⟨registration, first, rfl⟩ := Option.map_eq_some_iff.mp held
    exact ⟨registration, first, Registration.describes_of_toTable described⟩

end QueryChain.Schema

namespace QueryChain.Sample

open Schema

def documents : Entity := ⟨"Document"⟩

def tags : Entity := ⟨"Tag"⟩

/-- Documents have two keys, of which the last is the key, and are registered twice; tags have
none. -/
def registrations : List Registration :=
  [⟨documents, "Document", [.key "Title" .text, .nullable "Size" .bigInt, .key "Id" .integer,
      .columnNamed "Author" "author_id" .integer]⟩,
    ⟨tags, "Tag", [.column "Name" .text]⟩,
    ⟨documents, "Archive", [.key "Id" .integer]⟩]

theorem registrations_reflected :
    (∃ descriptor, ((Registry.ofCatalog (.ofRegistrations registrations)).resolve documents).1 =
        .ok descriptor ∧
      descriptor.table.name = "Document" ∧ descriptor.table.key = "Id" ∧
      descriptor.table.columns =
        [⟨"Title", "Title", .text, false⟩, ⟨"Size", "Size", .bigInt, true⟩,
        ⟨"Id", "Id", .integer, false⟩, ⟨"Author", "author_id", .integer, false⟩]) ∧
    ∃ cause, (Registry.ofCatalog (.ofRegistrations registrations)).resolve tags =
      (.error cause, .ofCatalog (.ofRegistrations registrations)) := by
  have reachable := @Registry.Reachable.ofCatalog (.ofRegistrations registrations)
  refine ⟨?_, ?_⟩
  · obtain ⟨descriptor, resolved, key⟩ : ∃ descriptor,
        ((Registry.ofCatalog (.ofRegistrations registrations)).resolve documents).1 =
          .ok descriptor ∧
          descriptor.table.key = "Id" := ⟨_, rfl, rfl⟩
    obtain ⟨_, first, describes⟩ :=
      (Registry.Reachable.reflects reachable documents).describes descriptor resolved
    cases first
    exact ⟨descriptor, resolved, describes.name, key, describes.columns⟩
  · refine (Registry.Reachable.reflects reachable tags).fails ?_
    intro registration first usable
    cases first
    obtain ⟨declaration, member, keyed⟩ := usable.keyed
    cases List.mem_singleton.mp member
    cases keyed

end QueryChain.Sample
