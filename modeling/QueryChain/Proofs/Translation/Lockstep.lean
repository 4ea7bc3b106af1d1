import QueryChain.Proofs.Plan.Columns
import QueryChain.Proofs.Plan.Statement
import QueryChain.Proofs.Schema.Allocation
import QueryChain.Proofs.Translation

namespace QueryChain

open Schema

/-! Translation and planning in lockstep.

A query can be translated with a registry at hand, or planned over the catalog and written with the
aliases that its entities have once all of them are resolved.  Both come to the same: a registry
never takes back what it answered, so what is written early is what would be written in the end,
and what planning resolved is what the translation asked for, also where both fail.
-/

namespace Schema.Registry

variable {β : Type} {catalog : Catalog} {registry before middle after : Registry}

/-- What the first registry holds, the second holds as well. -/
def Grows (before after : Registry) : Prop :=
  ∀ entity descriptor, before.find? entity = some descriptor →
    after.find? entity = some descriptor

/-- A value that is written as such under the aliases of a registry and of all that grow from it. -/
def Spells (registry : Registry) (spelled : Naming → β) (value : β) : Prop :=
  ∀ later, registry.Grows later → spelled later.aliasOf = value

theorem Grows.refl (registry : Registry) : registry.Grows registry := fun _ _ held => held

theorem Grows.trans (first : before.Grows middle) (second : middle.Grows after) :
    before.Grows after :=
  fun entity descriptor held => second entity descriptor (first entity descriptor held)

theorem resolve_grows (registry : Registry) (entity : Entity) :
    registry.Grows (registry.resolve entity).2 := fun _ _ => resolve_kept

theorem Spells.const (value : β) : registry.Spells (fun _ => value) value := fun _ _ => rfl

theorem Spells.map {γ : Type} (wrap : β → γ) {spelled : Naming → β} {value : β}
    (spells : registry.Spells spelled value) :
    registry.Spells (fun naming => wrap (spelled naming)) (wrap value) :=
  fun later grows => congrArg wrap (spells later grows)

theorem Spells.later {spelled : Naming → β} {value : β} (spells : before.Spells spelled value)
    (grows : before.Grows after) : after.Spells spelled value :=
  fun _ further => spells _ (grows.trans further)

theorem Spells.now {spelled : Naming → β} {value : β} (spells : registry.Spells spelled value) :
    spelled registry.aliasOf = value := spells registry (.refl registry)

/-- The alias of an entity that is held is spelled by every later naming. -/
theorem spells_descriptor {entity : Entity} {descriptor : Descriptor}
    (held : registry.find? entity = some descriptor) :
    registry.Spells (fun naming => ⟨descriptor.table, naming entity⟩) descriptor := by
  intro later grows
  simp only [aliasOf, grows entity descriptor held]

/-- An entity that was asked for before changes nothing, whether it was resolved or not. -/
theorem resolve_again {entity : Entity} {entities : List Entity}
    (faithful : registry.Faithful catalog) (member : entity ∈ entities) :
    ((registry.resolveAll entities).resolve entity).2 = registry.resolveAll entities := by
  have kept := resolveAll_faithful faithful entities
  obtain ⟨_, _, call⟩ | ⟨_, _, _, call⟩ | ⟨table, absent, mapped, _⟩ :=
    (registry.resolveAll entities).resolve_cases entity
  · rw [call]
  · rw [call]
  · rw [kept.catalog_eq, ← Catalog.lookup_eq_some] at mapped
    obtain ⟨_, held⟩ := resolveAll_find? faithful member (Option.isSome_of_mem mapped)
    cases absent.symm.trans held

theorem resolveAll_noting (faithful : registry.Faithful catalog) (entity : Entity)
    (entities : List Entity) :
    registry.resolveAll (noting entity entities) =
      ((registry.resolveAll entities).resolve entity).2 := by
  unfold noting
  split
  · rename_i member
    exact (resolve_again faithful member).symm
  · rw [resolveAll, List.foldl_append]
    rfl

end Schema.Registry

/-- Tokens as they come out under each naming. -/
abbrev Writing := Naming → List (Sql.Token Sql.Reference)

def ColumnRef.under (found : ColumnRef) (naming : Naming) : NamedColumn :=
  ⟨found.entity, naming found.entity, found.column⟩

def Sql.Operand.written (operand : Sql.Operand ColumnRef) : Writing :=
  fun naming => [(operand.map (·.reference naming)).token]

def Sql.Condition.written (condition : Sql.Condition ColumnRef) : Writing :=
  fun naming => (condition.map (·.reference naming)).tokens

/-- What is written for the conditions of a draft. -/
def Draft.predicateTokens (draft : Draft) : Writing :=
  fun naming => Sql.conjunctionTokens (draft.conditions.map (·.map (·.reference naming)))

/-- A column that is known is written with its reference. -/
theorem Schema.Registry.Spells.reference {registry : Registry} {found : ColumnRef}
    {named : NamedColumn} (spells : registry.Spells found.under named) :
    registry.Spells (found.reference ·) named.reference := by
  intro later grows
  rw [← spells later grows]
  rfl

/-- A draft and a translation that have come equally far.  The translation may be ahead by some
tokens of a condition that the draft does not have yet. -/
structure Draft.Shows (start : Registry) (ahead : Writing) (draft : Draft)
    (translation : Translation) : Prop where
  registry : translation.registry = start.resolveAll draft.resolved
  outline : translation.outline = draft.outline
  tables : translation.tables = draft.tables
  referenced : translation.referenced = draft.referenced
  parameters : translation.writer.parameters = draft.parameters
  joins : translation.registry.Spells (fun naming => draft.joins.map (·.named naming))
    translation.writer.joins
  order : translation.registry.Spells (fun naming => draft.order.map (·.named naming))
    translation.writer.order
  predicate : translation.registry.Spells
    (fun naming => draft.predicateTokens naming ++ ahead naming) translation.writer.predicate

theorem Draft.Shows.write {start : Registry} {draft : Draft} {translation : Translation}
    {ahead written : Writing} {tokens : List (Sql.Token Sql.Reference)}
    (shows : draft.Shows start ahead translation)
    (spells : translation.registry.Spells written tokens) :
    draft.Shows start (fun naming => ahead naming ++ written naming)
      { translation with writer := translation.writer.write tokens } := by
  refine { shows with predicate := ?_ }
  intro later grows
  change draft.predicateTokens _ ++ (ahead _ ++ written _) = translation.writer.predicate ++ tokens
  rw [← shows.predicate later grows, ← spells later grows, List.append_assoc]

namespace Translating

variable {α β γ δ : Type} {catalog : Catalog} {start world : Registry} {ahead : Writing}

/-- Both fail with one error, or both succeed, with a value and what is written for it.  The
registry is what the entities resolved so far make of the first one. -/
inductive Outcomes (start before : Registry) (after : α → Writing)
    (spelled : α → Naming → β) :
    Except QueryError α × Draft → Except QueryError β × Translation → Prop where
  | ok {value : α} {other : β} {draft : Draft} {translation : Translation}
      (grows : before.Grows translation.registry)
      (spells : translation.registry.Spells (spelled value) other)
      (shows : draft.Shows start (after value) translation) :
      Outcomes start before after spelled (.ok value, draft) (.ok other, translation)
  | error {cause : QueryError} {draft : Draft} {translation : Translation}
      (registry : translation.registry = start.resolveAll draft.resolved) :
      Outcomes start before after spelled (.error cause, draft) (.error cause, translation)

/-- A step of planning and one of a translation that do the same from any registry on that has
grown from `world`. -/
def Follows (start world : Registry) (ahead : Writing) (after : α → Writing)
    (spelled : α → Naming → β) (planned : Planning α) (translated : Translating β) : Prop :=
  ∀ draft translation, world.Grows translation.registry →
    draft.Shows start ahead translation →
    Outcomes start translation.registry after spelled (planned.run.run draft)
      (translated.run.run translation)

namespace Follows

variable {after : α → Writing} {further : γ → Writing} {spelled : α → Naming → β}
  {spelledToo : γ → Naming → δ} {planned : Planning α} {translated : Translating β}
  {next : α → Planning γ} {following : β → Translating δ}

theorem pure {value : α} {other : β} (same : after value = ahead)
    (spells : world.Spells (spelled value) other) :
    Follows start world ahead after spelled (pure value) (pure other) :=
  fun _ _ grows shows => .ok (.refl _) (spells.later grows) (same ▸ shows)

theorem throw {cause : QueryError} :
    Follows start world ahead after spelled (throw cause) (throw cause) :=
  fun _ _ _ shows => .error shows.registry

/-- What is known of the first step is known in the registry that the second one starts from. -/
theorem bind (follows : Follows start world ahead after spelled planned translated)
    (continues : ∀ reached value other, world.Grows reached →
      reached.Spells (spelled value) other →
        Follows start reached (after value) further spelledToo (next value) (following other)) :
    Follows start world ahead further spelledToo (planned >>= next) (translated >>= following) := by
  intro draft translation grows shows
  have outcomes := follows draft translation grows shows
  rcases run : planned.run.run draft with ⟨outcome, middle⟩
  rcases runToo : translated.run.run translation with ⟨outcome', middle'⟩
  rw [run, runToo] at outcomes
  cases outcomes with
  | error registry =>
      rw [Planning.run_bind_error run, Planning.run_bind_error runToo]
      exact .error registry
  | ok growsOn spells shows =>
      rw [Planning.run_bind_ok run, Planning.run_bind_ok runToo]
      have outcomes := continues _ _ _ (grows.trans growsOn) spells middle middle' (.refl _) shows
      generalize (next _).run.run middle = reached at outcomes ⊢
      generalize (following _).run.run middle' = reached' at outcomes ⊢
      cases outcomes with
      | ok growsFurther spells shows => exact .ok (growsOn.trans growsFurther) spells shows
      | error registry => exact .error registry

/-- A check that a step starts with. -/
theorem guarded {failed : Prop} [Decidable failed] {cause : QueryError}
    {left : PUnit → Planning α} {right : PUnit → Translating β}
    (follows : Follows start world ahead after spelled planned translated) :
    Follows start world ahead after spelled
      (if failed then MonadExcept.throw cause >>= left else planned)
      (if failed then MonadExcept.throw cause >>= right else translated) := by
  by_cases failing : failed
  · rw [if_pos failing, if_pos failing]
    intro draft translation _ shows
    exact .error shows.registry
  · rwa [if_neg failing, if_neg failing]

theorem settle {outcome : Except QueryError α} :
    Follows start world ahead (fun _ => ahead) (fun value _ => value) (Planning.settle outcome)
      (Translating.settle outcome) := by
  cases outcome with
  | error cause => exact throw
  | ok value => exact pure rfl (.const value)

/-- A look at the states that both are in. -/
theorem look {next : Draft → Planning α} {following : Translation → Translating β}
    (continues : ∀ draft translation, world.Grows translation.registry →
      draft.Shows start ahead translation →
        Follows start translation.registry ahead after spelled (next draft)
          (following translation)) :
    Follows start world ahead after spelled (get >>= next) (get >>= following) := by
  intro draft translation grows shows
  exact continues draft translation grows shows draft translation (.refl _) shows

theorem modify {ahead further : Writing} {change : Draft → Draft}
    {changeToo : Translation → Translation}
    (same : ∀ translation, (changeToo translation).registry = translation.registry)
    (keeps : ∀ draft translation, world.Grows translation.registry →
      draft.Shows start ahead translation →
        (change draft).Shows start further (changeToo translation)) :
    Follows start world ahead (fun _ => further) (fun _ _ => ⟨⟩) (modify change)
      (modify changeToo) := by
  intro draft translation grows shows
  refine .ok ?_ (.const _) (keeps draft translation grows shows)
  rw [same]
  exact .refl _

/-- The translation writes tokens of what the planning of the condition comes to in the end. -/
theorem write {tokens : List (Sql.Token Sql.Reference)} {written : Writing}
    {rest : Unit → Translating β} (spells : world.Spells written tokens)
    (follows : Follows start world (fun naming => ahead naming ++ written naming) after spelled
      planned (rest ())) :
    Follows start world ahead after spelled planned (Translating.write tokens >>= rest) := by
  intro draft translation grows shows
  exact follows draft { translation with writer := translation.writer.write tokens } grows
    (shows.write (spells.later grows))

/-- The tokens that a translation ends with. -/
theorem close {value : α} {tokens : List (Sql.Token Sql.Reference)} {written : Writing}
    (spells : world.Spells written tokens)
    (same : after value = fun naming => ahead naming ++ written naming) :
    Follows start world ahead after (fun _ _ => ()) (Pure.pure value)
      (Translating.write tokens) := by
  have ends : Translating.write tokens = (Translating.write tokens >>= fun _ => Pure.pure ()) :=
    bind_pure_unit.symm
  rw [ends]
  exact write spells (pure same (.const ()))

/-- A value that planning wraps when the translation has nothing more to write. -/
theorem wrapped {translated : Translating Unit} {wrap : α → γ}
    (follows : Follows start world ahead after (fun _ _ => ()) planned translated)
    (same : ∀ value, further (wrap value) = after value) :
    Follows start world ahead further (fun _ _ => ())
      (planned >>= fun value => Pure.pure (wrap value)) translated := by
  have ends : translated = (translated >>= fun _ => Pure.pure ()) := bind_pure_unit.symm
  rw [ends]
  exact bind follows fun _ value _ _ _ => pure (same value) (.const ())

end Follows

section Columns

variable {entity : Entity}

theorem follows_noteReference :
    Follows start world ahead (fun _ => ahead) (fun _ _ => ()) (Planning.noteReference entity)
      (noteReference entity) :=
  .modify (fun _ => rfl) fun _ _ _ shows =>
    { shows with referenced := congrArg (noting entity) shows.referenced }

/-- Planning resolves an entity where a translation asks for its descriptor. -/
theorem follows_resolve (faithful : start.Faithful catalog) :
    Follows start world ahead (fun _ => ahead) (fun table naming => ⟨table, naming entity⟩)
      (Planning.resolve catalog entity) (descriptor entity) := by
  intro draft translation _ shows
  have reached := Registry.resolveAll_faithful faithful draft.resolved
  have noted := Registry.resolveAll_noting faithful entity draft.resolved
  rw [← shows.registry] at reached noted
  have grows := Registry.resolve_grows translation.registry entity
  have run : (descriptor entity).run.run translation =
      ((translation.registry.resolve entity).1.mapError .configuration,
        { translation with registry := (translation.registry.resolve entity).2 }) := rfl
  rw [run]
  cases answer : (translation.registry.resolve entity).1 with
  | error cause =>
      obtain ⟨unmapped, same⟩ := Registry.resolve_error answer
      rw [reached.catalog_eq] at unmapped
      have fails : (Planning.resolve catalog entity).run.run draft =
          (.error (.configuration cause), draft) := by
        rw [Planning.resolve, unmapped]
        rfl
      rw [fails]
      exact .error (same.trans shows.registry)
  | ok found =>
      have held := Registry.resolve_ok answer
      have mapped := (Registry.resolve_faithful reached entity).table_eq entity found held
      have yields := Planning.yields_resolve.mpr
        ⟨mapped, (rfl : _ = { draft with resolved := noting entity draft.resolved })⟩
      unfold Planning.Yields at yields
      rw [yields]
      exact .ok grows (Registry.spells_descriptor held)
        { shows with
          registry := noted.symm
          joins := shows.joins.later grows
          order := shows.order.later grows
          predicate := shows.predicate.later grows }

theorem follows_column (faithful : start.Faithful catalog) {property : String} :
    Follows start world ahead (fun _ => ahead) ColumnRef.under
      (Planning.column catalog entity property) (column entity property) := by
  refine .bind (follows_resolve faithful) ?_
  intro reached table found _ spells
  have same : found.table = table := congrArg Descriptor.table spells.now.symm
  rw [same]
  cases table.column? property with
  | none => exact .throw
  | some selected =>
      refine .bind follows_noteReference ?_
      intro further _ _ grows _
      refine .pure rfl ?_
      intro later growsOn
      rw [← spells later (grows.trans growsOn)]
      rfl

theorem follows_columnOr (faithful : start.Faithful catalog) {expr : Expr}
    {cause : MalformedQuery} :
    Follows start world ahead (fun _ => ahead) ColumnRef.under
      (Planning.columnOr catalog expr cause) (columnOr expr cause) := by
  unfold Planning.columnOr columnOr
  cases expr.column? with
  | none => exact .throw
  | some member => exact follows_column faithful

theorem follows_requireUnlimited {operator : String} :
    Follows start world ahead (fun _ => ahead) (fun _ _ => ())
      (Planning.requireUnlimited operator) (requireUnlimited operator) := by
  refine .look fun draft translation _ shows => ?_
  rw [shows.outline]
  exact .settle

theorem follows_onOutline {call : Outline → Except UsageError Unit × Outline} :
    Follows start world ahead (fun _ => ahead) (fun _ _ => ())
      (Planning.onOutline call) (onOutline call) := by
  refine .look fun draft translation _ shows => ?_
  rw [shows.outline]
  refine .bind (.modify (fun _ => rfl) fun _ _ _ shows => { shows with outline := rfl }) ?_
  intro _ _ _ _ _
  exact .settle

end Columns

end Translating

end QueryChain
