import Mathlib.Algebra.Order.Ring.Nat
import Mathlib.Logic.Relation
import QueryChain.Proofs.Query.Compiled
import QueryChain.Proofs.Schema.Allocation

namespace QueryChain.Schema.Concurrent

/-! Calls on one registry from several threads.

A call takes a few atomic steps, and the steps of different calls come in any order.
Between its first look and its insertion a call takes the entry of its entity, which one
call holds at a time.  The counter of aliases is not guarded: calls for different
entities move it in turn.

Descriptors and the aliases of pending insertions together use up the free words that the
counter has passed.  A step keeps this, and so does a run.
-/

/-- Where a call stands between two atomic steps. -/
inductive Stage where
  | looking
  | missed
  /-- The entry is taken, and read as what it was then. -/
  | holding (entry : Option Descriptor)
  | numbering (table : Table)
  | numbered (table : Table) (index : Nat)
  | failed (cause : ConfigurationError)
  | found (descriptor : Descriptor)
  | created (descriptor : Descriptor)

namespace Stage

/-- What the entry of the entity was when it was taken, as long as it is not released. -/
def entry? : Stage → Option (Option Descriptor)
  | .holding entry => some entry
  | .numbering _ => some none
  | .numbered _ _ => some none
  | _ => none

/-- The alias of a pending insertion. -/
def alias? : Stage → Option String
  | .numbered _ index => some (word index)
  | _ => none

def outcome? : Stage → Option (Except ConfigurationError Descriptor)
  | .failed cause => some (.error cause)
  | .found descriptor => some (.ok descriptor)
  | .created descriptor => some (.ok descriptor)
  | _ => none

/-- A call that builds a descriptor, or has built one. -/
def builds : Stage → Bool
  | .numbering _ => true
  | .numbered _ _ => true
  | .created _ => true
  | _ => false

end Stage

structure Call where
  entity : Entity
  stage : Stage
  /-- How often the call has moved the counter. -/
  moves : Nat

namespace Call

def start (entity : Entity) : Call := ⟨entity, .looking, 0⟩

def Holds (call : Call) (entity : Entity) : Prop :=
  call.stage.entry?.isSome ∧ call.entity = entity

/-- One atomic step of a call.  The first look does not wait for an entry that is held;
taking the entry does. -/
inductive Step (others : List Call) : Registry → Call → Registry → Call → Prop where
  | hit {registry : Registry} {entity : Entity} {moves : Nat} {descriptor : Descriptor}
      (present : registry.find? entity = some descriptor) :
      Step others registry ⟨entity, .looking, moves⟩ registry
        ⟨entity, .found descriptor, moves⟩
  | miss {registry : Registry} {entity : Entity} {moves : Nat}
      (absent : registry.find? entity = none) :
      Step others registry ⟨entity, .looking, moves⟩ registry ⟨entity, .missed, moves⟩
  | take {registry : Registry} {entity : Entity} {moves : Nat}
      (free : ∀ other ∈ others, ¬other.Holds entity) :
      Step others registry ⟨entity, .missed, moves⟩
        registry ⟨entity, .holding (registry.find? entity), moves⟩
  | occupied {registry : Registry} {entity : Entity} {moves : Nat} {descriptor : Descriptor} :
      Step others registry ⟨entity, .holding (some descriptor), moves⟩
        registry ⟨entity, .found descriptor, moves⟩
  | fail {registry : Registry} {entity : Entity} {moves : Nat} {cause : ConfigurationError}
      (unmapped : registry.catalog.table entity = .error cause) :
      Step others registry ⟨entity, .holding none, moves⟩ registry
        ⟨entity, .failed cause, moves⟩
  | build {registry : Registry} {entity : Entity} {moves : Nat} {table : Table}
      (mapped : registry.catalog.table entity = .ok table) :
      Step others registry ⟨entity, .holding none, moves⟩ registry
        ⟨entity, .numbering table, moves⟩
  | skip {registry : Registry} {entity : Entity} {moves : Nat} {table : Table}
      (reserved : isReserved (word registry.nextAlias) = true) :
      Step others registry ⟨entity, .numbering table, moves⟩
        { registry with nextAlias := registry.nextAlias + 1 }
        ⟨entity, .numbering table, moves + 1⟩
  | number {registry : Registry} {entity : Entity} {moves : Nat} {table : Table}
      (free : isReserved (word registry.nextAlias) = false) :
      Step others registry ⟨entity, .numbering table, moves⟩
        { registry with nextAlias := registry.nextAlias + 1 }
        ⟨entity, .numbered table registry.nextAlias, moves + 1⟩
  | insert {registry : Registry} {entity : Entity} {moves : Nat} {table : Table} {index : Nat} :
      Step others registry ⟨entity, .numbered table index, moves⟩
        { registry with
          descriptors := registry.descriptors.insert entity ⟨table, word index⟩ }
        ⟨entity, .created ⟨table, word index⟩, moves⟩

end Call

structure State where
  registry : Registry
  /-- The calls of each thread, in the order in which it makes them. -/
  threads : List (List Call)

namespace State

def calls (state : State) : List Call := state.threads.flatten

/-- An empty registry, with the entities that each thread will call for. -/
def start (catalog : Catalog) (requests : List (List Entity)) : State :=
  ⟨.ofCatalog catalog, requests.map (·.map Call.start)⟩

/-- A step of the first call of some thread that has not returned. -/
inductive Step : State → State → Prop where
  | call {registry next : Registry} {before after : List (List Call)}
      {earlier later : List Call} {call moved : Call}
      (returned : ∀ other ∈ earlier, other.stage.outcome?.isSome)
      (step : call.Step (before.flatten ++ earlier ++ later ++ after.flatten) registry next moved) :
      Step ⟨registry, before ++ (earlier ++ call :: later) :: after⟩
        ⟨next, before ++ (earlier ++ moved :: later) :: after⟩

/-- Any number of steps, of any threads in any order. -/
abbrev Run : State → State → Prop := Relation.ReflTransGen Step

/-- The aliases of descriptors and of pending insertions. -/
def aliases (state : State) : List String :=
  state.registry.descriptors.map (fun entry => entry.2.qualifier) ++
    state.calls.filterMap (·.stage.alias?)

structure Safe (state : State) : Prop where
  unique : (state.registry.descriptors.map Prod.fst).Nodup
  permanent : ∀ later, Run state later → ∀ entity descriptor,
    state.registry.find? entity = some descriptor → later.registry.find? entity = some descriptor
  agreed : ∀ call ∈ state.calls, ∀ descriptor, call.stage.outcome? = some (.ok descriptor) →
    state.registry.find? call.entity = some descriptor
  separate : ∀ entity other descriptor another, state.registry.find? entity = some descriptor →
    state.registry.find? other = some another → descriptor.qualifier = another.qualifier →
      entity = other
  unreserved : ∀ entity descriptor, state.registry.find? entity = some descriptor →
    isReserved descriptor.qualifier = false
  passed : ∀ index < state.registry.nextAlias,
    isReserved (word index) = true ∨ state.aliases.count (word index) = 1
  failures : ∀ call ∈ state.calls, ∀ cause, call.stage = .failed cause → call.moves = 0
  hits : ∀ call ∈ state.calls, ∀ descriptor, call.stage = .found descriptor → call.moves = 0
  counted : state.registry.nextAlias = (state.calls.map Call.moves).sum

end State

/-- The words of the indices below a counter that are not reserved. -/
def freeWords (count : Nat) : List String :=
  ((List.range count).map word).filter fun text => !isReserved text

theorem freeWords_succ (count : Nat) :
    freeWords (count + 1) =
      freeWords count ++ if isReserved (word count) then [] else [word count] := by
  cases reserved : isReserved (word count) <;> simp [freeWords, List.range_succ, reserved]

theorem count_freeWords {index count : Nat} (free : isReserved (word index) = false)
    (below : index < count) : (freeWords count).count (word index) = 1 := by
  have distinct : ((List.range count).map word).Nodup := List.nodup_range.map word_injective
  have member : word index ∈ (List.range count).map word :=
    List.mem_map_of_mem (List.mem_range.mpr below)
  exact List.count_eq_one_of_mem (distinct.filter _)
    (List.mem_filter.mpr ⟨member, by simp [free]⟩)

theorem not_reserved_of_mem {count : Nat} {text : String} (member : text ∈ freeWords count) :
    isReserved text = false := by
  simpa using (List.mem_filter.mp member).2

theorem freeWords_nodup (count : Nat) : (freeWords count).Nodup :=
  (List.nodup_range.map word_injective).filter _

/-- What holds after every step, in whatever order the calls are listed. -/
structure Consistent (registry : Registry) (calls : List Call) : Prop where
  unique : (registry.descriptors.map Prod.fst).Nodup
  exclusive : calls.Pairwise fun first second =>
    ∀ entity, first.Holds entity → ¬second.Holds entity
  /-- An entry that is held reads as it did when it was taken. -/
  entries : ∀ call ∈ calls, ∀ entry, call.stage.entry? = some entry →
    registry.find? call.entity = entry
  returned : ∀ call ∈ calls, ∀ descriptor, call.stage.outcome? = some (.ok descriptor) →
    registry.find? call.entity = some descriptor
  aliases : (registry.descriptors.map (fun entry => entry.2.qualifier) ++
    calls.filterMap (·.stage.alias?)).Perm (freeWords registry.nextAlias)
  unmoved : ∀ call ∈ calls, call.stage.builds = false → call.moves = 0
  counted : registry.nextAlias = (calls.map Call.moves).sum

variable {others calls : List Call} {registry next : Registry} {call moved : Call}
  {other : Entity} {descriptor : Descriptor}

theorem Consistent.perm (consistent : Consistent registry calls) {listed : List Call}
    (same : calls.Perm listed) : Consistent registry listed where
  unique := consistent.unique
  exclusive := (same.pairwise_iff fun apart entity holds held => apart entity held holds).mp
    consistent.exclusive
  entries := fun call member => consistent.entries call (same.mem_iff.mpr member)
  returned := fun call member => consistent.returned call (same.mem_iff.mpr member)
  aliases := ((same.filterMap _).append_left _).symm.trans consistent.aliases
  unmoved := fun call member => consistent.unmoved call (same.mem_iff.mpr member)
  counted := consistent.counted.trans (same.map Call.moves).sum_nat

/-- A pending insertion adds an entry at the end. -/
theorem Consistent.insert_eq {entity : Entity} {table : Table} {index moves : Nat}
    (consistent : Consistent registry (⟨entity, .numbered table index, moves⟩ :: others)) :
    registry.descriptors.insert entity descriptor =
      registry.descriptors ++ [(entity, descriptor)] := by
  have absent : registry.find? entity = none := consistent.entries _ List.mem_cons_self none rfl
  exact Dictionary.insert_of_absent (Dictionary.get?_eq_none.mp absent)

namespace Call.Step

theorem vacant {entity : Entity} {moves : Nat} (absent : registry.find? entity = none)
    (free : ∀ other ∈ others, ¬other.Holds entity) :
    Call.Step others registry ⟨entity, .missed, moves⟩ registry
      ⟨entity, .holding none, moves⟩ := by
  rw [← absent]
  exact .take free

/-- A call changes no entry but the one it holds. -/
theorem find?_eq (step : call.Step others registry next moved) (apart : ¬call.Holds other) :
    next.find? other = registry.find? other := by
  cases step with
  | @insert entity moves table index =>
      have different : entity ≠ other := fun same => apart ⟨rfl, same⟩
      exact (Dictionary.get?_insert ..).trans (if_neg different)
  | _ => rfl

theorem unique (consistent : Consistent registry (call :: others))
    (step : call.Step others registry next moved) :
    (next.descriptors.map Prod.fst).Nodup := by
  cases step with
  | @insert entity moves table index =>
      have absent : entity ∉ registry.descriptors.map Prod.fst :=
        Dictionary.get?_eq_none.mp (consistent.entries _ List.mem_cons_self none rfl)
      simp only [consistent.insert_eq, List.map_append, List.map_singleton]
      rw [← List.concat_eq_append]
      exact consistent.unique.concat absent
  | _ => exact consistent.unique

theorem exclusive (consistent : Consistent registry (call :: others))
    (step : call.Step others registry next moved) :
    (moved :: others).Pairwise fun first second =>
      ∀ entity, first.Holds entity → ¬second.Holds entity := by
  obtain ⟨apart, rest⟩ := List.pairwise_cons.mp consistent.exclusive
  refine List.pairwise_cons.mpr ⟨?_, rest⟩
  intro another member entity holds
  cases step with
  | take free =>
      cases holds.2
      exact free another member
  | build => exact apart another member entity ⟨rfl, holds.2⟩
  | skip => exact apart another member entity ⟨rfl, holds.2⟩
  | number => exact apart another member entity ⟨rfl, holds.2⟩
  | _ => cases holds.1

theorem entries (consistent : Consistent registry (call :: others))
    (step : call.Step others registry next moved) :
    ∀ another ∈ moved :: others, ∀ entry, another.stage.entry? = some entry →
      next.find? another.entity = entry := by
  intro another member entry held
  rcases List.mem_cons.mp member with rfl | among
  · have before := consistent.entries call List.mem_cons_self
    cases step with
    | take => cases held; rfl
    | build => exact before entry held
    | skip => exact before entry held
    | number => exact before entry held
    | _ => cases held
  · have apart : ¬call.Holds another.entity := by
      intro holds
      have separate := (List.pairwise_cons.mp consistent.exclusive).1 another among
      exact separate another.entity holds ⟨by simp [held], rfl⟩
    rw [step.find?_eq apart]
    exact consistent.entries another (List.mem_cons_of_mem _ among) entry held

/-- An entry is inserted only where there was none. -/
theorem find?_kept (consistent : Consistent registry (call :: others))
    (step : call.Step others registry next moved)
    (present : registry.find? other = some descriptor) :
    next.find? other = some descriptor := by
  cases step with
  | @insert entity moves table index =>
      have absent : registry.find? entity = none :=
        consistent.entries _ List.mem_cons_self none rfl
      have different : entity ≠ other := by
        rintro rfl
        cases absent.symm.trans present
      exact (Dictionary.get?_insert ..).trans ((if_neg different).trans present)
  | _ => exact present

theorem returned (consistent : Consistent registry (call :: others))
    (step : call.Step others registry next moved) :
    ∀ another ∈ moved :: others, ∀ descriptor,
      another.stage.outcome? = some (.ok descriptor) →
        next.find? another.entity = some descriptor := by
  intro another member descriptor answered
  rcases List.mem_cons.mp member with rfl | among
  · cases step with
    | hit present => cases answered; exact present
    | occupied =>
        cases answered
        exact consistent.entries _ List.mem_cons_self _ rfl
    | insert =>
        cases answered
        exact (Dictionary.get?_insert ..).trans (if_pos rfl)
    | _ => cases answered
  · have present := consistent.returned another (List.mem_cons_of_mem _ among) descriptor answered
    exact step.find?_kept consistent present

theorem aliases (consistent : Consistent registry (call :: others))
    (step : call.Step others registry next moved) :
    (next.descriptors.map (fun entry => entry.2.qualifier) ++
      (moved :: others).filterMap (·.stage.alias?)).Perm (freeWords next.nextAlias) := by
  have before := consistent.aliases
  cases step with
  | skip reserved =>
      rw [freeWords_succ, reserved, if_pos rfl, List.append_nil]
      exact before
  | number free =>
      simp only [List.filterMap_cons, Stage.alias?] at before ⊢
      rw [freeWords_succ, free, if_neg Bool.false_ne_true]
      exact List.perm_middle.trans ((before.cons _).trans (List.perm_append_singleton _ _).symm)
  | @insert entity moves table index =>
      simp only [List.filterMap_cons, Stage.alias?] at before
      simp only [consistent.insert_eq, List.map_append, List.map_singleton, List.append_assoc]
      exact before
  | _ => exact before

theorem unmoved (consistent : Consistent registry (call :: others))
    (step : call.Step others registry next moved) :
    ∀ another ∈ moved :: others, another.stage.builds = false → another.moves = 0 := by
  intro another member idle
  rcases List.mem_cons.mp member with rfl | among
  · have before := consistent.unmoved call List.mem_cons_self
    cases step with
    | build => cases idle
    | skip => cases idle
    | number => cases idle
    | insert => cases idle
    | _ => exact before rfl
  · exact consistent.unmoved another (List.mem_cons_of_mem _ among) idle

theorem counted (consistent : Consistent registry (call :: others))
    (step : call.Step others registry next moved) :
    next.nextAlias = ((moved :: others).map Call.moves).sum := by
  have before := consistent.counted
  simp only [List.map_cons, List.sum_cons] at before ⊢
  cases step <;> simp only at before ⊢ <;> omega

theorem consistent (consistent : Consistent registry (call :: others))
    (step : call.Step others registry next moved) : Consistent next (moved :: others) where
  unique := step.unique consistent
  exclusive := step.exclusive consistent
  entries := step.entries consistent
  returned := step.returned consistent
  aliases := step.aliases consistent
  unmoved := step.unmoved consistent
  counted := step.counted consistent

end Call.Step

section

variable {catalog : Catalog} {requests : List (List Entity)} {state following : State}

/-- The calls of all threads, with a call in front. -/
theorem calls_perm (before after : List (List Call)) (earlier later : List Call) :
    (before ++ (earlier ++ call :: later) :: after).flatten.Perm
      (call :: (before.flatten ++ earlier ++ later ++ after.flatten)) := by
  have listed : (before ++ (earlier ++ call :: later) :: after).flatten =
      (before.flatten ++ earlier) ++ call :: (later ++ after.flatten) := by
    simp
  rw [listed, List.append_assoc _ later]
  exact List.perm_middle

theorem start_consistent (catalog : Catalog) (requests : List (List Entity)) :
    Consistent (.ofCatalog catalog) (State.start catalog requests).calls := by
  have looking : ∀ call ∈ (State.start catalog requests).calls,
      ∃ entity, call = Call.start entity := by
    intro call member
    obtain ⟨thread, among, within⟩ := List.mem_flatten.mp member
    obtain ⟨entities, _, rfl⟩ := List.mem_map.mp among
    obtain ⟨entity, _, rfl⟩ := List.mem_map.mp within
    exact ⟨entity, rfl⟩
  refine ⟨List.nodup_nil, ?_, ?_, ?_, ?_, ?_, ?_⟩
  · apply List.pairwise_of_forall_mem_list
    intro call member _ _ _ holds
    obtain ⟨entity, rfl⟩ := looking call member
    cases holds.1
  · intro call member entry held
    obtain ⟨entity, rfl⟩ := looking call member
    cases held
  · intro call member descriptor answered
    obtain ⟨entity, rfl⟩ := looking call member
    cases answered
  · have pending : (State.start catalog requests).calls.filterMap (·.stage.alias?) = [] := by
      apply List.filterMap_eq_nil_iff.mpr
      intro call member
      obtain ⟨entity, rfl⟩ := looking call member
      rfl
    rw [pending]
    exact .nil
  · intro call member _
    obtain ⟨entity, rfl⟩ := looking call member
    rfl
  · apply Eq.symm
    apply List.sum_eq_zero_iff_forall_eq_nat.mpr
    intro moves member
    obtain ⟨call, among, rfl⟩ := List.mem_map.mp member
    obtain ⟨entity, rfl⟩ := looking call among
    rfl

namespace State

theorem Step.consistent (step : Step state following)
    (consistent : Consistent state.registry state.calls) :
    Consistent following.registry following.calls := by
  cases step with
  | call _ step =>
      have among := consistent.perm (calls_perm _ _ _ _)
      exact (step.consistent among).perm (calls_perm _ _ _ _).symm

theorem Step.find?_kept (step : Step state following)
    (consistent : Consistent state.registry state.calls)
    (present : state.registry.find? other = some descriptor) :
    following.registry.find? other = some descriptor := by
  cases step with
  | call _ step => exact step.find?_kept (consistent.perm (calls_perm _ _ _ _)) present

theorem run_consistent (run : Run state following)
    (consistent : Consistent state.registry state.calls) :
    Consistent following.registry following.calls := by
  induction run with
  | refl => exact consistent
  | tail _ step ih => exact step.consistent ih

theorem run_find?_kept (run : Run state following)
    (consistent : Consistent state.registry state.calls)
    (present : state.registry.find? other = some descriptor) :
    following.registry.find? other = some descriptor := by
  induction run with
  | refl => exact present
  | tail run step ih => exact step.find?_kept (run_consistent run consistent) ih

end State

namespace Consistent

theorem alias_mem (consistent : Consistent registry calls)
    (present : registry.find? other = some descriptor) :
    descriptor.qualifier ∈ freeWords registry.nextAlias := by
  have member := Dictionary.mem_of_get? present
  apply consistent.aliases.subset
  exact List.mem_append_left _ (List.mem_map.mpr ⟨_, member, rfl⟩)

theorem separate {entity : Entity} {another : Descriptor} (consistent : Consistent registry calls)
    (present : registry.find? entity = some descriptor)
    (presentToo : registry.find? other = some another)
    (same : descriptor.qualifier = another.qualifier) : entity = other := by
  have distinct := consistent.aliases.nodup_iff.mpr (freeWords_nodup _)
  have entries := List.inj_on_of_nodup_map (List.nodup_append.mp distinct).1
    (Dictionary.mem_of_get? present) (Dictionary.mem_of_get? presentToo) same
  exact congrArg Prod.fst entries

theorem safe (consistent : Consistent state.registry state.calls) : state.Safe where
  unique := consistent.unique
  permanent := fun _ run _ _ present => State.run_find?_kept run consistent present
  agreed := consistent.returned
  separate := fun _ _ _ _ present presentToo same => consistent.separate present presentToo same
  unreserved := fun _ _ present => not_reserved_of_mem (consistent.alias_mem present)
  passed := by
    intro index below
    cases reserved : isReserved (word index) with
    | true => exact .inl rfl
    | false =>
        apply Or.inr
        rw [State.aliases, consistent.aliases.count_eq]
        exact count_freeWords reserved below
  failures := fun call member cause failed => consistent.unmoved call member (by rw [failed]; rfl)
  hits := fun call member descriptor found => consistent.unmoved call member (by rw [found]; rfl)
  counted := consistent.counted

end Consistent

/-- Calls on one registry are safe, however their steps are interleaved. -/
theorem safe_of_run (run : State.Run (.start catalog requests) state) : state.Safe :=
  (State.run_consistent run (start_consistent catalog requests)).safe

end

section

variable {earlier later : List Call} {entity : Entity}

theorem Call.Step.alone (returned : ∀ other ∈ earlier, other.stage.outcome?.isSome)
    (step : call.Step (earlier ++ later) registry next moved) :
    State.Step ⟨registry, [earlier ++ call :: later]⟩
      ⟨next, [earlier ++ moved :: later]⟩ := by
  apply @State.Step.call registry next [] [] earlier later call moved returned
  simpa using step

/-- The counter moves past the reserved words, and past the word that is taken. -/
theorem run_numbering (returned : ∀ other ∈ earlier, other.stage.outcome?.isSome)
    (registry : Registry) (entity : Entity) (table : Table) (moves : Nat) :
    ∃ total, State.Run ⟨registry, [earlier ++ ⟨entity, .numbering table, moves⟩ :: later]⟩
      ⟨{ registry with nextAlias := nextFree registry.nextAlias + 1 },
        [earlier ++ ⟨entity, .numbered table (nextFree registry.nextAlias), total⟩ ::
          later]⟩ := by
  obtain ⟨catalog, descriptors, index⟩ := registry
  fun_induction nextFree index generalizing moves with
  | case1 index reserved ih =>
      obtain ⟨total, run⟩ := ih (moves + 1)
      exact ⟨total, .head (Call.Step.alone returned (.skip reserved)) run⟩
  | case2 index free =>
      have unreserved : isReserved (word index) = false := by simpa using free
      exact ⟨moves + 1, .single (Call.Step.alone returned (.number unreserved))⟩

theorem run_vacant (returned : ∀ other ∈ earlier, other.stage.outcome?.isSome)
    (free : ∀ other ∈ earlier ++ later, ¬other.Holds entity)
    (absent : registry.find? entity = none) :
    State.Run ⟨registry, [earlier ++ Call.start entity :: later]⟩
      ⟨registry, [earlier ++ ⟨entity, .holding none, 0⟩ :: later]⟩ := by
  have missed : (Call.start entity).Step (earlier ++ later) registry registry
      ⟨entity, .missed, 0⟩ := .miss absent
  have taken : Call.Step (earlier ++ later) registry ⟨entity, .missed, 0⟩ registry
      ⟨entity, .holding none, 0⟩ := .vacant absent free
  exact .head (missed.alone returned) (.single (taken.alone returned))

/-- A call that is not interleaved with others does what `Registry.resolve` does. -/
theorem run_resolve (returned : ∀ other ∈ earlier, other.stage.outcome?.isSome)
    (free : ∀ other ∈ earlier ++ later, ¬other.Holds entity) (registry : Registry) :
    ∃ stage moves,
      State.Run ⟨registry, [earlier ++ Call.start entity :: later]⟩
        ⟨(registry.resolve entity).2, [earlier ++ ⟨entity, stage, moves⟩ :: later]⟩ ∧
      stage.outcome? = some (registry.resolve entity).1 := by
  obtain ⟨descriptor, present, call⟩ | ⟨cause, absent, unmapped, call⟩ |
    ⟨table, absent, mapped, call⟩ := registry.resolve_cases entity
  · rw [call]
    exact ⟨.found descriptor, 0, .single (Call.Step.alone returned (.hit present)), rfl⟩
  · rw [call]
    have begun := run_vacant returned free absent
    exact ⟨.failed cause, 0, begun.tail (Call.Step.alone returned (.fail unmapped)), rfl⟩
  · rw [call]
    have begun := run_vacant returned free absent
    have built := begun.tail (Call.Step.alone returned (.build mapped))
    obtain ⟨moves, numbered⟩ := run_numbering returned registry entity table 0
    exact ⟨.created (registry.add entity table).1, moves,
      (built.trans numbered).tail (Call.Step.alone returned .insert), rfl⟩

theorem Call.not_holds_of_returned (returned : call.stage.outcome?.isSome) :
    ¬call.Holds entity := by
  rintro ⟨held, _⟩
  obtain ⟨_, stage, _⟩ := call
  cases stage with
  | failed => cases held
  | found => cases held
  | created => cases held
  | _ => cases returned

/-- One thread on its own does what `Registry.resolveAll` does, with the same answers. -/
theorem run_resolveAll (returned : ∀ other ∈ earlier, other.stage.outcome?.isSome)
    (registry : Registry) (entities : List Entity) :
    ∃ done : List Call,
      State.Run ⟨registry, [earlier ++ entities.map Call.start]⟩
        ⟨registry.resolveAll entities, [earlier ++ done]⟩ ∧
      done.map (fun call => (call.entity, call.stage.outcome?)) =
        (registry.answers entities).map fun (entity, outcome) => (entity, some outcome) := by
  induction entities generalizing earlier registry with
  | nil => exact ⟨[], .refl, rfl⟩
  | cons entity rest ih =>
      have free : ∀ other ∈ earlier ++ rest.map Call.start, ¬other.Holds entity := by
        intro other member
        rcases List.mem_append.mp member with before | after
        · exact Call.not_holds_of_returned (returned other before)
        · obtain ⟨waiting, _, rfl⟩ := List.mem_map.mp after
          rintro ⟨held, _⟩
          cases held
      obtain ⟨stage, moves, first, answered⟩ := run_resolve returned free registry
      have advanced : ∀ other ∈ earlier ++ [⟨entity, stage, moves⟩],
          other.stage.outcome?.isSome := by
        intro other member
        rcases List.mem_append.mp member with before | last
        · exact returned other before
        · rw [List.mem_singleton.mp last, answered]
          rfl
      obtain ⟨done, following, outcomes⟩ := ih advanced (registry.resolve entity).2
      simp only [List.append_assoc, List.singleton_append] at following
      refine ⟨⟨entity, stage, moves⟩ :: done, first.trans following, ?_⟩
      rw [List.map_cons, outcomes, answered]
      rfl

end

end QueryChain.Schema.Concurrent

namespace QueryChain.Sample

open Schema Schema.Concurrent

/-- An entity without a mapping. -/
def guilds : Entity := ⟨"Guild"⟩

/-- Two threads ask for players before there are any; one of them inserts the table, and
the other finds it and then asks for guilds in vain. -/
def race (table : Table) : State :=
  ⟨⟨catalog, [(players, ⟨table, word 0⟩)], 1⟩,
    [[⟨players, .created ⟨table, word 0⟩, 1⟩],
      [⟨players, .found ⟨table, word 0⟩, 0⟩,
        ⟨guilds, .failed (.notMapped guilds), 0⟩]]⟩

theorem not_reserved_zero : isReserved (word 0) = false := by
  simp [isReserved, reservedWords, word, letters, letter]

theorem race_run {table : Table} (mapped : catalog.table players = .ok table) :
    State.Run (.start catalog [[players], [players, guilds]]) (race table) := by
  have first {registry next : Registry} {call moved : Call} {others : List Call}
      (step : call.Step others registry next moved) :
      State.Step ⟨registry, [[call], others]⟩ ⟨next, [[moved], others]⟩ := by
    apply @State.Step.call registry next [] [others] [] [] call moved (by simp)
    simpa using step
  have second {registry next : Registry} {call moved other later : Call}
      (step : call.Step [other, later] registry next moved) :
      State.Step ⟨registry, [[other], [call, later]]⟩
        ⟨next, [[other], [moved, later]]⟩ := by
    apply @State.Step.call registry next [[other]] [] [] [later] call moved (by simp)
    simpa using step
  have third {registry next : Registry} {call moved other earlier : Call}
      (returned : earlier.stage.outcome?.isSome)
      (step : call.Step [other, earlier] registry next moved) :
      State.Step ⟨registry, [[other], [earlier, call]]⟩
        ⟨next, [[other], [earlier, moved]]⟩ := by
    apply @State.Step.call registry next [[other]] [] [earlier] [] call moved
      (by simpa using returned)
    simpa using step
  refine .head (first (.miss rfl)) ?_
  refine .head (second (.miss rfl)) ?_
  refine .head (first (.vacant rfl (by simp [Call.Holds, Stage.entry?, Call.start]))) ?_
  refine .head (first (.build mapped)) ?_
  refine .head (first (.number not_reserved_zero)) ?_
  refine .head (first .insert) ?_
  refine .head (second (.take (by simp [Call.Holds, Stage.entry?, Call.start]))) ?_
  refine .head (second .occupied) ?_
  refine .head (third rfl (.miss rfl)) ?_
  refine .head (third rfl (.vacant rfl (by simp [Call.Holds, Stage.entry?]))) ?_
  exact .single (third rfl (.fail rfl))

theorem race_safe :
    ∃ table, State.Run (.start catalog [[players], [players, guilds]]) (race table) ∧
    (race table).Safe :=
  ⟨_, race_run rfl, safe_of_run (race_run rfl)⟩

end QueryChain.Sample
