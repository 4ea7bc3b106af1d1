import Mathlib.Order.WellFounded
import QueryChain.Proofs.Schema.Allocation
import QueryChain.Proofs.Sql.Parameters

namespace QueryChain

/-! Aliases that read as keywords.

No alias is a reserved word, but all reserved words are of two letters.  Longer keywords
are handed out like any other word once their turn comes: `and` is the first of them, and
it goes to the thousand and thirty-third entity.
-/

namespace Schema

/-- The words that a statement is written with. -/
def keywords : List String :=
  ["SELECT", "TOP", "DISTINCT", "FROM", "JOIN", "ON", "WHERE", "AND", "OR", "NOT", "IS", "NULL",
    "LIKE", "IN", "ISNULL", "ORDER", "BY", "DESC", "OFFSET", "ROWS", "FETCH", "NEXT", "ONLY"]

/-- A text in lower-case letters. -/
def lowered (text : String) : String := String.ofList (text.toList.map Char.toLower)

def SameIgnoringCase (left right : String) : Prop := lowered left = lowered right

instance (left right : String) : Decidable (SameIgnoringCase left right) :=
  inferInstanceAs (Decidable (lowered left = lowered right))

/-- The indices of the reserved words. -/
def reservedIndices : List Nat := [44, 45, 76, 196, 239, 247, 252, 395, 403, 407, 534]

theorem reservedIndices_words : reservedIndices.map word = reservedWords := by
  decide +kernel

theorem isReserved_iff {index : Nat} :
    isReserved (word index) = true ↔ index ∈ reservedIndices := by
  rw [isReserved, decide_eq_true_iff, ← reservedIndices_words,
    List.mem_map_of_injective word_injective]

theorem reservedIndices_lt : ∀ index ∈ reservedIndices, index < 535 := by
  decide

/-- Past the last reserved word, as many words as are reserved separate an index from its rank. -/
theorem freeIndex_eq {rank : Nat} (large : 535 ≤ rank) : freeIndex rank = rank + 11 := by
  have below : rank ≤ freeIndex rank := freeIndex_strictMono.le_apply
  have separate : ((List.range rank).map freeIndex ++ reservedIndices).Nodup := by
    refine List.nodup_append.mpr
      ⟨List.nodup_range.map freeIndex_strictMono.injective, by decide, ?_⟩
    intro index listed other reserved same
    obtain ⟨lower, _, rfl⟩ := List.mem_map.mp listed
    rw [← same, ← isReserved_iff, freeIndex_free] at reserved
    cases reserved
  -- Below the index stand the free words of lower rank and all reserved words.
  have split : List.Perm (List.range (freeIndex rank))
      ((List.range rank).map freeIndex ++ reservedIndices) := by
    refine (List.perm_ext_iff_of_nodup List.nodup_range separate).mpr ?_
    intro index
    rw [List.mem_append, List.mem_map, List.mem_range]
    refine ⟨?_, ?_⟩
    · intro before
      by_cases reserved : isReserved (word index)
      · exact .inr (isReserved_iff.mp reserved)
      · obtain ⟨lower, bounded, found⟩ := exists_rank_of_lt (by simpa using reserved) before
        exact .inl ⟨lower, List.mem_range.mpr bounded, found⟩
    · intro either
      rcases either with ⟨lower, bounded, rfl⟩ | reserved
      · exact freeIndex_strictMono (List.mem_range.mp bounded)
      · have := reservedIndices_lt index reserved
        omega
  have length := split.length_eq
  simpa [reservedIndices] using length

theorem word_and : word 1043 = "and" := by
  decide +kernel

theorem freeWord_and : freeWord 1032 = "and" := by
  rw [freeWord, freeIndex_eq (by decide), word_and]

theorem keywords_reserved_or_late : ∀ keyword ∈ keywords,
    lowered keyword ∈ reservedWords ∨ ¬ Precedes (lowered keyword) "and" := by
  unfold Precedes
  decide

theorem letter_toLower : ∀ index < 26, (letter index).toLower = letter index := by
  decide

theorem IsWord.lowered_eq {text : String} (isWord : IsWord text) : lowered text = text := by
  have same : text.toList.map Char.toLower = text.toList := by
    refine List.map_congr_left (fun character member => ?_) |>.trans (List.map_id _)
    obtain ⟨index, bounded, rfl⟩ := exists_letter (isWord.lower character member)
    exact letter_toLower index bounded
  rw [lowered, same, String.ofList_toList]

theorem freeWord_sameIgnoringCase {rank : Nat} {text : String} :
    SameIgnoringCase (freeWord rank) text ↔ freeWord rank = lowered text := by
  rw [SameIgnoringCase, (freeWord_hasRank rank).1.1.lowered_eq]

/-- A free word that reads as a keyword comes no earlier than `and`. -/
theorem rank_of_keyword {rank : Nat} {keyword : String} (listed : keyword ∈ keywords)
    (same : SameIgnoringCase (freeWord rank) keyword) : 1032 ≤ rank := by
  have spelled := freeWord_sameIgnoringCase.mp same
  rcases keywords_reserved_or_late keyword listed with reserved | late
  · rw [← spelled] at reserved
    exact absurd reserved (freeWord_hasRank rank).1.2
  · apply Nat.le_of_not_lt
    intro before
    have ordered : Precedes (freeWord rank) (freeWord 1032) :=
      word_precedes (freeIndex_strictMono before)
    rw [freeWord_and, spelled] at ordered
    exact late ordered

theorem not_reserved {rank : Nat} {reserved : String} (listed : reserved ∈ reservedWords) :
    ¬ SameIgnoringCase (freeWord rank) reserved := by
  have lower : ∀ reserved ∈ reservedWords, lowered reserved = reserved := by decide
  rw [freeWord_sameIgnoringCase, lower reserved listed]
  intro same
  exact (freeWord_hasRank rank).1.2 (same ▸ listed)

namespace Registry

variable {catalog : Catalog} {registry : Registry} {calls : List Entity} {entity : Entity}

theorem exists_answer_of_served (served : entity ∈ registry.served calls) :
    ∃ descriptor, (entity, .ok descriptor) ∈ registry.answers calls := by
  obtain ⟨⟨_, outcome⟩, answered, kept⟩ :=
    List.mem_filterMap.mp (List.mem_eraseDups.mp served)
  cases outcome with
  | error cause => cases kept
  | ok descriptor =>
      cases kept
      exact ⟨descriptor, answered⟩

/-- The aliases that a run hands out are the free words, as many as it served entities. -/
theorem handed_out_iff (catalog : Catalog) (calls : List Entity) (text : String) :
    (∃ entity descriptor, (entity, .ok descriptor) ∈ (ofCatalog catalog).answers calls ∧
        descriptor.qualifier = text) ↔
      ∃ rank < ((ofCatalog catalog).served calls).length, freeWord rank = text := by
  have numbered := (ofCatalog_numbered catalog).resolveAll calls
  have entities : ((ofCatalog catalog).resolveAll calls).descriptors.map Prod.fst =
      (ofCatalog catalog).served calls :=
    resolveAll_entities (ofCatalog_numbered catalog) calls
  refine ⟨?_, ?_⟩
  · intro handed
    obtain ⟨entity, descriptor, answered, rfl⟩ := handed
    obtain ⟨rank, held⟩ :=
      List.mem_iff_getElem?.mp (Dictionary.mem_of_get? (answers_ok answered))
    refine ⟨rank, ?_, (numbered.qualifier_eq held).symm⟩
    rw [← entities, List.length_map]
    exact (List.getElem?_eq_some_iff.mp held).1
  · intro ranked
    obtain ⟨rank, bounded, rfl⟩ := ranked
    obtain ⟨entity, served⟩ :
        ∃ entity, ((ofCatalog catalog).served calls)[rank]? = some entity :=
      ⟨_, List.getElem?_eq_getElem bounded⟩
    obtain ⟨descriptor, answered⟩ := exists_answer_of_served (List.mem_of_getElem? served)
    refine ⟨entity, descriptor, answered, ?_⟩
    rw [← entities, List.getElem?_map, Option.map_eq_some_iff] at served
    obtain ⟨⟨_, other⟩, held, rfl⟩ := served
    have found := Dictionary.get?_of_mem numbered.distinct (List.mem_of_getElem? held)
    cases (answers_ok answered).symm.trans found
    exact numbered.qualifier_eq held

/-- A run hands out no reserved word, but it hands out a keyword once it has served 1033
entities, and not before. -/
theorem keyword_handed_out_iff (catalog : Catalog) (calls : List Entity) :
    (∀ entity descriptor, (entity, .ok descriptor) ∈ (ofCatalog catalog).answers calls →
        ∀ reserved ∈ reservedWords, ¬ SameIgnoringCase descriptor.qualifier reserved) ∧
      ((∃ entity descriptor, (entity, .ok descriptor) ∈ (ofCatalog catalog).answers calls ∧
          ∃ keyword ∈ keywords, SameIgnoringCase descriptor.qualifier keyword) ↔
        1033 ≤ ((ofCatalog catalog).served calls).length) := by
  have handed := handed_out_iff catalog calls
  refine ⟨?_, ?_, ?_⟩
  · intro entity descriptor answered reserved listed
    obtain ⟨rank, _, spelled⟩ := (handed _).mp ⟨entity, descriptor, answered, rfl⟩
    exact spelled ▸ not_reserved listed
  · intro reads
    obtain ⟨entity, descriptor, answered, keyword, listed, same⟩ := reads
    obtain ⟨rank, bounded, spelled⟩ := (handed _).mp ⟨entity, descriptor, answered, rfl⟩
    have late := rank_of_keyword listed (spelled ▸ same)
    omega
  · intro many
    obtain ⟨entity, descriptor, answered, spelled⟩ :=
      (handed "and").mpr ⟨1032, many, freeWord_and⟩
    exact ⟨entity, descriptor, answered, "AND", by decide, by rw [spelled]; decide⟩

end Registry

end Schema

namespace Sample

open Schema

def crowd (size : Nat) : List Entity :=
  (List.range size).map fun number => ⟨"E" ++ toString number⟩

/-- Every entity of a crowd with a table of its own. -/
def crowdCatalog (size : Nat) : Catalog :=
  ⟨(List.range size).map fun number =>
    (⟨"E" ++ toString number⟩, (Mapping.onto ("T" ++ toString number)).withKey "Id" .integer)⟩

theorem crowd_nodup (size : Nat) : (crowd size).Nodup := by
  refine List.nodup_range.map ?_
  intro first second same
  exact Sql.Parameters.nameFrom_inj.mp (congrArg Entity.name same)

theorem crowd_mapped (size : Nat) :
    ∀ entity ∈ crowd size, ((crowdCatalog size).lookup entity).isSome := by
  intro entity member
  obtain ⟨number, bounded, rfl⟩ := List.mem_map.mp member
  have keys : (crowdCatalog size).mappings.map Prod.fst = crowd size := by
    simp [crowdCatalog, crowd, Function.comp_def]
  have found : (crowdCatalog size).find? ⟨"E" ++ toString number⟩ =
      some ((Mapping.onto ("T" ++ toString number)).withKey "Id" .integer) :=
    Dictionary.get?_of_mem (by rw [keys]; exact crowd_nodup size)
      (List.mem_map.mpr ⟨number, bounded, rfl⟩)
  have table : (crowdCatalog size).table ⟨"E" ++ toString number⟩ =
      .ok ⟨"T" ++ toString number, "Id", [⟨"Id", "Id", .integer, false⟩]⟩ := by
    simp only [Catalog.table, found]
    simp [Mapping.toTable, Mapping.withKey, Mapping.withColumn, Mapping.push, Mapping.onto,
      firstRepeated?]
  simp only [Catalog.lookup, table, Except.toOption, Option.isSome_some]

theorem crowd_served (size : Nat) :
    (Registry.ofCatalog (crowdCatalog size)).served (crowd size) = crowd size := by
  have added := Registry.resolveAll_keys Registry.Reachable.ofCatalog.faithful (crowd_nodup size)
    (crowd_mapped size)
  rw [Registry.resolveAll_entities (Registry.ofCatalog_numbered _),
    Registry.unheld_of_isEmpty rfl (crowd size)] at added
  exact added

/-- In a crowd the last of 1033 entities has an alias that reads as a keyword, and none before. -/
theorem crowd_keyword_iff (size : Nat) :
    (∃ entity descriptor,
      (entity, .ok descriptor) ∈ (Registry.ofCatalog (crowdCatalog size)).answers (crowd size) ∧
        ∃ keyword ∈ keywords, SameIgnoringCase descriptor.qualifier keyword) ↔
          1033 ≤ size := by
  have served : ((Registry.ofCatalog (crowdCatalog size)).served (crowd size)).length = size := by
    rw [crowd_served, crowd, List.length_map, List.length_range]
  rw [(Registry.keyword_handed_out_iff (crowdCatalog size) (crowd size)).2, served]

end Sample

end QueryChain
