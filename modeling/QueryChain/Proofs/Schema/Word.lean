import Mathlib.Data.List.Induction
import Mathlib.Data.List.Nodup
import Mathlib.Order.Monotone.Basic
import QueryChain.Schema.Alias

namespace QueryChain.Schema

/-! The order of words: shorter words first, words of one length alphabetically.

`word` numbers the words of lower-case letters in this order, so that the free words,
which are those that are not reserved, have ranks.  `freeWord` is the free word of a rank.
-/

/-- A word of the letters from a to z, with at least one of them. -/
structure IsWord (text : String) : Prop where
  nonempty : text ≠ ""
  lower : ∀ character ∈ text.toList, 'a' ≤ character ∧ character ≤ 'z'

def Precedes (first second : String) : Prop :=
  first.length < second.length ∨ first.length = second.length ∧ first < second

def IsFree (text : String) : Prop := IsWord text ∧ text ∉ reservedWords

/-- A free word that has exactly `rank` free words before it. -/
def HasRank (rank : Nat) (text : String) : Prop :=
  IsFree text ∧ ∃ earlier : List String, earlier.length = rank ∧ earlier.Nodup ∧
    ∀ other, other ∈ earlier ↔ IsFree other ∧ Precedes other text

theorem letter_lower : ∀ index < 26, 'a' ≤ letter index ∧ letter index ≤ 'z' := by
  decide

theorem letter_toNat : ∀ index < 26, (letter index).toNat = 97 + index := by
  decide

theorem letter_lt {first second : Nat} (before : first < second) (bounded : second < 26) :
    letter first < letter second := by
  have firstCode := letter_toNat first (Nat.lt_trans before bounded)
  have secondCode := letter_toNat second bounded
  change (letter first).toNat < (letter second).toNat
  omega

theorem exists_letter {character : Char} (lower : 'a' ≤ character ∧ character ≤ 'z') :
    ∃ index < 26, letter index = character := by
  have least : 97 ≤ character.toNat := lower.1
  have greatest : character.toNat ≤ 122 := lower.2
  refine ⟨character.toNat - 97, by omega, ?_⟩
  have code : 'a'.toNat + (character.toNat - 97) = character.toNat := by
    change 97 + (character.toNat - 97) = character.toNat
    omega
  rw [letter, code, Char.ofNat_toNat]

theorem letters_of_lt {index : Nat} (small : index < 26) : letters index = [letter index] := by
  rw [letters, if_pos small]

theorem letters_snoc (index : Nat) {last : Nat} (bounded : last < 26) :
    letters ((index + 1) * 26 + last) = letters index ++ [letter last] := by
  have initial : ((index + 1) * 26 + last) / 26 - 1 = index := by omega
  have final : ((index + 1) * 26 + last) % 26 = last := by omega
  rw [letters, if_neg (by omega), initial, final]

theorem letters_lower (index : Nat) :
    ∀ character ∈ letters index, 'a' ≤ character ∧ character ≤ 'z' := by
  fun_induction letters index with
  | case1 index small =>
      intro character member
      rw [List.mem_singleton.mp member]
      exact letter_lower index small
  | case2 index _ ih =>
      intro character member
      rcases List.mem_append.mp member with initial | final
      · exact ih character initial
      · rw [List.mem_singleton.mp final]
        exact letter_lower _ (Nat.mod_lt _ (by decide))

theorem exists_letters {characters : List Char} (nonempty : characters ≠ [])
    (lower : ∀ character ∈ characters, 'a' ≤ character ∧ character ≤ 'z') :
    ∃ index, letters index = characters := by
  induction characters using List.reverseRecOn with
  | nil => exact absurd rfl nonempty
  | append_singleton initial character ih =>
      obtain ⟨last, bounded, rfl⟩ := exists_letter (lower character (by simp))
      by_cases alone : initial = []
      · exact ⟨last, by rw [alone, letters_of_lt bounded]; rfl⟩
      · obtain ⟨index, rfl⟩ := ih alone fun other member => lower other (by simp [member])
        exact ⟨(index + 1) * 26 + last, letters_snoc index bounded⟩

/-- Words of one length keep their order when they grow. -/
theorem append_lt_append {first second : List Char} (before : first < second)
    (sameLength : first.length = second.length) (more others : List Char) :
    first ++ more < second ++ others := by
  induction before with
  | nil => cases sameLength
  | rel smaller => exact .rel smaller
  | cons _ ih => exact .cons (ih (Nat.succ.inj sameLength))

theorem letters_before {first second : Nat} (before : first < second) :
    (letters first).length < (letters second).length ∨
      (letters first).length = (letters second).length ∧ letters first < letters second := by
  fun_induction letters second generalizing first with
  | case1 second small =>
      rw [letters_of_lt (Nat.lt_trans before small)]
      exact .inr ⟨rfl, .rel (letter_lt before small)⟩
  | case2 second large ih =>
      have nonempty := List.length_pos_iff.mpr (letters_ne_nil (second / 26 - 1))
      rw [List.length_append, List.length_singleton]
      by_cases small : first < 26
      · rw [letters_of_lt small]
        exact .inl (by simpa using nonempty)
      · rw [letters, if_neg small, List.length_append, List.length_singleton]
        by_cases sameInitial : first / 26 - 1 = second / 26 - 1
        · have lastBefore : first % 26 < second % 26 := by omega
          have lastLetter := letter_lt lastBefore (Nat.mod_lt second (by decide))
          rw [sameInitial]
          exact .inr ⟨rfl, List.append_left_lt (.rel lastLetter)⟩
        · rcases ih (show first / 26 - 1 < second / 26 - 1 by omega) with shorter | sameLength
          · exact .inl (Nat.succ_lt_succ shorter)
          · exact .inr ⟨congrArg (· + 1) sameLength.1,
              append_lt_append sameLength.2 sameLength.1 _ _⟩

theorem isWord_word (index : Nat) : IsWord (word index) := by
  refine ⟨?_, ?_⟩
  · intro empty
    exact letters_ne_nil index (by simpa [word] using congrArg String.toList empty)
  · simpa [word] using letters_lower index

theorem IsWord.exists_word {text : String} (isWord : IsWord text) :
    ∃ index, word index = text := by
  have nonempty : text.toList ≠ [] := by
    intro empty
    exact isWord.nonempty (String.toList_injective empty)
  obtain ⟨index, same⟩ := exists_letters nonempty isWord.lower
  exact ⟨index, by rw [word, same, String.ofList_toList]⟩

theorem Precedes.asymm {first second : String} (before : Precedes first second) :
    ¬ Precedes second first := by
  intro after
  rcases before with shorter | ⟨sameLength, before⟩
  · rcases after with shorterToo | ⟨sameLength, _⟩
    · omega
    · omega
  · rcases after with shorter | ⟨_, after⟩
    · omega
    · exact List.lt_asymm before after

theorem word_precedes {first second : Nat} (before : first < second) :
    Precedes (word first) (word second) := by
  have ordered := letters_before before
  rw [← String.toList_ofList (l := letters first), ← String.toList_ofList (l := letters second)]
    at ordered
  exact ordered

/-- The numbering of words follows their order. -/
theorem word_precedes_iff {first second : Nat} :
    Precedes (word first) (word second) ↔ first < second := by
  refine ⟨?_, word_precedes⟩
  intro ordered
  rcases Nat.lt_trichotomy first second with before | same | after
  · exact before
  · subst same
    exact absurd ordered ordered.asymm
  · exact absurd ordered (word_precedes after).asymm

theorem word_injective : Function.Injective word := by
  intro first second same
  rcases Nat.lt_trichotomy first second with before | equal | after
  · have ordered := word_precedes before
    rw [same] at ordered
    exact absurd ordered ordered.asymm
  · exact equal
  · have ordered := word_precedes after
    rw [same] at ordered
    exact absurd ordered ordered.asymm

theorem isFree_word {index : Nat} (free : isReserved (word index) = false) : IsFree (word index) :=
  ⟨isWord_word index, by simpa [isReserved] using free⟩

theorem nextFree_free (index : Nat) : isReserved (word (nextFree index)) = false := by
  fun_induction nextFree index with
  | case1 index _ ih => exact ih
  | case2 index free => simpa using free

theorem le_nextFree (index : Nat) : index ≤ nextFree index := by
  fun_induction nextFree index with
  | case1 index _ ih => exact Nat.le_of_succ_le ih
  | case2 index _ => exact Nat.le_refl index

/-- The search for a free word passes over reserved ones only. -/
theorem reserved_of_lt_nextFree {index other : Nat} (atLeast : index ≤ other)
    (passed : other < nextFree index) : isReserved (word other) = true := by
  fun_induction nextFree index with
  | case1 index reserved ih =>
      rcases Nat.eq_or_lt_of_le atLeast with same | after
      · exact same ▸ reserved
      · exact ih after passed
  | case2 index _ => omega

def freeIndex : Nat → Nat
  | 0 => nextFree 0
  | rank + 1 => nextFree (freeIndex rank + 1)

def freeWord (rank : Nat) : String := word (freeIndex rank)

theorem freeIndex_free (rank : Nat) : isReserved (word (freeIndex rank)) = false := by
  cases rank <;> exact nextFree_free _

theorem freeIndex_strictMono : StrictMono freeIndex :=
  strictMono_nat_of_lt_succ fun rank => le_nextFree (freeIndex rank + 1)

theorem freeWord_injective : Function.Injective freeWord :=
  word_injective.comp freeIndex_strictMono.injective

/-- No free index lies between those of consecutive ranks. -/
theorem exists_rank_of_lt {index rank : Nat} (free : isReserved (word index) = false)
    (before : index < freeIndex rank) : ∃ lower < rank, freeIndex lower = index := by
  induction rank with
  | zero =>
      have reserved := reserved_of_lt_nextFree (Nat.zero_le index) before
      rw [free] at reserved
      cases reserved
  | succ rank ih =>
      rcases Nat.lt_trichotomy index (freeIndex rank) with lower | same | higher
      · obtain ⟨lower, bounded, found⟩ := ih lower
        exact ⟨lower, Nat.lt_succ_of_lt bounded, found⟩
      · exact ⟨rank, Nat.lt_succ_self rank, same.symm⟩
      · have reserved := reserved_of_lt_nextFree higher before
        rw [free] at reserved
        cases reserved

theorem freeWord_hasRank (rank : Nat) : HasRank rank (freeWord rank) := by
  refine ⟨isFree_word (freeIndex_free rank), (List.range rank).map freeWord, by simp, ?_, ?_⟩
  · exact List.nodup_range.map freeWord_injective
  · intro other
    rw [List.mem_map]
    refine ⟨?_, ?_⟩
    · intro listed
      obtain ⟨lower, bounded, rfl⟩ := listed
      exact ⟨isFree_word (freeIndex_free lower),
        word_precedes (freeIndex_strictMono (List.mem_range.mp bounded))⟩
    · intro specified
      obtain ⟨⟨isWord, unreserved⟩, ordered⟩ := specified
      obtain ⟨index, rfl⟩ := isWord.exists_word
      have free : isReserved (word index) = false := by simpa [isReserved] using unreserved
      obtain ⟨lower, bounded, rfl⟩ := exists_rank_of_lt free (word_precedes_iff.mp ordered)
      exact ⟨lower, List.mem_range.mpr bounded, rfl⟩

/-- A word has one rank. -/
theorem HasRank.unique {rank other : Nat} {text : String} (ranked : HasRank rank text)
    (rankedToo : HasRank other text) : rank = other := by
  obtain ⟨_, earlier, rfl, distinct, members⟩ := ranked
  obtain ⟨_, others, rfl, distinctToo, membersToo⟩ := rankedToo
  have same : ∀ word, word ∈ earlier ↔ word ∈ others := fun word =>
    (members word).trans (membersToo word).symm
  exact ((List.perm_ext_iff_of_nodup distinct distinctToo).mpr same).length_eq

end QueryChain.Schema
