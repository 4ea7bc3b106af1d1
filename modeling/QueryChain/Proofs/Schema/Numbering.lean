import QueryChain.Proofs.Schema.Keyword

namespace QueryChain.Schema

/-! Words numbered by a counter of bounded size.

A word is spelled from its index by one loop, and a free word is looked for by another.
The first takes a turn for each letter.  The second moves the counter at most three times,
because no three reserved words follow one another.  As far as the counter reaches, the
words come in their order, each from one index.
-/

section

variable {State Result : Type}

/-- What a loop comes to within a number of turns.  A turn leaves a state for the next one
or ends the loop. -/
def loop (turn : State → State ⊕ Result) : Nat → State → Option Result
  | 0, _ => none
  | turns + 1, state =>
    match turn state with
    | .inl next => loop turn turns next
    | .inr result => some result

/-- The turns ahead of a state are counted, and each of them keeps the result. -/
def Counted (turn : State → State ⊕ Result) (Holds : State → Prop) (ahead : State → Nat)
    (result : State → Result) : Prop :=
  ∀ state, Holds state → (turn state).elim
    (fun next => Holds next ∧ ahead state = ahead next + 1 ∧ result state = result next)
    (fun final => ahead state = 1 ∧ result state = final)

variable {turn : State → State ⊕ Result} {Holds : State → Prop} {ahead : State → Nat}
  {result : State → Result} {state : State}

theorem Counted.ahead_pos (counted : Counted turn Holds ahead result) (holds : Holds state) :
    0 < ahead state := by
  have step := counted state holds
  cases turned : turn state with
  | inl next =>
      rw [turned] at step
      exact Nat.lt_of_lt_of_eq (Nat.succ_pos _) step.2.1.symm
  | inr final =>
      rw [turned] at step
      exact Nat.lt_of_lt_of_eq Nat.one_pos step.1.symm

/-- A loop ends with the last of the turns that are counted, and not before. -/
theorem Counted.loop_eq (counted : Counted turn Holds ahead result) (turns : Nat)
    (holds : Holds state) :
    loop turn turns state = if ahead state ≤ turns then some (result state) else none := by
  induction turns generalizing state with
  | zero => rw [loop, if_neg (Nat.not_le_of_lt (counted.ahead_pos holds))]
  | succ turns ih =>
      have step := counted state holds
      cases turned : turn state with
      | inl next =>
          rw [turned] at step
          obtain ⟨holdsNext, fewer, same⟩ := step
          simp only [loop, turned]
          rw [ih holdsNext, fewer, same]
          simp only [Nat.add_le_add_iff_right]
      | inr final =>
          rw [turned] at step
          obtain ⟨single, same⟩ := step
          simp only [loop, turned]
          rw [if_pos (by omega), same]

end

theorem toNat_succ {position : USize} (bounded : position.toNat + 1 < USize.size) :
    (position + 1).toNat = position.toNat + 1 := by
  rw [USize.toNat_add, USize.toNat_one, Nat.mod_eq_of_lt bounded]

/-- Where the spelling of a word stands: what is left of its number, and the letters
behind those that are still to come. -/
structure Spelling where
  rest : USize
  spelled : List Char

namespace Spelling

/-- Indices count from zero, and numbers from one. -/
def start (position : USize) : Spelling := ⟨position + 1, []⟩

def turn (spelling : Spelling) : Spelling ⊕ String :=
  if 0 < spelling.rest then
    .inl ⟨(spelling.rest - 1) / 26,
      letter ((spelling.rest - 1) % 26).toNat :: spelling.spelled⟩
  else .inr (String.ofList spelling.spelled)

/-- The letters of a number. -/
def ahead : Nat → List Char
  | 0 => []
  | index + 1 => letters index

/-- The last letter is split off first. -/
theorem ahead_succ (index : Nat) :
    ahead (index + 1) = ahead (index / 26) ++ [letter (index % 26)] := by
  rw [ahead]
  by_cases small : index < 26
  · rw [letters_of_lt small, Nat.div_eq_of_lt small, Nat.mod_eq_of_lt small]
    rfl
  · obtain ⟨initial, split⟩ : ∃ initial, index / 26 = initial + 1 :=
      Nat.exists_eq_succ_of_ne_zero (by omega)
    rw [letters, if_neg small, split]
    rfl

theorem exists_pred {rest : USize} (left : 0 < rest) : ∃ index, rest.toNat = index + 1 ∧
    ((rest - 1) / 26).toNat = index / 26 ∧ ((rest - 1) % 26).toNat = index % 26 := by
  have positive : 0 < rest.toNat := left
  have base : (26 : USize).toNat = 26 := USize.toNat_ofNat_of_lt_32 (by decide)
  have one : (rest - 1).toNat = rest.toNat - 1 := by
    rw [USize.toNat_sub_of_le rest 1, USize.toNat_one]
    rw [USize.le_iff_toNat_le, USize.toNat_one]
    exact positive
  exact ⟨rest.toNat - 1, by omega, by rw [USize.toNat_div, one, base],
    by rw [USize.toNat_mod, one, base]⟩

/-- The letters ahead and the letters spelled make up one word, with a turn for each letter
ahead and one to end. -/
theorem turn_counted :
    Counted turn (fun _ => True) (fun spelling => (ahead spelling.rest.toNat).length + 1)
      (fun spelling => String.ofList (ahead spelling.rest.toNat ++ spelling.spelled)) := by
  intro spelling _
  by_cases left : 0 < spelling.rest
  · obtain ⟨index, number, quotient, remainder⟩ := exists_pred left
    rw [turn, if_pos left]
    simp [number, quotient, remainder, ahead_succ]
  · have finished : spelling.rest.toNat = 0 := by
      rw [USize.lt_iff_toNat_lt, USize.toNat_zero] at left
      omega
    rw [turn, if_neg left]
    simp [finished, ahead]

end Spelling

/-- The first free word that does not come before a given word. -/
structure FirstFree (start text : String) : Prop where
  free : IsFree text
  reached : ¬Precedes text start
  least : ∀ other, IsFree other → ¬Precedes other start → ¬Precedes other text

theorem nextFree_first (index : Nat) : FirstFree (word index) (word (nextFree index)) where
  free := isFree_word (nextFree_free index)
  reached := by
    intro before
    have := le_nextFree index
    have := word_precedes_iff.mp before
    omega
  least := by
    intro other free reached before
    obtain ⟨position, rfl⟩ := free.1.exists_word
    have atLeast : index ≤ position := by
      apply Nat.le_of_not_lt
      intro earlier
      exact reached (word_precedes earlier)
    have reserved := reserved_of_lt_nextFree atLeast (word_precedes_iff.mp before)
    exact free.2 (by simpa [isReserved] using reserved)

theorem nextFree_of_free {index : Nat} (free : isReserved (word index) = false) :
    nextFree index = index := by
  rw [nextFree, dif_neg (by simp [free])]

theorem nextFree_of_reserved {index : Nat} (reserved : isReserved (word index) = true) :
    nextFree index = nextFree (index + 1) := by
  rw [nextFree, dif_pos reserved]

theorem reservedIndices_sparse : ∀ index ∈ reservedIndices,
    index + 1 ∈ reservedIndices → index + 2 ∉ reservedIndices := by
  decide

/-- A search passes over two reserved words at most. -/
theorem nextFree_le (index : Nat) : nextFree index ≤ index + 2 := by
  apply Nat.le_of_not_lt
  intro far
  -- A longer way would lead past three reserved words in a row.
  have passed : ∀ other, index ≤ other → other ≤ index + 2 →
      other ∈ reservedIndices := by
    intro other atLeast atMost
    exact isReserved_iff.mp (reserved_of_lt_nextFree atLeast (by omega))
  exact reservedIndices_sparse index (passed index (by omega) (by omega))
    (passed (index + 1) (by omega) (by omega)) (passed (index + 2) (by omega) (by omega))

/-- It does pass over two: `as` and `at`. -/
example : nextFree 44 = 46 := by decide +kernel

/-- A search moves the counter past each word it looks at. -/
theorem nextFree_moves (index : Nat) : nextFree index + 1 - index ≤ 3 := by
  have near := nextFree_le index
  omega

/-- Reserved words come early, so that a search does not lead out of bounds. -/
theorem nextFree_bounded {index : Nat} (bounded : index + 1 < USize.size) :
    nextFree index + 1 < USize.size := by
  cases reserved : isReserved (word index) with
  | true =>
      have small := isReserved_lt reserved
      have near := nextFree_le index
      have limit := USize.le_size
      omega
  | false =>
      rw [nextFree_of_free reserved]
      exact bounded

/-- A turn of a search moves the counter, whether it finds a free word or not. -/
def search (counter : USize) : USize ⊕ (String × USize) :=
  if isReserved (word counter.toNat) then .inl (counter + 1)
  else .inr (word counter.toNat, counter + 1)

theorem search_counted :
    Counted search (fun counter => counter.toNat + 1 < USize.size)
      (fun counter => nextFree counter.toNat + 1 - counter.toNat)
      (fun counter =>
        (word (nextFree counter.toNat), USize.ofNat (nextFree counter.toNat + 1))) := by
  intro counter bounded
  cases reserved : isReserved (word counter.toNat) with
  | true =>
      have small := isReserved_lt reserved
      have limit := USize.le_size
      have following := le_nextFree (counter.toNat + 1)
      rw [search, reserved, if_pos rfl]
      simp only [Sum.elim_inl, toNat_succ bounded, nextFree_of_reserved reserved, and_true]
      omega
  | false =>
      have moved : USize.ofNat (counter.toNat + 1) = counter + 1 := by
        rw [← USize.toNat_inj, USize.toNat_ofNat_of_lt' bounded, toNat_succ bounded]
      rw [search, reserved, if_neg Bool.false_ne_true]
      simp only [Sum.elim_inr, nextFree_of_free reserved, moved, and_true]
      omega

/-- An index that leaves room in the counter for its number, which is one more. -/
@[ext]
structure Index where
  position : USize
  bounded : position.toNat + 1 < USize.size

namespace Index

def word (index : Index) : String := Schema.word index.position.toNat

theorem existsUnique_word {position : Nat} (bounded : position + 1 < USize.size) :
    ∃! index : Index, index.word = Schema.word position := by
  have value : (USize.ofNat position).toNat = position :=
    USize.toNat_ofNat_of_lt' (Nat.lt_of_succ_lt bounded)
  refine ⟨⟨USize.ofNat position, by rwa [value]⟩, congrArg Schema.word value, ?_⟩
  intro other same
  ext
  exact (word_injective same).trans value.symm

theorem spelling_eq (index : Index) (turns : Nat) :
    loop Spelling.turn turns (.start index.position) =
      if index.word.length < turns then some index.word else none := by
  have number : Spelling.ahead (Spelling.start index.position).rest.toNat =
      letters index.position.toNat := by
    rw [Spelling.start, toNat_succ index.bounded, Spelling.ahead]
  have length : index.word.length = (letters index.position.toNat).length :=
    String.length_ofList
  rw [Spelling.turn_counted.loop_eq turns trivial, number, length]
  simp only [Spelling.start, List.append_nil, Nat.lt_iff_add_one_le]
  rfl

end Index

/-- What a counter of bounded size makes of the words. -/
structure WordsNumbered : Prop where
  words : ∀ index : Index, IsWord index.word
  ordered : ∀ first second : Index,
    Precedes first.word second.word ↔ first.position < second.position
  numbered : ∀ text, IsWord text → ∃! position, word position = text
  reached : ∀ text position, word position = text → position + 1 < USize.size →
    ∃! index : Index, index.word = text
  /-- A turn for each letter, and one to end. -/
  spelled : ∀ (index : Index) (turns : Nat), loop Spelling.turn turns (.start index.position) =
    if index.word.length < turns then some index.word else none
  searched : ∀ index : Index, ∃ moves ≤ 3, ∃ text after, FirstFree index.word text ∧
    after.toNat = index.position.toNat + moves ∧ ∀ turns, loop search turns index.position =
      if moves ≤ turns then some (text, after) else none
  allocated : ∀ (registry : Registry) (entity : Entity) (table : Table),
    FirstFree (word registry.nextAlias) (registry.add entity table).1.qualifier ∧
      (registry.add entity table).2.nextAlias ≤ registry.nextAlias + 3
  /-- A registry searches as the loop does. -/
  agreed : ∀ (registry : Registry) (entity : Entity) (table : Table) (index : Index),
    registry.nextAlias = index.position.toNat → ∃ after,
      loop search 3 index.position = some ((registry.add entity table).1.qualifier, after) ∧
        after.toNat = (registry.add entity table).2.nextAlias

/-- Indices and words are in one order, and the loops that spell a word and look for a
free one end. -/
theorem words_numbered : WordsNumbered where
  words := fun index => isWord_word index.position.toNat
  ordered := fun _ _ => word_precedes_iff.trans USize.lt_iff_toNat_lt.symm
  numbered := by
    intro text isWord
    obtain ⟨position, spelled⟩ := isWord.exists_word
    exact ⟨position, spelled, fun other same => word_injective (same.trans spelled.symm)⟩
  reached := by
    intro text position spelled bounded
    rw [← spelled]
    exact Index.existsUnique_word bounded
  spelled := Index.spelling_eq
  searched := by
    intro index
    have after := le_nextFree index.position.toNat
    refine ⟨nextFree index.position.toNat + 1 - index.position.toNat, nextFree_moves _, _, _,
      nextFree_first index.position.toNat, ?_,
      fun turns => search_counted.loop_eq turns index.bounded⟩
    rw [USize.toNat_ofNat_of_lt' (nextFree_bounded index.bounded)]
    omega
  allocated := fun registry _ _ =>
    ⟨nextFree_first registry.nextAlias, Nat.succ_le_succ (nextFree_le registry.nextAlias)⟩
  agreed := by
    intro registry entity table index counter
    refine ⟨USize.ofNat (nextFree index.position.toNat + 1), ?_, ?_⟩
    · rw [search_counted.loop_eq 3 index.bounded, if_pos (nextFree_moves _), ← counter]
      rfl
    · rw [USize.toNat_ofNat_of_lt' (nextFree_bounded index.bounded), ← counter]
      rfl

end QueryChain.Schema
