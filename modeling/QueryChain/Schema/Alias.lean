namespace QueryChain.Schema

/-! Aliases of tables: the words `a` to `z`, `aa`, `ab` and so on, shorter words
first, without those that are reserved.
-/

def letter (index : Nat) : Char := Char.ofNat ('a'.toNat + index)

/-- The letters of the word with a given index. -/
def letters (index : Nat) : List Char :=
  if index < 26 then [letter index]
  else letters (index / 26 - 1) ++ [letter (index % 26)]
termination_by index

def word (index : Nat) : String := String.ofList (letters index)

/-- Words that would read as keywords. -/
def reservedWords : List String :=
  ["as", "at", "by", "go", "if", "in", "is", "of", "on", "or", "to"]

def isReserved (text : String) : Bool := text ∈ reservedWords

theorem letters_ne_nil (index : Nat) : letters index ≠ [] := by
  unfold letters
  split <;> simp

/-- Two letters make `26 * 26` words, which come after the `26` words of one letter. -/
theorem letters_length_of_le {index : Nat} (large : 702 ≤ index) :
    3 ≤ (letters index).length := by
  have first := List.length_pos_iff.mpr (letters_ne_nil ((index / 26 - 1) / 26 - 1))
  rw [letters, if_neg (by omega), letters, if_neg (by omega)]
  simp only [List.length_append, List.length_singleton]
  omega

theorem reservedWords_length : ∀ text ∈ reservedWords, text.length = 2 := by
  decide

theorem isReserved_lt {index : Nat} (reserved : isReserved (word index) = true) : index < 702 := by
  apply Nat.lt_of_not_le
  intro large
  have two := reservedWords_length (word index) (by simpa [isReserved] using reserved)
  have three := letters_length_of_le large
  simp only [word, String.length_ofList] at two
  omega

/-- The first index at or after `index` whose word is not reserved. -/
def nextFree (index : Nat) : Nat :=
  if reserved : isReserved (word index) then nextFree (index + 1) else index
termination_by 702 - index
decreasing_by
  have := isReserved_lt reserved
  omega

end QueryChain.Schema
