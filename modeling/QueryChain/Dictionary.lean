namespace QueryChain

/-! Dictionaries as lists of entries, in the order in which keys were first inserted.

A key that is inserted again keeps its place and takes the new value.
-/

abbrev Dictionary (κ α : Type) := List (κ × α)

namespace Dictionary

variable {κ α : Type} [DecidableEq κ]

def get? (key : κ) : Dictionary κ α → Option α
  | [] => none
  | (name, value) :: rest => if name = key then some value else get? key rest

def insert (key : κ) (value : α) : Dictionary κ α → Dictionary κ α
  | [] => [(key, value)]
  | (name, old) :: rest =>
    if name = key then (name, value) :: rest else (name, old) :: insert key value rest

def erase (key : κ) : Dictionary κ α → Dictionary κ α
  | [] => []
  | (name, value) :: rest => if name = key then rest else (name, value) :: erase key rest

def contains (key : κ) (entries : Dictionary κ α) : Bool := (get? key entries).isSome

/-- A dictionary with the given entries, a later entry replacing an earlier one. -/
def ofEntries (entries : List (κ × α)) : Dictionary κ α :=
  entries.foldl (fun built (key, value) => insert key value built) []

/-- The entries in increasing order of their keys. -/
def sorted (entries : Dictionary String α) : Dictionary String α :=
  entries.mergeSort fun left right => left.1 ≤ right.1

theorem get?_insert (key other : κ) (value : α) (entries : Dictionary κ α) :
    get? other (insert key value entries) =
      if key = other then some value else get? other entries := by
  induction entries with
  | nil => rfl
  | cons entry rest ih =>
      obtain ⟨name, old⟩ := entry
      by_cases same : name = key
      · subst same
        by_cases found : name = other <;> simp [insert, get?, found]
      · by_cases found : name = other
        · subst found
          simp [insert, get?, same, Ne.symm same]
        · simp [insert, get?, same, found, ih]

theorem get?_erase_of_ne {key other : κ} (different : other ≠ key) (entries : Dictionary κ α) :
    get? other (erase key entries) = get? other entries := by
  induction entries with
  | nil => rfl
  | cons entry rest ih =>
      obtain ⟨name, old⟩ := entry
      by_cases same : name = key
      · subst same
        simp [erase, get?, Ne.symm different]
      · rw [erase, if_neg same]
        by_cases found : name = other <;> simp [get?, found, ih]

end Dictionary

end QueryChain
