import QueryChain.Dictionary

namespace QueryChain.Dictionary

/-! Dictionaries and the entries that they are made of. -/

variable {κ α : Type} [DecidableEq κ] {key : κ} {value : α} {entries : Dictionary κ α}

theorem get?_eq_none : get? key entries = none ↔ key ∉ entries.map Prod.fst := by
  induction entries with
  | nil => simp [get?]
  | cons entry rest ih =>
      obtain ⟨name, old⟩ := entry
      by_cases same : name = key
      · simp [get?, same]
      · simp [get?, same, Ne.symm same, ih]

theorem mem_of_get? (found : get? key entries = some value) : (key, value) ∈ entries := by
  induction entries with
  | nil => cases found
  | cons entry rest ih =>
      obtain ⟨name, old⟩ := entry
      by_cases same : name = key
      · subst same
        simp_all [get?]
      · exact List.mem_cons_of_mem _ (ih (by simpa [get?, same] using found))

theorem get?_of_mem (distinct : (entries.map Prod.fst).Nodup) (member : (key, value) ∈ entries) :
    get? key entries = some value := by
  induction entries with
  | nil => cases member
  | cons entry rest ih =>
      obtain ⟨name, old⟩ := entry
      rw [List.map_cons, List.nodup_cons] at distinct
      rcases List.mem_cons.mp member with first | later
      · cases first
        simp [get?]
      · have different : name ≠ key := by
          intro same
          exact distinct.1 (List.mem_map.mpr ⟨_, later, same.symm⟩)
        simpa [get?, different] using ih distinct.2 later

theorem insert_of_absent (absent : key ∉ entries.map Prod.fst) :
    insert key value entries = entries ++ [(key, value)] := by
  induction entries with
  | nil => rfl
  | cons entry rest ih =>
      simp only [List.map_cons, List.mem_cons, not_or] at absent
      rw [insert, if_neg (Ne.symm absent.1), ih absent.2]
      rfl

/-- Entries under distinct keys make a dictionary of just those entries. -/
theorem ofEntries_of_nodup {entries : List (κ × α)} (distinct : (entries.map Prod.fst).Nodup) :
    ofEntries entries = entries := by
  have built : ∀ done : List (κ × α), ((done ++ entries).map Prod.fst).Nodup →
      entries.foldl (fun built entry => insert entry.1 entry.2 built) done = done ++ entries := by
    clear distinct
    induction entries with
    | nil => simp
    | cons entry rest ih =>
        intro done distinct
        obtain ⟨key, value⟩ := entry
        have absent : key ∉ done.map Prod.fst := by
          intro member
          rw [List.map_append, List.nodup_append] at distinct
          exact distinct.2.2 key member key (by simp) rfl
        simp only [List.foldl_cons, insert_of_absent absent]
        rw [ih]
        · simp
        · simpa using distinct
  exact built [] distinct

end QueryChain.Dictionary
