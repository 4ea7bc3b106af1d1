import QueryChain.Proofs.Dictionary
import QueryChain.Sql.Parameters

namespace QueryChain.Sql.Parameters

open Json

/-! Parameters, their names and the object that they make. -/

variable {stem : String} {number : Nat} {values : List Value}

theorem nameFrom_inj {other : Nat} :
    nameFrom stem number = nameFrom stem other ↔ number = other := by
  unfold nameFrom
  rw [String.append_right_inj]
  refine ⟨?_, congrArg toString⟩
  intro same
  have digits : Nat.toDigits 10 number = Nat.toDigits 10 other := by
    simpa only [Nat.toString_eq_repr, Nat.toList_repr] using congrArg String.toList same
  simpa using congrArg (fun digits => Nat.ofDigitChars 10 digits 0) digits

theorem entriesFrom_eq_zipIdx :
    entriesFrom stem number values =
      (values.zipIdx number).map fun (value, index) => (stem ++ toString index, value) := by
  induction values generalizing number with
  | nil => rfl
  | cons value rest ih => rw [entriesFrom, ih]; rfl

theorem entriesFrom_names :
    (entriesFrom stem number values).map Prod.fst =
      (List.range' number values.length).map (nameFrom stem) := by
  induction values generalizing number with
  | nil => rfl
  | cons value rest ih => simp [entriesFrom, ih, List.range'_succ]

theorem names_nodup (parameters : Parameters) : parameters.names.Nodup := by
  rw [names, entries, entriesFrom_names, List.Nodup, List.pairwise_map]
  refine List.Pairwise.imp ?_ List.nodup_range'
  intro first second different same
  exact different (nameFrom_inj.mp same)

theorem toValue_eq (parameters : Parameters) : parameters.toValue = .object parameters.entries := by
  rw [toValue, Dictionary.ofEntries_of_nodup parameters.names_nodup]

theorem get?_entriesFrom (index : Nat) :
    Dictionary.get? (nameFrom stem (number + index)) (entriesFrom stem number values) =
      values[index]? := by
  induction values generalizing number index with
  | nil => rfl
  | cons value rest ih =>
      cases index with
      | zero => simp [entriesFrom, Dictionary.get?]
      | succ index =>
          have later : nameFrom stem number ≠ nameFrom stem (number + (index + 1)) := by
            intro same
            have := nameFrom_inj.mp same
            omega
          rw [entriesFrom, Dictionary.get?, if_neg later, ← Nat.add_assoc, Nat.add_right_comm, ih]
          rfl

theorem get?_nameFrom (parameters : Parameters) (index : Nat) :
    parameters.get? (nameFrom parameters.stem (index + 1)) = parameters.values[index]? := by
  rw [get?, entries, Nat.add_comm, get?_entriesFrom]

end QueryChain.Sql.Parameters
