import QueryChain.Sql.Reference

namespace QueryChain.Sql

/-! Identifiers between brackets, as a server reads them.

An identifier ends at the first closing bracket that is not doubled; a doubled one stands for a
bracket in the name.  Names are put between brackets as they are, so that a name is read back
exactly if it holds no closing bracket.
-/

/-- The name up to the closing bracket, and what follows the bracket. -/
def readName? : List Char → Option (List Char × List Char)
  | [] => none
  | ']' :: ']' :: rest => (readName? rest).map (Prod.map (']' :: ·) id)
  | ']' :: rest => some ([], rest)
  | letter :: rest => (readName? rest).map (Prod.map (letter :: ·) id)

/-- The name of an identifier in brackets, and what follows it. -/
def readIdentifier? : List Char → Option (List Char × List Char)
  | '[' :: rest => readName? rest
  | _ => none

/-- The qualifier in front of a period, the name in brackets behind it, and what follows. -/
def readReference? : List Char → Option (List Char × List Char × List Char)
  | [] => none
  | '.' :: rest => (readIdentifier? rest).map (([], ·))
  | letter :: rest => (readReference? rest).map (Prod.map (letter :: ·) id)

/-- A name with its closing brackets doubled. -/
def doubled : List Char → List Char
  | [] => []
  | letter :: rest => if letter = ']' then ']' :: ']' :: doubled rest else letter :: doubled rest

variable {name qualifier rest : List Char}

theorem doubled_length (name : List Char) :
    (doubled name).length = name.length + name.count ']' := by
  induction name with
  | nil => rfl
  | cons letter rest ih =>
      by_cases closing : letter = ']' <;> simp [doubled, closing, ih] <;> omega

theorem doubled_eq_self : doubled name = name ↔ ']' ∉ name := by
  refine ⟨?_, ?_⟩
  · intro same
    have lengths := doubled_length name
    rw [same] at lengths
    exact List.count_eq_zero.mp (by omega)
  · intro plain
    induction name with
    | nil => rfl
    | cons letter rest ih =>
        simp only [List.mem_cons, not_or] at plain
        rw [doubled, if_neg (Ne.symm plain.1), ih plain.2]

/-- What is read is a name with its closing brackets doubled, up to one that is not. -/
theorem readName?_eq_some {text : List Char} :
    readName? text = some (name, rest) ↔
      text = doubled name ++ ']' :: rest ∧ rest.head? ≠ some ']' := by
  refine ⟨?_, ?_⟩
  · intro read
    fun_induction readName? text generalizing name with
    | case1 => cases read
    | case2 following ih =>
        obtain ⟨⟨found, left⟩, readRest, same⟩ := Option.map_eq_some_iff.mp read
        cases same
        obtain ⟨rfl, follows⟩ := ih readRest
        exact ⟨rfl, follows⟩
    | case3 following single =>
        cases read
        refine ⟨rfl, ?_⟩
        intro closing
        obtain ⟨tail, rfl⟩ := List.head?_eq_some_iff.mp closing
        exact single tail rfl
    | case4 letter following _ different ih =>
        obtain ⟨⟨found, left⟩, readRest, same⟩ := Option.map_eq_some_iff.mp read
        cases same
        obtain ⟨rfl, follows⟩ := ih readRest
        refine ⟨?_, follows⟩
        simp only [doubled, if_neg different, id_eq, List.cons_append]
  · rintro ⟨rfl, follows⟩
    induction name with
    | nil =>
        cases rest with
        | nil => rfl
        | cons next rest =>
            have different : next ≠ ']' := by simpa using follows
            simp [doubled, readName?, different]
    | cons letter name ih =>
        by_cases closing : letter = ']' <;> simp [doubled, readName?, closing, ih]

example : readIdentifier? "[a]]b] c".toList = some ("a]b".toList, " c".toList) := by decide

/-- A name that stands between brackets as it is. -/
theorem readName?_iff (follows : rest.head? ≠ some ']') :
    readName? (name ++ ']' :: rest) = some (name, rest) ↔ ']' ∉ name := by
  rw [readName?_eq_some, and_iff_left follows, List.append_left_inj, eq_comm, doubled_eq_self]

theorem bracketed_toList (name : String) :
    (bracketed name).toList = '[' :: (name.toList ++ [']']) := by
  simp [bracketed, String.toList_append]

theorem readReference?_append (regular : '.' ∉ qualifier) (text : List Char) :
    readReference? (qualifier ++ '.' :: text) = (readIdentifier? text).map ((qualifier, ·)) := by
  induction qualifier with
  | nil => rfl
  | cons letter qualifier ih =>
      simp only [List.mem_cons, not_or] at regular
      have different : letter ≠ '.' := Ne.symm regular.1
      rw [List.cons_append, readReference?, ih regular.2, Option.map_map]
      · rfl
      · exact different

theorem Source.read_iff (source : Source) (rest : List Char) :
    readIdentifier? (source.text.toList ++ rest) =
        some (source.table.toList, ' ' :: (source.qualifier.toList ++ rest)) ↔
      ']' ∉ source.table.toList := by
  have text : source.text.toList ++ rest =
      '[' :: (source.table.toList ++ ']' :: ' ' :: (source.qualifier.toList ++ rest)) := by
    simp [Source.text, bracketed_toList, String.toList_append]
  rw [text, readIdentifier?, readName?_iff (by simp)]

theorem Reference.read_iff {qualifier name : String} (regular : '.' ∉ qualifier.toList)
    (follows : rest.head? ≠ some ']') :
    readReference? ((column qualifier name).text.toList ++ rest) =
        some (qualifier.toList, name.toList, rest) ↔
      ']' ∉ name.toList := by
  have text : (column qualifier name).text.toList ++ rest =
      qualifier.toList ++ '.' :: ('[' :: (name.toList ++ ']' :: rest)) := by
    simp [Reference.text, bracketed_toList, String.toList_append]
  have read := @readName?_iff name.toList rest follows
  rw [text, readReference?_append regular, readIdentifier?, ← read, Option.map_eq_some_iff]
  simp

theorem Reference.name_eq_of_text_eq {qualifier name other : String}
    (same : (column qualifier name).text = (column qualifier other).text) : name = other := by
  simpa [Reference.text, bracketed] using same

end QueryChain.Sql
