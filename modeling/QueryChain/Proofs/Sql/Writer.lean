import QueryChain.Proofs.Plan.Columns
import QueryChain.Proofs.Sql.Parameters
import QueryChain.Sql.Writer

namespace QueryChain.Sql

open Json

/-! Writers after any calls, and the parameters that they have bound.

A call may fail, and others may follow all the same.  Whatever the calls were, the values other
than null are bound in the order in which they are handed over, until the limit is reached.  A
`Ledger`, which keeps parameters under their names and counts them apart, comes to the same.
-/

/-- Parameters kept under their names, with a count of its own for the next name. -/
structure Ledger where
  stem : String
  limit : Nat
  count : Nat
  entries : List (String × Value)

/-- The values that a call hands over. -/
def Writer.Step.values : Writer.Step → List Value
  | .parameter value => [value]
  | .inList _ values => values
  | _ => []

namespace Ledger

def ofSettings (settings : Settings) : Ledger := ⟨settings.stem, settings.limit, 0, []⟩

/-- Null takes no parameter, and any other value takes the next name while there is room. -/
def bind (ledger : Ledger) (value : Value) : Except UsageError Ledger :=
  if value.isNull then .ok ledger
  else if ledger.limit ≤ ledger.entries.length then .error (.tooManyParameters ledger.limit)
  else
    let count := ledger.count + 1
    let name := Parameters.nameFrom ledger.stem count
    .ok { ledger with count, entries := ledger.entries ++ [(name, value)] }

/-- Binds values up to the first one that finds no room. -/
def bindAll (ledger : Ledger) : List Value → Except UsageError Unit × Ledger
  | [] => (.ok (), ledger)
  | value :: rest =>
    match ledger.bind value with
    | .error cause => (.error cause, ledger)
    | .ok after => after.bindAll rest

/-- The ledger after some calls on a writer, those that fail included. -/
def run (ledger : Ledger) (calls : List Writer.Step) : Ledger :=
  calls.foldl (fun ledger call => (ledger.bindAll call.values).2) ledger

end Ledger

/-- The ledger with the entries of parameters. -/
def Parameters.ledger (parameters : Parameters) : Ledger :=
  ⟨parameters.stem, parameters.limit, parameters.size, parameters.entries⟩

/-- The writer after some calls, those that fail included. -/
def Writer.run (writer : Writer) (calls : List Writer.Step) : Writer :=
  calls.foldl (fun writer call => (writer.step call).2) writer

/-- What every sequence of calls comes to. -/
structure Writer.Tabulates (settings : Settings) (calls : List Writer.Step) (writer : Writer) :
    Prop where
  ledger : (Ledger.ofSettings settings).run calls = writer.parameters.ledger
  simulated : ∀ call, writer.parameters.ledger.bindAll call.values =
    ((writer.step call).1, (writer.step call).2.parameters.ledger)
  names : writer.parameters.names =
    (List.range' 1 writer.parameters.size).map fun number => settings.stem ++ toString number
  bounded : writer.parameters.size ≤ settings.limit
  values : writer.parameters.values = (nonNull (calls.flatMap Step.values)).take settings.limit
  distinct : writer.parameters.names.Nodup
  held : ∀ index, writer.parameters.get? (settings.stem ++ toString (index + 1)) =
    writer.parameters.values[index]?
  absent : ∀ name, name ∉ writer.parameters.names → writer.parameters.get? name = none
  entries : writer.parameters.entries.map Prod.snd = writer.parameters.values
  object : writer.parameters.toValue = .object writer.parameters.entries
  outcome : ∀ call, (writer.step call).1 =
    if writer.parameters.size + (nonNull call.values).length ≤ settings.limit then .ok ()
    else .error (.tooManyParameters settings.limit)
  accepted : ∀ call, (writer.step call).1 = .ok () →
    (writer.step call).2.parameters.values = writer.parameters.values ++ nonNull call.values
  refused : ∀ value cause, (writer.step (.parameter value)).1 = .error cause →
    (writer.step (.parameter value)).2 = writer
  cut : ∀ negated values cause, (writer.step (.inList negated values)).1 = .error cause →
    ∃ tokens, (writer.step (.inList negated values)).2 =
      { writer with
        parameters := { writer.parameters with
          values := writer.parameters.values ++
            (nonNull values).take (settings.limit - writer.parameters.size) }
        predicate := writer.predicate ++ tokens }

namespace Parameters

variable {parameters : Parameters} {value : Value} {values more : List Value}

def room (parameters : Parameters) : Nat := parameters.limit - parameters.size

/-- The parameters after values were handed over, as many of which are bound as there is room. -/
def fill (parameters : Parameters) (values : List Value) : Parameters :=
  { parameters with values := parameters.values ++ (nonNull values).take parameters.room }

/-- Whether values that are handed over are all bound. -/
def answer (parameters : Parameters) (values : List Value) : Except UsageError Unit :=
  if (nonNull values).length ≤ parameters.room then .ok ()
  else .error (.tooManyParameters parameters.limit)

@[simp] theorem fill_nil : parameters.fill [] = parameters := by
  simp [fill]

theorem room_fill : (parameters.fill values).room = parameters.room - (nonNull values).length := by
  simp only [room, size, fill, List.length_append, List.length_take]
  omega

theorem fill_fill : (parameters.fill values).fill more = parameters.fill (values ++ more) := by
  have room := @room_fill parameters values
  simp only [fill] at room ⊢
  rw [room, nonNull_append, List.take_append, List.append_assoc]

theorem fill_full (full : ¬ parameters.size < parameters.limit) :
    parameters.fill values = parameters := by
  have none : parameters.room = 0 := by
    unfold room
    omega
  rw [fill, none, List.take_zero, List.append_nil]

theorem answer_ok_iff : parameters.answer values = .ok () ↔
    (nonNull values).length ≤ parameters.room := by
  unfold answer
  split <;> simp_all

theorem fill_of_answer_ok (answered : parameters.answer values = .ok ()) :
    (parameters.fill values).values = parameters.values ++ nonNull values := by
  rw [fill, List.take_of_length_le (answer_ok_iff.mp answered)]

theorem answer_of_bounded (bounded : parameters.size ≤ parameters.limit) :
    parameters.answer values =
      if parameters.size + (nonNull values).length ≤ parameters.limit then .ok ()
      else .error (.tooManyParameters parameters.limit) := by
  unfold answer room
  congr 1
  simp only [eq_iff_iff]
  omega

/-- Nothing is bound from a value on that finds no room. -/
theorem fill_cons_of_error {cause : UsageError}
    (refused : parameters.answer [value] = .error cause) :
    parameters.fill (value :: more) = parameters := by
  have excess : ¬ (nonNull [value]).length ≤ parameters.room := by
    rw [← answer_ok_iff, refused]
    simp
  have single : (nonNull [value]).length ≤ 1 := List.length_filter_le ..
  apply fill_full
  unfold room at excess
  omega

theorem answer_cons :
    parameters.answer (value :: more) =
      match parameters.answer [value] with
      | .ok _ => (parameters.fill [value]).answer more
      | .error cause => .error cause := by
  have room := @room_fill parameters [value]
  have limit : (parameters.fill [value]).limit = parameters.limit := rfl
  simp only [answer, nonNull_cons value more, List.length_append, room, limit]
  by_cases fits : (nonNull [value]).length ≤ parameters.room
  · simp only [fits, if_true]
    congr 1
    simp only [eq_iff_iff]
    omega
  · have excess : ¬ (nonNull [value]).length + (nonNull more).length ≤
      parameters.room := by omega
    simp only [fits, excess, if_false]

theorem answer_null (null : value.isNull) : parameters.answer [value] = .ok () := by
  simp [answer, nonNull, null]

theorem fill_null (null : value.isNull) : parameters.fill [value] = parameters := by
  simp [fill, nonNull, null]

theorem fill_present (present : value.isNull = false) (below : parameters.size < parameters.limit) :
    parameters.fill [value] = { parameters with values := parameters.values ++ [value] } := by
  have one : [value].length ≤ parameters.room := by
    unfold room
    simp only [List.length_singleton]
    omega
  have kept : nonNull [value] = [value] := by simp [nonNull, present]
  rw [fill, kept, List.take_of_length_le one]

theorem answer_nonNull (present : value.isNull = false) :
    parameters.answer [value] =
      if parameters.size < parameters.limit then .ok ()
      else .error (.tooManyParameters parameters.limit) := by
  have iff : 1 ≤ parameters.room ↔ parameters.size < parameters.limit := by
    unfold room
    omega
  simp [answer, nonNull, present, iff]

end Parameters

namespace Writer

variable {writer after : Writer} {values more : List Value}

/-- A writer to which values were handed over has grown by their parameters and some tokens. -/
def Grows (writer : Writer) (values : List Value) (after : Writer) : Prop :=
  ∃ tokens, after =
    { writer with
      parameters := writer.parameters.fill values
      predicate := writer.predicate ++ tokens }

theorem grows_write (writer : Writer) (tokens : List (Token Reference)) :
    writer.Grows [] (writer.write tokens) :=
  ⟨tokens, by rw [Parameters.fill_nil]; rfl⟩

theorem Grows.trans {last : Writer} (grows : writer.Grows values after)
    (growsMore : after.Grows more last) : writer.Grows (values ++ more) last := by
  obtain ⟨tokens, rfl⟩ := grows
  obtain ⟨others, rfl⟩ := growsMore
  refine ⟨tokens ++ others, ?_⟩
  simp only [Parameters.fill_fill, List.append_assoc]

/-- A value is written and bound where there is room for it, and otherwise changes nothing. -/
theorem parameter_cases (writer : Writer) (value : Value) :
    (∃ after, writer.parameter value = (.ok (), after) ∧
      writer.parameters.answer [value] = .ok () ∧ writer.Grows [value] after) ∨
    ∃ cause, writer.parameter value = (.error cause, writer) ∧
      writer.parameters.answer [value] = .error cause := by
  unfold parameter
  by_cases null : value.isNull
  · left
    refine ⟨writer.write [.keyword .null], by rw [if_pos null], Parameters.answer_null null, ?_⟩
    exact ⟨[.keyword .null], by rw [Parameters.fill_null null]; rfl⟩
  · rw [if_neg null, Parameters.answer_nonNull (by simpa using null)]
    unfold Parameters.bind
    by_cases room : writer.parameters.size < writer.parameters.limit
    · left
      rw [if_pos room, if_pos room]
      refine ⟨_, rfl, rfl, ⟨[.placeholder
        (Parameters.nameFrom writer.parameters.stem (writer.parameters.size + 1))], ?_⟩⟩
      rw [Parameters.fill_present (by simpa using null) room]
      rfl
    · right
      rw [if_neg room, if_neg room]
      exact ⟨_, rfl, rfl⟩

theorem listValues_grows (writer : Writer) (values : List Value) :
    (writer.listValues values).1 = writer.parameters.answer values ∧
      writer.Grows values (writer.listValues values).2 := by
  induction values generalizing writer with
  | nil => exact ⟨rfl, writer.grows_write _⟩
  | cons value rest ih =>
      obtain ⟨after, written, answered, grows⟩ | ⟨cause, failed, answered⟩ :=
        writer.parameter_cases value
      · let next := if rest.isEmpty then after else after.write Phrase.separator
        have growsToo : writer.Grows [value] next := by
          by_cases last : rest.isEmpty
          · simpa only [next, if_pos last] using grows
          · have separated := grows.trans (after.grows_write Phrase.separator)
            simpa only [next, if_neg last, List.append_nil] using separated
        have parameters : next.parameters = writer.parameters.fill [value] := by
          obtain ⟨_, same⟩ := growsToo
          rw [same]
        have step : writer.listValues (value :: rest) = next.listValues rest := by
          simp only [listValues, written]
          rfl
        have outcome : writer.parameters.answer (value :: rest) =
            (writer.parameters.fill [value]).answer rest := by
          rw [Parameters.answer_cons, answered]
        rw [step, outcome, ← parameters]
        exact ⟨(ih next).1, growsToo.trans (ih next).2⟩
      · have step : writer.listValues (value :: rest) = (.error cause, writer) := by
          simp only [listValues, failed]
        have outcome : writer.parameters.answer (value :: rest) = .error cause := by
          rw [Parameters.answer_cons, answered]
        have bound : writer.parameters.fill (value :: rest) = writer.parameters := by
          exact Parameters.fill_cons_of_error answered
        rw [step, outcome]
        exact ⟨rfl, [], by rw [bound, List.append_nil]⟩

theorem inList_grows (writer : Writer) (negated : Bool) (values : List Value) :
    (writer.inList negated values).1 = writer.parameters.answer values ∧
      writer.Grows values (writer.inList negated values).2 := by
  let opened := writer.write (Phrase.isIn negated ++ [.opening])
  obtain ⟨outcome, grows⟩ := opened.listValues_grows values
  exact ⟨outcome, (writer.grows_write _).trans grows⟩

/-- What a call answers, and what it binds. -/
theorem step_parameters (writer : Writer) (call : Step) :
    (writer.step call).1 = writer.parameters.answer call.values ∧
      (writer.step call).2.parameters = writer.parameters.fill call.values := by
  cases call with
  | parameter value =>
      obtain ⟨after, written, answered, _, rfl⟩ | ⟨cause, failed, answered⟩ :=
        writer.parameter_cases value
      · simp only [step, written, Step.values, answered, and_self]
      · have unchanged := @Parameters.fill_cons_of_error writer.parameters value [] cause answered
        simp only [step, failed, Step.values, answered, unchanged, and_self]
  | inList negated values =>
      obtain ⟨outcome, _, grown⟩ := writer.inList_grows negated values
      exact ⟨outcome, by simp only [step, grown, Step.values]⟩
  | beginPredicate =>
      simp only [step, Step.values, Parameters.fill_nil, beginPredicate]
      split <;> exact ⟨rfl, rfl⟩
  | text _ | opening | closing | reference _ | nullTest _ | like _ | leadingWildcard
  | trailingWildcard | flag _ | equality _ | emptyText | truth _ | orderBy _ | join _ =>
      exact ⟨rfl, Parameters.fill_nil.symm⟩

theorem step_parameter_refused {value : Value} {cause : UsageError}
    (fails : (writer.step (.parameter value)).1 = .error cause) :
    (writer.step (.parameter value)).2 = writer := by
  obtain ⟨after, written, _⟩ | ⟨_, failed, _⟩ := writer.parameter_cases value
  · rw [step, written] at fails
    cases fails
  · rw [step, failed]

theorem run_parameters (writer : Writer) (calls : List Step) :
    (writer.run calls).parameters = writer.parameters.fill (calls.flatMap Step.values) := by
  induction calls generalizing writer with
  | nil => exact Parameters.fill_nil.symm
  | cons call rest ih =>
      have step : writer.run (call :: rest) = (writer.step call).2.run rest := rfl
      rw [step, ih, (writer.step_parameters call).2, Parameters.fill_fill, List.flatMap_cons]

end Writer

namespace Parameters

theorem entriesFrom_append (stem : String) (number : Nat) (values more : List Value) :
    entriesFrom stem number (values ++ more) =
      entriesFrom stem number values ++ entriesFrom stem (number + values.length) more := by
  induction values generalizing number with
  | nil => rfl
  | cons value rest ih =>
      simp only [List.cons_append, entriesFrom, ih, List.length_cons]
      rw [Nat.add_assoc, Nat.add_comm 1]

theorem entriesFrom_values (stem : String) (number : Nat) (values : List Value) :
    (entriesFrom stem number values).map Prod.snd = values := by
  induction values generalizing number with
  | nil => rfl
  | cons value rest ih => rw [entriesFrom, List.map_cons, ih]

theorem entries_length (parameters : Parameters) : parameters.entries.length = parameters.size := by
  rw [← List.length_map Prod.snd, entries, entriesFrom_values, size]

theorem ledger_bind (parameters : Parameters) (value : Value) :
    parameters.ledger.bind value =
      match parameters.answer [value] with
      | .ok _ => .ok (parameters.fill [value]).ledger
      | .error cause => .error cause := by
  have length : parameters.ledger.entries.length = parameters.size := parameters.entries_length
  unfold Ledger.bind
  by_cases null : value.isNull
  · rw [if_pos null, answer_null null, fill_null null]
  · have present : value.isNull = false := by simpa using null
    rw [if_neg null, answer_nonNull present, length]
    by_cases below : parameters.size < parameters.limit
    · have appended : entriesFrom parameters.stem 1 (parameters.values ++ [value]) =
          parameters.entries ++ [(nameFrom parameters.stem (parameters.size + 1), value)] := by
        rw [entriesFrom_append, Nat.add_comm 1]
        rfl
      have size : (parameters.values ++ [value]).length = parameters.size + 1 :=
        List.length_append
      have further : ¬ parameters.ledger.limit ≤ parameters.size := Nat.not_le_of_lt below
      rw [if_neg further, if_pos below, fill_present present below]
      simp only [ledger, entries, Parameters.size, appended, size]
    · have reached : parameters.ledger.limit ≤ parameters.size := Nat.le_of_not_lt below
      rw [if_pos reached, if_neg below]
      rfl

theorem ledger_bindAll (parameters : Parameters) (values : List Value) :
    parameters.ledger.bindAll values =
      (parameters.answer values, (parameters.fill values).ledger) := by
  induction values generalizing parameters with
  | nil => rw [fill_nil]; rfl
  | cons value rest ih =>
      have outcome := @answer_cons parameters value rest
      rw [Ledger.bindAll, ledger_bind, outcome]
      cases answered : parameters.answer [value] with
      | ok _ =>
          simp only [ih, fill_fill]
          rfl
      | error cause =>
          simp only [fill_cons_of_error answered]

theorem ledger_run (parameters : Parameters) (calls : List Writer.Step) :
    parameters.ledger.run calls = (parameters.fill (calls.flatMap Writer.Step.values)).ledger := by
  induction calls generalizing parameters with
  | nil => rw [List.flatMap_nil, fill_nil]; rfl
  | cons call rest ih =>
      have step : parameters.ledger.run (call :: rest) =
          (parameters.ledger.bindAll call.values).2.run rest := rfl
      rw [step, ledger_bindAll, ih, fill_fill, List.flatMap_cons]

end Parameters

namespace Writer

/-- Whatever is called on a writer, its parameters have the names of their numbers, as a ledger
counts them, and hold the values other than null that were handed over, in order and up to the
limit.  A value that finds no room changes nothing, and a list is bound as far as there is room. -/
theorem run_tabulates (settings : Settings) (calls : List Step) :
    Tabulates settings calls ((ofSettings settings).run calls) := by
  have parameters : ((ofSettings settings).run calls).parameters =
      (Parameters.ofSettings settings).fill (calls.flatMap Step.values) :=
    (ofSettings settings).run_parameters calls
  generalize (ofSettings settings).run calls = writer at parameters
  have stem : writer.parameters.stem = settings.stem := by rw [parameters]; rfl
  have limit : writer.parameters.limit = settings.limit := by rw [parameters]; rfl
  have values : writer.parameters.values =
      (nonNull (calls.flatMap Step.values)).take settings.limit := by rw [parameters]; rfl
  have bounded : writer.parameters.size ≤ settings.limit := by
    rw [Parameters.size, values]
    exact List.length_take_le ..
  refine {
    ledger := by rw [parameters]; exact (Parameters.ofSettings settings).ledger_run calls
    simulated := ?_
    names := ?_
    bounded
    values
    distinct := writer.parameters.names_nodup
    held := ?_
    absent := fun name => Dictionary.get?_eq_none.mpr
    entries := Parameters.entriesFrom_values ..
    object := writer.parameters.toValue_eq
    outcome := ?_
    accepted := ?_
    refused := fun value cause => step_parameter_refused
    cut := ?_ }
  · intro call
    obtain ⟨outcome, bound⟩ := writer.step_parameters call
    rw [Parameters.ledger_bindAll, outcome, bound]
  · rw [Parameters.names, Parameters.entries, Parameters.entriesFrom_names, stem]
    rfl
  · intro index
    rw [← stem]
    exact writer.parameters.get?_nameFrom index
  · intro call
    rw [← limit] at bounded ⊢
    rw [(writer.step_parameters call).1, Parameters.answer_of_bounded bounded]
  · intro call succeeds
    obtain ⟨outcome, bound⟩ := writer.step_parameters call
    rw [bound]
    exact Parameters.fill_of_answer_ok (outcome.symm.trans succeeds)
  · intro negated values cause _
    obtain ⟨tokens, grown⟩ := (writer.inList_grows negated values).2
    refine ⟨tokens, ?_⟩
    rw [← limit]
    exact grown

/-- The list is bound as far as there is room, and the text after it finds none. -/
example : ((ofSettings { limit := 2 }).run
    [.inList false [.bool true, .null, .string "Ada", .bool false], .parameter (.string "Bob")]
    ).parameters.entries = [("p1", .bool true), ("p2", .string "Ada")] := rfl

end Writer

end QueryChain.Sql
