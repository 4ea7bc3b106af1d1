import Mathlib.Data.List.Forall2
import QueryChain.Provider

namespace QueryChain

open Json Schema

/-! How a provider deals with a store.

A query that does not compile reaches no store.  Any other query is one request: the
statement and the parameters that compilation gives.  Every method is a run that differs
from the others in the kind of its request and in how it reads the answer.  `Provider.traced`
observes the requests, and changes nothing else.
-/

section Tracing

variable {σ α : Type}

/-- Asks as before, and keeps what was requested. -/
def logging (kind : RequestKind)
    (ask : String → Sql.Parameters → σ → Except QueryError α × σ)
    (sql : String) (parameters : Sql.Parameters) (state : σ × List Request) :
    Except QueryError α × (σ × List Request) :=
  let (answer, after) := ask sql parameters state.1
  (answer, (after, state.2 ++ [⟨kind, sql, parameters⟩]))

def Store.traced (store : Store σ) : Store (σ × List Request) :=
  ⟨logging .rows store.rows, logging .scalar store.scalar⟩

def Provider.traced (provider : Provider σ) : Provider (σ × List Request) :=
  ⟨provider.store.traced, provider.settings⟩

/-- A session together with the requests that were made in it. -/
def Session.traced (session : Session σ) (requests : List Request) :
    Session (σ × List Request) :=
  ⟨session.registry, (session.state, requests)⟩

end Tracing

section Reading

variable {α : Type}

/-- All rows in order, or the error of the first that does not read. -/
structure RowsRead (read : Reader α) (shape : Shape) (rows : List Row)
    (outcome : Except QueryError (List α)) : Prop where
  ok : ∀ values, outcome = .ok values ↔
    List.Forall₂ (fun row value => readRow read shape row = .ok value) rows values
  error : ∀ error, outcome = .error error ↔
    ∃ earlier row later, rows = earlier ++ row :: later ∧
    (∀ other ∈ earlier, ∃ value, readRow read shape other = .ok value) ∧
    readRow read shape row = .error error

/-- The first row alone, or what stands for it where there is none. -/
structure FirstRead (read : Reader α) (query : Query) (shape : Shape) (rows : List Row)
    (outcome : Except QueryError (Option α)) : Prop where
  row : ∀ row later, rows = row :: later → outcome = (readRow read shape row).map some
  default : rows = [] →
    (∃ predicate, query.operators.getLast? = some (.first predicate .firstOrDefault)) →
      outcome = .ok none
  missing : rows = [] →
    (¬ ∃ predicate, query.operators.getLast? = some (.first predicate .firstOrDefault)) →
      outcome = .error .noElements

variable {read : Reader α} {shape : Shape} {rows : List Row}

theorem readRows_cons_error {row : Row} {rest : List Row} {error : QueryError}
    (fails : readRow read shape row = .error error) :
    readRows read shape (row :: rest) = .error error := by
  rw [readRows, fails]
  rfl

theorem readRows_cons_ok {row : Row} {rest : List Row} {value : α}
    (reads : readRow read shape row = .ok value) :
    readRows read shape (row :: rest) = (readRows read shape rest).map (value :: ·) := by
  rw [readRows, reads]
  cases readRows read shape rest <;> rfl

theorem readRows_of_forall₂ {values : List α}
    (all : List.Forall₂ (fun row value => readRow read shape row = .ok value) rows values) :
    readRows read shape rows = .ok values := by
  induction all with
  | nil => rfl
  | cons reads _ ih => rw [readRows_cons_ok reads, ih, Except.map]

theorem readRows_of_split {earlier later : List Row} {row : Row} {error : QueryError}
    (reads : ∀ other ∈ earlier, ∃ value, readRow read shape other = .ok value)
    (fails : readRow read shape row = .error error) :
    readRows read shape (earlier ++ row :: later) = .error error := by
  induction earlier with
  | nil => exact readRows_cons_error fails
  | cons first rest ih =>
      obtain ⟨⟨value, first⟩, following⟩ := List.forall_mem_cons.mp reads
      rw [List.cons_append, readRows_cons_ok first, ih following, Except.map]

/-- Either every row reads, or there is a first that does not. -/
theorem rows_cases (read : Reader α) (shape : Shape) (rows : List Row) :
    (∃ values, List.Forall₂ (fun row value => readRow read shape row = .ok value)
      rows values) ∨
      ∃ earlier row later error, rows = earlier ++ row :: later ∧
        (∀ other ∈ earlier, ∃ value, readRow read shape other = .ok value) ∧
        readRow read shape row = .error error := by
  induction rows with
  | nil => exact .inl ⟨[], .nil⟩
  | cons row rest ih =>
      cases outcome : readRow read shape row with
      | error error => exact .inr ⟨[], row, rest, error, rfl, by simp, outcome⟩
      | ok value =>
          rcases ih with ⟨values, all⟩ | ⟨earlier, other, later, error, rfl, reads, fails⟩
          · exact .inl ⟨value :: values, .cons outcome all⟩
          · refine .inr ⟨row :: earlier, other, later, error, rfl, ?_, fails⟩
            exact List.forall_mem_cons.mpr ⟨⟨value, outcome⟩, reads⟩

theorem readRows_read (read : Reader α) (shape : Shape) (rows : List Row) :
    RowsRead read shape rows (readRows read shape rows) := by
  refine ⟨?_, ?_⟩
  · intro values
    refine ⟨?_, readRows_of_forall₂⟩
    intro outcome
    rcases rows_cases read shape rows with ⟨others, all⟩ | ⟨_, _, _, _, rfl, reads, fails⟩
    · cases outcome.symm.trans (readRows_of_forall₂ all)
      exact all
    · cases outcome.symm.trans (readRows_of_split reads fails)
  · intro error
    refine ⟨?_, ?_⟩
    · intro outcome
      rcases rows_cases read shape rows with
        ⟨others, all⟩ | ⟨earlier, row, later, _, rfl, reads, fails⟩
      · cases outcome.symm.trans (readRows_of_forall₂ all)
      · cases outcome.symm.trans (readRows_of_split reads fails)
        exact ⟨earlier, row, later, rfl, reads, fails⟩
    · intro split
      obtain ⟨earlier, row, later, rfl, reads, fails⟩ := split
      exact readRows_of_split reads fails

theorem firstMode?_eq_default {query : Query} :
    query.firstMode?.getD .first = .firstOrDefault ↔
      ∃ predicate, query.operators.getLast? = some (.first predicate .firstOrDefault) := by
  unfold Query.firstMode?
  cases query.operators.getLast? with
  | none => simp
  | some operator => cases operator <;> simp

theorem readFirst_read (read : Reader α) (query : Query) (shape : Shape) (rows : List Row) :
    FirstRead read query shape rows
      (readFirst read shape (query.firstMode?.getD .first) rows) := by
  refine ⟨?_, ?_, ?_⟩
  · rintro row later rfl
    rfl
  · rintro rfl default
    rw [readFirst, if_pos (firstMode?_eq_default.mpr default)]
  · rintro rfl other
    rw [readFirst, if_neg (mt firstMode?_eq_default.mp other)]

end Reading

/-- What becomes of a query in a session: it does not compile, or the store fails, or the store
answers and `reads` says what is made of the answer.  Each case gives the outcome of the run and
the session after it, and what the same run leaves if `log` was requested before. -/
inductive Provider.Exchange {σ α β : Type} (provider : Provider σ) (kind : RequestKind)
    (ask : String → Sql.Parameters → σ → Except QueryError α × σ)
    (reads : Compiled → α → Except QueryError β → Prop)
    (query : Query) (session : Session σ)
    (log : List Request) :
    Except QueryError β × Session σ →
      Except QueryError β × Session (σ × List Request) → Prop where
  | rejected {error : QueryError} {after : Registry}
      (fails : session.registry.compile provider.settings query = (.error error, after)) :
      Exchange provider kind ask reads query session log
        (.error error, ⟨after, session.state⟩)
        (.error error, ⟨after, (session.state, log)⟩)
  | failed {compiled : Compiled} {after : Registry} {error : QueryError} {state : σ}
      (compiles : session.registry.compile provider.settings query = (.ok compiled, after))
      (asked : ask compiled.sql compiled.parameters session.state = (.error error, state)) :
      Exchange provider kind ask reads query session log
        (.error (.invalidQuery compiled.sql error), ⟨after, state⟩)
        (.error (.invalidQuery compiled.sql error),
          ⟨after, (state, log ++ [⟨kind, compiled.sql, compiled.parameters⟩])⟩)
  | answered {compiled : Compiled} {after : Registry} {answer : α} {state : σ}
      {outcome : Except QueryError β}
      (compiles : session.registry.compile provider.settings query = (.ok compiled, after))
      (asked : ask compiled.sql compiled.parameters session.state = (.ok answer, state))
      (read : reads compiled answer outcome) :
      Exchange provider kind ask reads query session log
        (outcome, ⟨after, state⟩)
        (outcome, ⟨after, (state, log ++ [⟨kind, compiled.sql, compiled.parameters⟩])⟩)

namespace Provider

variable {σ α β : Type} {provider : Provider σ}
  {ask : String → Sql.Parameters → σ → Except QueryError α × σ}
  {read : Compiled → α → Except QueryError β} {query : Query} {session : Session σ}
  {after : Registry} {compiled : Compiled} {state : σ}

theorem run_of_rejected {error : QueryError}
    (fails : session.registry.compile provider.settings query = (.error error, after)) :
    provider.run ask read query session = (.error error, ⟨after, session.state⟩) := by
  simp only [run, compile, fails]

theorem run_of_failed {error : QueryError}
    (compiles : session.registry.compile provider.settings query = (.ok compiled, after))
    (asked : ask compiled.sql compiled.parameters session.state = (.error error, state)) :
    provider.run ask read query session =
      (.error (.invalidQuery compiled.sql error), ⟨after, state⟩) := by
  simp only [run, compile, compiles, asked]

theorem run_of_answered {answer : α}
    (compiles : session.registry.compile provider.settings query = (.ok compiled, after))
    (asked : ask compiled.sql compiled.parameters session.state = (.ok answer, state)) :
    provider.run ask read query session = (read compiled answer, ⟨after, state⟩) := by
  simp only [run, compile, compiles, asked]

/-- A run asks at most once, and deals with the answer that it gets. -/
theorem run_exchange (provider : Provider σ) (kind : RequestKind)
    (ask : String → Sql.Parameters → σ → Except QueryError α × σ)
    (reads : Compiled → α → Except QueryError β → Prop)
    (readsAs : ∀ compiled answer, reads compiled answer (read compiled answer))
    (query : Query) (session : Session σ) (log : List Request) :
    provider.Exchange kind ask reads query session log (provider.run ask read query session)
      (provider.traced.run (logging kind ask) read query (session.traced log)) := by
  rcases compiles : session.registry.compile provider.settings query with ⟨outcome, after⟩
  have compilesToo : (session.traced log).registry.compile provider.traced.settings query =
      (outcome, after) := compiles
  cases outcome with
  | error cause =>
      rw [run_of_rejected compiles, run_of_rejected compilesToo]
      exact .rejected compiles
  | ok compiled =>
      rcases asked : ask compiled.sql compiled.parameters session.state with ⟨answer, state⟩
      have askedToo : logging kind ask compiled.sql compiled.parameters
          (session.traced log).state =
            (answer, (state, log ++ [⟨kind, compiled.sql, compiled.parameters⟩])) := by
        simp only [logging, Session.traced, asked]
      cases answer with
      | error cause =>
          rw [run_of_failed compiles asked, run_of_failed compilesToo askedToo]
          exact .failed compiles asked
      | ok answer =>
          rw [run_of_answered compiles asked, run_of_answered compilesToo askedToo]
          exact .answered compiles asked (readsAs compiled answer)

/-- Each method of a provider compiles the query, makes no request if that fails and one
otherwise, and passes on or reads what the store answers. -/
theorem methods_exchange (provider : Provider σ) (read : Reader α) (query : Query)
    (session : Session σ) (log : List Request) :
    provider.Exchange .rows provider.store.rows (fun _ rows outcome => outcome = .ok rows)
        query session log (provider.queryRows query session)
        (provider.traced.queryRows query (session.traced log)) ∧
      provider.Exchange .rows provider.store.rows
        (fun compiled rows outcome => RowsRead read compiled.shape rows outcome)
        query session log (provider.query read query session)
        (provider.traced.query read query (session.traced log)) ∧
      provider.Exchange .rows provider.store.rows
        (fun compiled rows outcome => FirstRead read query compiled.shape rows outcome)
        query session log (provider.first read query session)
        (provider.traced.first read query (session.traced log)) ∧
      provider.Exchange .scalar provider.store.scalar (fun _ value outcome => outcome = .ok value)
        query session log (provider.scalar query session)
        (provider.traced.scalar query (session.traced log)) := by
  refine ⟨?_, ?_, ?_, ?_⟩
  · refine provider.run_exchange .rows _ _ ?_ query session log
    intro _ rows
    rfl
  · refine provider.run_exchange .rows _ _ ?_ query session log
    intro compiled rows
    exact readRows_read read compiled.shape rows
  · refine provider.run_exchange .rows _ _ ?_ query session log
    intro compiled rows
    exact readFirst_read read query compiled.shape rows
  · refine provider.run_exchange .scalar _ _ ?_ query session log
    intro _ value
    rfl

end Provider

end QueryChain
