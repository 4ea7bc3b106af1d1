import QueryChain.Sql.Writer

namespace QueryChain

/-! Outlines after any calls, and the clauses by which a statement limits its rows.

A call may be refused, and others may follow all the same.  Whatever the calls were, an offset
never meets a limit of no rows, so that what limits the rows of a statement is of one of four
forms, each of which a server takes.
-/

namespace Outline

/-- What a call does to an outline, which stays as it is where the call is refused. -/
inductive Makes (outline : Outline) : Step → Except UsageError Unit × Outline → Prop where
  | taken {count : Nat} (page : outline.skipped.isSome → 1 ≤ count) :
      Makes outline (.take count) (.ok (), { outline with taken := some count })
  | emptyPage {skipped : Nat} (offset : outline.skipped = some skipped) :
      Makes outline (.take 0) (.error (.emptyPage skipped), outline)
  | skipped {count : Nat} (untaken : outline.taken = none) :
      Makes outline (.skip count) (.ok (), { outline with skipped := some count })
  | skipAfterTake {count taken : Nat} (limit : outline.taken = some taken) :
      Makes outline (.skip count) (.error (.skipAfterTake count taken), outline)
  | unlimited {operator : String} (unlimited : outline.isLimited = false) :
      Makes outline (.requireUnlimited operator) (.ok (), outline)
  | afterLimit {operator : String} (limited : outline.isLimited = true) :
      Makes outline (.requireUnlimited operator) (.error (.afterLimit operator), outline)
  | distinct : Makes outline .requireDistinct (.ok (), { outline with distinct := true })
  | selected {projection : Projection} : Makes outline (.select projection)
      (.ok (), { outline with selected := outline.selected.or (some projection) })

/-- The outline after some calls, those that are refused included. -/
def run (outline : Outline) (calls : List Step) : Outline :=
  calls.foldl (fun outline call => (outline.step call).2) outline

def Step.projection? : Step → Option Projection
  | .select projection => some projection
  | _ => none

/-- A page has room for a row. -/
def Pages (outline : Outline) : Prop := outline.skipped.isSome → outline.taken ≠ some 0

end Outline

namespace Sql

/-- What orders the rows of a page: the sort keys, or nothing in particular. -/
def pageOrder (keys : String) : String := if keys.isEmpty then "(SELECT NULL)" else keys

/-- The texts that limit the rows of a statement under a limit and an offset: what stands in
front of the columns, the order by clause, and what ends the statement. -/
inductive LimitTexts (keys : String) :
    Option Nat → Option Nat → String → String → String → Prop where
  | all : LimitTexts keys none none "" (if keys.isEmpty then "" else " ORDER BY " ++ keys) ""
  | top (count : Nat) : LimitTexts keys (some count) none
      ("TOP(" ++ toString count ++ ") ") (if keys.isEmpty then "" else " ORDER BY " ++ keys) ""
  | rest (offset : Nat) : LimitTexts keys none (some offset)
      "" (" ORDER BY " ++ pageOrder keys) (" OFFSET " ++ toString offset ++ " ROWS")
  | page {count : Nat} (offset : Nat) (positive : 1 ≤ count) :
      LimitTexts keys (some count) (some offset) "" (" ORDER BY " ++ pageOrder keys)
        (" OFFSET " ++ toString offset ++ " ROWS FETCH NEXT " ++ toString count ++ " ROWS ONLY")

/-- The text of a statement around the texts that limit its rows. -/
def Writer.textAround (writer : Writer) (distinct : Bool) (source : Source)
    (columns : List Reference) (top order page : String) : String :=
  "SELECT " ++ top ++ (if distinct then "DISTINCT " else "")
    ++ ",".intercalate (columns.map Reference.text)
    ++ (" FROM " ++ source.text ++ String.join (writer.joins.map Join.text))
    ++ (if writer.predicateText.isEmpty then "" else " WHERE " ++ writer.predicateText)
    ++ order ++ page

end Sql

/-- What every sequence of calls comes to. -/
structure Outline.Legal (root : Entity) (calls : List Outline.Step) (outline : Outline) : Prop where
  root_eq : outline.root = root
  pages : outline.Pages
  settled : outline.taken.isSome → ∀ later, (outline.run later).skipped = outline.skipped
  refused : ∀ call cause, (outline.step call).1 = .error cause → (outline.step call).2 = outline
  projection_eq : outline.projection = (calls.findSome? Step.projection?).getD (.entity root)
  written : ∀ (writer : Sql.Writer) (source : Sql.Source) (columns : List Sql.Reference),
    ∃ top order page,
      Sql.LimitTexts (Sql.orderText writer.order) outline.taken outline.skipped top order page ∧
      (writer.statement outline source columns).text =
        writer.textAround outline.distinct source columns top order page

namespace Outline

theorem take_makes (outline : Outline) (count : Nat) :
    outline.Makes (.take count) (outline.take count) := by
  unfold take
  split
  · rename_i skipped offset
    exact .emptyPage offset
  · rename_i count _ _ other
    refine .taken ?_
    intro page
    obtain ⟨skipped, offset⟩ := Option.isSome_iff_exists.mp page
    rcases Nat.eq_zero_or_pos count with zero | positive
    · exact absurd offset (other skipped zero)
    · exact positive

theorem skip_makes (outline : Outline) (count : Nat) :
    outline.Makes (.skip count) (outline.skip count) := by
  unfold skip
  split
  · rename_i taken limit
    exact .skipAfterTake limit
  · rename_i untaken
    exact .skipped untaken

theorem step_makes (outline : Outline) (call : Step) : outline.Makes call (outline.step call) := by
  cases call with
  | take count => exact outline.take_makes count
  | skip count => exact outline.skip_makes count
  | requireUnlimited operator =>
      simp only [step, requireUnlimited]
      split
      · rename_i limited
        exact .afterLimit limited
      · rename_i unlimited
        exact .unlimited (Bool.eq_false_iff.mpr unlimited)
  | requireDistinct => exact .distinct
  | select projection => exact .selected

section Makes

variable {outline after : Outline} {call : Step} {outcome : Except UsageError Unit}

theorem Makes.pages (makes : outline.Makes call (outcome, after)) (pages : outline.Pages) :
    after.Pages := by
  cases makes with
  | taken page =>
      intro offset empty
      have positive := page offset
      cases empty
      omega
  | skipped untaken => simp [Pages, untaken]
  | emptyPage _ | skipAfterTake _ | unlimited _ | afterLimit _ | distinct | selected => exact pages

/-- Once a limit is recorded, there is a limit ever after, and the offset stays as it is. -/
theorem Makes.settled (makes : outline.Makes call (outcome, after)) (limit : outline.taken.isSome) :
    after.taken.isSome ∧ after.skipped = outline.skipped := by
  cases makes with
  | taken _ => exact ⟨rfl, rfl⟩
  | skipped untaken => simp [untaken] at limit
  | emptyPage _ | skipAfterTake _ | unlimited _ | afterLimit _ | distinct | selected =>
      exact ⟨limit, rfl⟩

theorem Makes.selects (makes : outline.Makes call (outcome, after)) :
    after.root = outline.root ∧ after.selected = outline.selected.or call.projection? := by
  cases makes <;> simp [Step.projection?]

theorem Makes.refused {cause : UsageError} (makes : outline.Makes call (.error cause, after)) :
    after = outline := by
  cases makes <;> rfl

end Makes

section Limits

variable {outline after : Outline} {count : Nat}

theorem take_eq_ok :
    outline.take count = (.ok (), after) ↔
      (count = 0 → outline.skipped = none) ∧ after = { outline with taken := some count } := by
  have makes := outline.take_makes count
  generalize outline.take count = made at makes ⊢
  cases makes with
  | taken page =>
      have room : count = 0 → outline.skipped = none := by
        rintro rfl
        exact Option.not_isSome_iff_eq_none.mp fun offset => absurd (page offset) (by decide)
      simpa [eq_comm] using fun _ => room
  | emptyPage offset => simp [offset]

theorem skip_eq_ok :
    outline.skip count = (.ok (), after) ↔
      outline.taken = none ∧ after = { outline with skipped := some count } := by
  have makes := outline.skip_makes count
  generalize outline.skip count = made at makes ⊢
  cases makes with
  | skipped untaken => simp [untaken, eq_comm]
  | skipAfterTake limit => simp [limit]

/-- Neither call looks at the projection, whether it is refused or not. -/
theorem take_projection (outline : Outline) (count : Nat) :
    (outline.take count).2.projection = outline.projection := by
  have makes := outline.take_makes count
  generalize outline.take count = made at makes ⊢
  cases makes <;> rfl

theorem skip_projection (outline : Outline) (count : Nat) :
    (outline.skip count).2.projection = outline.projection := by
  have makes := outline.skip_makes count
  generalize outline.skip count = made at makes ⊢
  cases makes <;> rfl

end Limits

theorem run_pages {outline : Outline} (pages : outline.Pages) (calls : List Step) :
    (outline.run calls).Pages := by
  induction calls generalizing outline with
  | nil => exact pages
  | cons call rest ih =>
      have makes := outline.step_makes call
      exact ih (makes.pages pages)

theorem run_settled {outline : Outline} (limit : outline.taken.isSome) (calls : List Step) :
    (outline.run calls).skipped = outline.skipped := by
  induction calls generalizing outline with
  | nil => rfl
  | cons call rest ih =>
      have makes := outline.step_makes call
      obtain ⟨limitToo, same⟩ := makes.settled limit
      exact (ih limitToo).trans same

theorem run_selects (outline : Outline) (calls : List Step) :
    (outline.run calls).root = outline.root ∧
      (outline.run calls).selected = outline.selected.or (calls.findSome? Step.projection?) := by
  induction calls generalizing outline with
  | nil => simp [run]
  | cons call rest ih =>
      rcases made : outline.step call with ⟨outcome, after⟩
      have makes := outline.step_makes call
      rw [made] at makes
      obtain ⟨root, selected⟩ := makes.selects
      obtain ⟨rootToo, selectedToo⟩ := ih after
      have step : outline.run (call :: rest) = after.run rest := by
        rw [run, List.foldl_cons, made]
        rfl
      rw [step, rootToo, root, selectedToo, selected, List.findSome?_cons, Option.or_assoc]
      cases call.projection? <;> simp

end Outline

theorem Sql.Writer.statement_limits (writer : Writer) {outline : Outline} (pages : outline.Pages)
    (source : Source) (columns : List Reference) :
    ∃ top order page,
      LimitTexts (orderText writer.order) outline.taken outline.skipped top order page ∧
      (writer.statement outline source columns).text =
        writer.textAround outline.distinct source columns top order page := by
  obtain ⟨root, selected, distinct, taken, skipped⟩ := outline
  have ordered : ∀ keys : String, (if keys.isEmpty then " ORDER BY (SELECT NULL)"
      else " ORDER BY " ++ keys) = " ORDER BY " ++ pageOrder keys := by
    intro keys
    unfold pageOrder
    split <;> rfl
  cases skipped with
  | none =>
      cases taken with
      | none => exact ⟨_, _, _, .all, rfl⟩
      | some count => exact ⟨_, _, _, .top count, rfl⟩
  | some offset =>
      cases taken with
      | none =>
          refine ⟨_, _, _, .rest offset, ?_⟩
          rw [← ordered]
          rfl
      | some count =>
          have positive : count ≠ 0 := by
            rintro rfl
            exact pages rfl rfl
          refine ⟨_, _, _, .page offset (by omega), ?_⟩
          rw [← ordered]
          rfl

namespace Outline

/-- Whatever is called on an outline, refused calls change nothing, an offset leaves room for a
row and is settled by a limit, and the first projection counts.  A statement with that outline
has no TOP with an offset, an order by clause with every offset, and no page without rows. -/
theorem run_legal (root : Entity) (calls : List Step) :
    ((ofRoot root).run calls).Legal root calls := by
  obtain ⟨root_eq, selected⟩ := (ofRoot root).run_selects calls
  have initial : (ofRoot root).Pages := by
    intro offset
    simp [ofRoot] at offset
  have pages := run_pages initial calls
  refine {
    root_eq
    pages
    settled := run_settled
    refused := ?_
    projection_eq := ?_
    written := fun writer source columns => writer.statement_limits pages source columns }
  · intro call cause fails
    have makes := ((ofRoot root).run calls).step_makes call
    rcases made : ((ofRoot root).run calls).step call with ⟨outcome, after⟩
    rw [made] at makes fails
    cases fails
    exact makes.refused
  · rw [projection, root_eq, selected]
    rfl

/-- Neither the empty page nor the second offset is recorded. -/
example (root : Entity) : (ofRoot root).run [.skip 3, .take 0, .take 2, .skip 1] =
    { root, taken := some 2, skipped := some 3 } := rfl

end Outline

end QueryChain
