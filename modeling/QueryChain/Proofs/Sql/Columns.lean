import QueryChain.Proofs.Plan.Statement

namespace QueryChain.Sql

/-! Columns in conditions and in their tokens.

The tokens of a condition name its columns and hold no other text that varies.  What
stands for a column may change without a change to the other tokens.
-/

variable {ρ σ : Type}

def Operand.columns : Operand ρ → List ρ
  | .column found => [found]
  | .placeholder _ | .null => []

def Condition.columns : Condition ρ → List ρ
  | .truth _ => []
  | .compare _ _ left right => left.columns ++ right.columns
  | .connect _ _ left right => left.columns ++ right.columns
  | .flag _ column => [column]
  | .hasValue _ column => [column]
  | .like _ column _ pattern => column :: pattern.columns
  | .oneOf _ column values => column :: values.flatMap Operand.columns
  | .nullOrEmpty _ column => [column]

/-- A token that holds no text of a caller, and no column but one in scope. -/
def Token.ScopedBy (scope : ρ → Prop) : Token ρ → Prop
  | .reference column => scope column
  | .verbatim _ => False
  | _ => True

def ScopedBy (scope : ρ → Prop) (tokens : List (Token ρ)) : Prop :=
  ∀ token ∈ tokens, token.ScopedBy scope

def Token.map (f : ρ → σ) : Token ρ → Token σ
  | .space => .space
  | .opening => .opening
  | .closing => .closing
  | .comma => .comma
  | .plus => .plus
  | .keyword word => .keyword word
  | .comparison op => .comparison op
  | .number value => .number value
  | .string text => .string text
  | .reference column => .reference (f column)
  | .placeholder name => .placeholder name
  | .verbatim text => .verbatim text

section Scopes

variable {scope : ρ → Prop}

@[simp] theorem scopedBy_reference {column : ρ} :
    (Token.reference column).ScopedBy scope ↔ scope column := Iff.rfl

@[simp] theorem scopedBy_space : (Token.space : Token ρ).ScopedBy scope := trivial

@[simp] theorem scopedBy_opening : (Token.opening : Token ρ).ScopedBy scope := trivial

@[simp] theorem scopedBy_closing : (Token.closing : Token ρ).ScopedBy scope := trivial

@[simp] theorem scopedBy_comma : (Token.comma : Token ρ).ScopedBy scope := trivial

@[simp] theorem scopedBy_plus : (Token.plus : Token ρ).ScopedBy scope := trivial

@[simp] theorem scopedBy_keyword {word : Keyword} :
    (Token.keyword word : Token ρ).ScopedBy scope := trivial

@[simp] theorem scopedBy_comparison {op : Comparison} :
    (Token.comparison op : Token ρ).ScopedBy scope := trivial

@[simp] theorem scopedBy_number {value : Nat} :
    (Token.number value : Token ρ).ScopedBy scope := trivial

@[simp] theorem scopedBy_string {text : String} :
    (Token.string text : Token ρ).ScopedBy scope := trivial

@[simp] theorem scopedBy_nil : ScopedBy scope [] := by
  intro token member
  cases member

@[simp] theorem scopedBy_cons {token : Token ρ} {rest : List (Token ρ)} :
    ScopedBy scope (token :: rest) ↔ token.ScopedBy scope ∧ ScopedBy scope rest :=
  List.forall_mem_cons

@[simp] theorem scopedBy_append {first rest : List (Token ρ)} :
    ScopedBy scope (first ++ rest) ↔ ScopedBy scope first ∧ ScopedBy scope rest :=
  List.forall_mem_append

theorem Operand.token_scopedBy {operand : Operand ρ}
    (known : ∀ column ∈ operand.columns, scope column) : operand.token.ScopedBy scope := by
  cases operand with
  | column column => exact known column (List.mem_singleton.mpr rfl)
  | placeholder name => trivial
  | null => trivial

theorem Condition.listTokens_scopedBy {values : List (Operand ρ)}
    (known : ∀ column ∈ values.flatMap Operand.columns, scope column) :
    ScopedBy scope (listTokens values) := by
  induction values with
  | nil => exact scopedBy_nil
  | cons value rest ih =>
      rw [List.flatMap_cons] at known
      obtain ⟨first, following⟩ := List.forall_mem_append.mp known
      cases rest with
      | nil => exact scopedBy_cons.mpr ⟨Operand.token_scopedBy first, scopedBy_nil⟩
      | cons next rest =>
          have separator : ScopedBy scope Phrase.separator := by
            simp [Phrase.separator]
          exact scopedBy_cons.mpr ⟨Operand.token_scopedBy first,
            scopedBy_append.mpr ⟨separator, ih following⟩⟩

/-- The tokens of a condition name the columns of the condition only. -/
theorem Condition.tokens_scopedBy {condition : Condition ρ}
    (known : ∀ column ∈ condition.columns, scope column) : ScopedBy scope condition.tokens := by
  induction condition with
  | truth value => simp [tokens, Phrase.truth, Phrase.comparison]
  | compare negated op left right =>
      obtain ⟨leftKnown, rightKnown⟩ := List.forall_mem_append.mp known
      have leftScoped := Operand.token_scopedBy leftKnown
      have rightScoped := Operand.token_scopedBy rightKnown
      cases negated <;>
        simp [tokens, negation, Phrase.comparison, leftScoped, rightScoped]
  | connect negated op left right ihLeft ihRight =>
      obtain ⟨leftKnown, rightKnown⟩ := List.forall_mem_append.mp known
      cases negated <;>
        simp [tokens, negation, Phrase.spaced, ihLeft leftKnown, ihRight rightKnown]
  | flag negated column =>
      simp [tokens, Phrase.flag, Phrase.comparison, known column (by simp [columns])]
  | hasValue negated column =>
      cases negated <;>
        simp [tokens, Phrase.nullTest, known column (by simp [columns])]
  | like negated column op pattern =>
      obtain ⟨columnKnown, patternKnown⟩ := List.forall_mem_cons.mp known
      have patternScoped := Operand.token_scopedBy patternKnown
      cases negated <;> cases op <;>
        simp [tokens, Phrase.like, Phrase.leadingWildcard, Phrase.trailingWildcard, Phrase.wildcard,
          StringOp.leadingWildcard, StringOp.trailingWildcard, columnKnown,
          patternScoped]
  | oneOf negated column values =>
      obtain ⟨columnKnown, valuesKnown⟩ := List.forall_mem_cons.mp known
      cases negated <;>
        simp [tokens, Phrase.isIn, columnKnown, listTokens_scopedBy valuesKnown]
  | nullOrEmpty negated column =>
      simp [tokens, Phrase.separator, Phrase.emptyText, Phrase.equality,
        known column (by simp [columns])]

theorem conjunctionTokens_scopedBy {conditions : List (Condition ρ)}
    (known : ∀ condition ∈ conditions, ∀ column ∈ condition.columns, scope column) :
    ScopedBy scope (conjunctionTokens conditions) := by
  cases conditions with
  | nil => exact scopedBy_nil
  | cons first rest =>
      obtain ⟨firstKnown, restKnown⟩ := List.forall_mem_cons.mp known
      refine scopedBy_append.mpr ⟨Condition.tokens_scopedBy firstKnown, ?_⟩
      intro token member
      obtain ⟨condition, listed, written⟩ := List.mem_flatMap.mp member
      have conjunct : ScopedBy scope (Phrase.spaced .and ++ condition.tokens) := by
        simp [Phrase.spaced, Condition.tokens_scopedBy (restKnown condition listed)]
      exact conjunct token written

end Scopes

section Mapped

variable (f : ρ → σ)

theorem Operand.token_map (operand : Operand ρ) : (operand.map f).token = operand.token.map f := by
  cases operand <;> rfl

theorem Condition.listTokens_map (values : List (Operand ρ)) :
    listTokens (values.map (Operand.map f)) = (listTokens values).map (Token.map f) := by
  induction values with
  | nil => rfl
  | cons value rest ih =>
      cases rest with
      | nil => simp [listTokens, Operand.token_map]
      | cons next rest =>
          have separator : Phrase.separator.map (Token.map f) = Phrase.separator := rfl
          rw [List.map_cons] at ih
          simp [listTokens, Operand.token_map, ih, separator]

theorem Condition.tokens_map (condition : Condition ρ) :
    (condition.map f).tokens = condition.tokens.map (Token.map f) := by
  induction condition with
  | truth value => cases value <;> rfl
  | compare negated op left right =>
      cases negated <;>
        simp [map, tokens, negation, Phrase.comparison, Token.map, Operand.token_map]
  | connect negated op left right ihLeft ihRight =>
      cases negated <;> simp [map, tokens, negation, Phrase.spaced, Token.map, ihLeft, ihRight]
  | flag negated column => cases negated <;> rfl
  | hasValue negated column => cases negated <;> rfl
  | like negated column op pattern => cases negated <;> cases op <;> cases pattern <;> rfl
  | oneOf negated column values =>
      cases negated <;> simp [map, tokens, Phrase.isIn, Token.map, listTokens_map]
  | nullOrEmpty negated column => cases negated <;> rfl

theorem conjunctionTokens_map (conditions : List (Condition ρ)) :
    conjunctionTokens (conditions.map (Condition.map f)) =
      (conjunctionTokens conditions).map (Token.map f) := by
  have and : (Phrase.spaced .and).map (Token.map f) = Phrase.spaced .and := rfl
  cases conditions with
  | nil => rfl
  | cons first rest =>
      simp [conjunctionTokens, Condition.tokens_map, List.map_flatMap, List.flatMap_map, and]

theorem Token.map_scopedBy {scope : σ → Prop} {token : Token ρ} :
    (token.map f).ScopedBy scope ↔ token.ScopedBy fun column => scope (f column) := by
  cases token <;> rfl

theorem Token.map_text (spell : σ → String) (token : Token ρ) :
    (token.map f).text spell = token.text fun column => spell (f column) := by
  cases token <;> rfl

theorem tokensText_map (spell : σ → String) (tokens : List (Token ρ)) :
    tokensText spell (tokens.map (Token.map f)) =
      tokensText (fun column => spell (f column)) tokens := by
  simp [tokensText, Token.map_text, Function.comp_def]

end Mapped

end QueryChain.Sql
