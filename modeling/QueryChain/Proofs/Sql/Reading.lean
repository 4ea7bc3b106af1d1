import QueryChain.Proofs.Plan.Statement
import QueryChain.Proofs.Sql.Truth

namespace QueryChain.Sql

/-! Reading predicates.

The grammar is that of conditions in a statement: parentheses bind tighter than `NOT`,
that tighter than `AND`, and that tighter than `OR`.  A phrase is read from the
front of some tokens and leaves the rest of them.
-/

variable {ρ : Type}

inductive ScalarPhrase (ρ : Type) where
  | operand
  | sum
  /-- What may follow the summands read so far. -/
  | moreSummands (left : Scalar ρ)

inductive ReadsScalar :
    ScalarPhrase ρ → List (Token ρ) → Scalar ρ → List (Token ρ) → Prop where
  | column (column : ρ) (rest : List (Token ρ)) :
      ReadsScalar .operand (.reference column :: rest) (.column column) rest
  | placeholder (name : String) (rest : List (Token ρ)) :
      ReadsScalar .operand (.placeholder name :: rest) (.placeholder name) rest
  | null (rest : List (Token ρ)) : ReadsScalar .operand (.keyword .null :: rest) .null rest
  | number (value : Nat) (rest : List (Token ρ)) :
      ReadsScalar .operand (.number value :: rest) (.number value) rest
  | string (text : String) (rest : List (Token ρ)) :
      ReadsScalar .operand (.string text :: rest) (.string text) rest
  | orElse {input middle rest : List (Token ρ)} {value other : Scalar ρ} :
      ReadsScalar .sum input value (.comma :: middle) →
      ReadsScalar .sum middle other (.closing :: rest) →
      ReadsScalar .operand (.keyword .isNull :: .opening :: input) (.orElse value other) rest
  | parentheses {input rest : List (Token ρ)} {value : Scalar ρ} :
      ReadsScalar .sum input value (.closing :: rest) →
      ReadsScalar .operand (.opening :: input) value rest
  | sum {input middle rest : List (Token ρ)} {left result : Scalar ρ} :
      ReadsScalar .operand input left middle →
      ReadsScalar (.moreSummands left) middle result rest → ReadsScalar .sum input result rest
  | noSummand (left : Scalar ρ) (rest : List (Token ρ)) :
      ReadsScalar (.moreSummands left) rest left rest
  | summand {left right result : Scalar ρ} {input middle rest : List (Token ρ)} :
      ReadsScalar .operand input right middle →
      ReadsScalar (.moreSummands (.concat left right)) middle result rest →
      ReadsScalar (.moreSummands left) (.plus :: input) result rest

/-- The values of a list up to its closing parenthesis. -/
inductive ReadsList : List (Token ρ) → List (Scalar ρ) → List (Token ρ) → Prop where
  | last {input rest : List (Token ρ)} {value : Scalar ρ} :
      ReadsScalar .sum input value (.closing :: rest) → ReadsList input [value] rest
  | next {input middle rest : List (Token ρ)} {value : Scalar ρ} {values : List (Scalar ρ)} :
      ReadsScalar .sum input value (.comma :: middle) → ReadsList middle values rest →
      ReadsList input (value :: values) rest

/-- What a condition says of its first operand. -/
inductive ReadsTest (operand : Scalar ρ) :
    List (Token ρ) → Formula ρ → List (Token ρ) → Prop where
  | compare {op : Comparison} {input rest : List (Token ρ)} {right : Scalar ρ} :
      ReadsScalar .sum input right rest →
      ReadsTest operand (.comparison op :: input) (.compare op operand right) rest
  | isNull (rest : List (Token ρ)) :
      ReadsTest operand (.keyword .is :: .keyword .null :: rest) (.isNull operand) rest
  | isNotNull (rest : List (Token ρ)) :
      ReadsTest operand (.keyword .is :: .keyword .not :: .keyword .null :: rest)
        (.not (.isNull operand)) rest
  | like {input rest : List (Token ρ)} {pattern : Scalar ρ} :
      ReadsScalar .sum input pattern rest →
      ReadsTest operand (.keyword .like :: input) (.like operand pattern) rest
  | notLike {input rest : List (Token ρ)} {pattern : Scalar ρ} :
      ReadsScalar .sum input pattern rest →
      ReadsTest operand (.keyword .not :: .keyword .like :: input)
        (.not (.like operand pattern)) rest
  | isIn {input rest : List (Token ρ)} {values : List (Scalar ρ)} :
      ReadsList input values rest →
      ReadsTest operand (.keyword .isIn :: .opening :: input) (.isIn operand values) rest
  | notIn {input rest : List (Token ρ)} {values : List (Scalar ρ)} :
      ReadsList input values rest →
      ReadsTest operand (.keyword .not :: .keyword .isIn :: .opening :: input)
        (.not (.isIn operand values)) rest

inductive FormulaPhrase (ρ : Type) where
  | disjunction
  | moreDisjuncts (left : Formula ρ)
  | conjunction
  | moreConjuncts (left : Formula ρ)
  | negation

inductive Reads : FormulaPhrase ρ → List (Token ρ) → Formula ρ →
    List (Token ρ) → Prop where
  | disjunction {input middle rest : List (Token ρ)} {left result : Formula ρ} :
      Reads .conjunction input left middle → Reads (.moreDisjuncts left) middle result rest →
      Reads .disjunction input result rest
  | noDisjunct (left : Formula ρ) (rest : List (Token ρ)) :
      Reads (.moreDisjuncts left) rest left rest
  | disjunct {left right result : Formula ρ} {input middle rest : List (Token ρ)} :
      Reads .conjunction input right middle →
      Reads (.moreDisjuncts (.or left right)) middle result rest →
      Reads (.moreDisjuncts left) (.keyword .or :: input) result rest
  | conjunction {input middle rest : List (Token ρ)} {left result : Formula ρ} :
      Reads .negation input left middle → Reads (.moreConjuncts left) middle result rest →
      Reads .conjunction input result rest
  | noConjunct (left : Formula ρ) (rest : List (Token ρ)) :
      Reads (.moreConjuncts left) rest left rest
  | conjunct {left right result : Formula ρ} {input middle rest : List (Token ρ)} :
      Reads .negation input right middle →
      Reads (.moreConjuncts (.and left right)) middle result rest →
      Reads (.moreConjuncts left) (.keyword .and :: input) result rest
  | not {input rest : List (Token ρ)} {operand : Formula ρ} :
      Reads .negation input operand rest →
      Reads .negation (.keyword .not :: input) (.not operand) rest
  | parentheses {input rest : List (Token ρ)} {inner : Formula ρ} :
      Reads .disjunction input inner (.closing :: rest) →
      Reads .negation (.opening :: input) inner rest
  | test {input middle rest : List (Token ρ)} {operand : Scalar ρ} {formula : Formula ρ} :
      ReadsScalar .sum input operand middle → ReadsTest operand middle formula rest →
      Reads .negation input formula rest

def EndsSum : List (Token ρ) → Prop
  | .plus :: _ => False
  | _ => True

def EndsDisjunction : List (Token ρ) → Prop
  | [] => True
  | .closing :: _ => True
  | _ => False

def EndsConjunction : List (Token ρ) → Prop
  | .keyword .or :: _ => True
  | rest => EndsDisjunction rest

def EndsNegation : List (Token ρ) → Prop
  | .keyword .and :: _ => True
  | rest => EndsConjunction rest

def ScalarPhrase.Ends : ScalarPhrase ρ → List (Token ρ) → Prop
  | .operand => fun _ => True
  | .sum => EndsSum
  | .moreSummands _ => EndsSum

def FormulaPhrase.Ends : FormulaPhrase ρ → List (Token ρ) → Prop
  | .disjunction => EndsDisjunction
  | .moreDisjuncts _ => EndsDisjunction
  | .conjunction => EndsConjunction
  | .moreConjuncts _ => EndsConjunction
  | .negation => EndsNegation

theorem EndsDisjunction.conjunction {rest : List (Token ρ)} (ends : EndsDisjunction rest) :
    EndsConjunction rest := by
  unfold EndsConjunction
  split
  · trivial
  · exact ends

theorem EndsConjunction.negation {rest : List (Token ρ)} (ends : EndsConjunction rest) :
    EndsNegation rest := by
  unfold EndsNegation
  split
  · trivial
  · exact ends

theorem EndsNegation.sum {rest : List (Token ρ)} (ends : EndsNegation rest) : EndsSum rest := by
  unfold EndsSum
  split
  · exact ends
  · trivial

theorem ReadsScalar.unique {phrase : ScalarPhrase ρ} {input rest other : List (Token ρ)}
    {value found : Scalar ρ} (reads : ReadsScalar phrase input value rest)
    (readsToo : ReadsScalar phrase input found other) (ends : phrase.Ends rest)
    (endsToo : phrase.Ends other) : found = value ∧ other = rest := by
  induction reads generalizing found other with
  | column column rest =>
      cases readsToo
      exact ⟨rfl, rfl⟩
  | placeholder name rest =>
      cases readsToo
      exact ⟨rfl, rfl⟩
  | null rest =>
      cases readsToo
      exact ⟨rfl, rfl⟩
  | number value rest =>
      cases readsToo
      exact ⟨rfl, rfl⟩
  | string text rest =>
      cases readsToo
      exact ⟨rfl, rfl⟩
  | orElse first second ihFirst ihSecond =>
      cases readsToo with
      | orElse firstToo secondToo =>
          obtain ⟨rfl, same⟩ := ihFirst firstToo trivial trivial
          cases same
          obtain ⟨rfl, same⟩ := ihSecond secondToo trivial trivial
          cases same
          exact ⟨rfl, rfl⟩
  | parentheses inner ih =>
      cases readsToo with
      | parentheses innerToo =>
          obtain ⟨rfl, same⟩ := ih innerToo trivial trivial
          cases same
          exact ⟨rfl, rfl⟩
  | sum first following ihFirst ihFollowing =>
      cases readsToo with
      | sum firstToo followingToo =>
          obtain ⟨rfl, rfl⟩ := ihFirst firstToo trivial trivial
          exact ihFollowing followingToo ends endsToo
  | noSummand left rest =>
      cases readsToo with
      | noSummand => exact ⟨rfl, rfl⟩
      | summand _ _ => exact ends.elim
  | summand first following ihFirst ihFollowing =>
      cases readsToo with
      | noSummand => exact endsToo.elim
      | summand firstToo followingToo =>
          obtain ⟨rfl, rfl⟩ := ihFirst firstToo trivial trivial
          exact ihFollowing followingToo ends endsToo

theorem ReadsList.unique {input rest other : List (Token ρ)} {values found : List (Scalar ρ)}
    (reads : ReadsList input values rest) (readsToo : ReadsList input found other) :
    found = values ∧ other = rest := by
  induction reads generalizing found other with
  | last value =>
      cases readsToo with
      | last valueToo =>
          obtain ⟨rfl, same⟩ := value.unique valueToo trivial trivial
          cases same
          exact ⟨rfl, rfl⟩
      | next valueToo _ =>
          obtain ⟨_, same⟩ := value.unique valueToo trivial trivial
          cases same
  | next value following ih =>
      cases readsToo with
      | last valueToo =>
          obtain ⟨_, same⟩ := value.unique valueToo trivial trivial
          cases same
      | next valueToo followingToo =>
          obtain ⟨rfl, same⟩ := value.unique valueToo trivial trivial
          cases same
          obtain ⟨rfl, rfl⟩ := ih followingToo
          exact ⟨rfl, rfl⟩

theorem ReadsTest.unique {operand : Scalar ρ} {input rest other : List (Token ρ)}
    {formula found : Formula ρ} (reads : ReadsTest operand input formula rest)
    (readsToo : ReadsTest operand input found other) (ends : EndsSum rest)
    (endsToo : EndsSum other) :
    found = formula ∧ other = rest := by
  cases reads with
  | compare right =>
      cases readsToo with
      | compare rightToo =>
          obtain ⟨rfl, rfl⟩ := right.unique rightToo ends endsToo
          exact ⟨rfl, rfl⟩
  | isNull rest =>
      cases readsToo
      exact ⟨rfl, rfl⟩
  | isNotNull rest =>
      cases readsToo
      exact ⟨rfl, rfl⟩
  | like pattern =>
      cases readsToo with
      | like patternToo =>
          obtain ⟨rfl, rfl⟩ := pattern.unique patternToo ends endsToo
          exact ⟨rfl, rfl⟩
  | notLike pattern =>
      cases readsToo with
      | notLike patternToo =>
          obtain ⟨rfl, rfl⟩ := pattern.unique patternToo ends endsToo
          exact ⟨rfl, rfl⟩
  | isIn values =>
      cases readsToo with
      | isIn valuesToo =>
          obtain ⟨rfl, rfl⟩ := values.unique valuesToo
          exact ⟨rfl, rfl⟩
  | notIn values =>
      cases readsToo with
      | notIn valuesToo =>
          obtain ⟨rfl, rfl⟩ := values.unique valuesToo
          exact ⟨rfl, rfl⟩

/-- A test starts with a token that ends an operand. -/
theorem ReadsTest.ends {operand : Scalar ρ} {input rest : List (Token ρ)} {formula : Formula ρ}
    (reads : ReadsTest operand input formula rest) : EndsSum input := by
  cases reads <;> trivial

theorem Reads.moreDisjuncts_ends {left result : Formula ρ} {input rest : List (Token ρ)}
    (reads : Reads (.moreDisjuncts left) input result rest) (ends : EndsDisjunction rest) :
    EndsConjunction input := by
  cases reads with
  | noDisjunct => exact ends.conjunction
  | disjunct _ _ => trivial

theorem Reads.moreConjuncts_ends {left result : Formula ρ} {input rest : List (Token ρ)}
    (reads : Reads (.moreConjuncts left) input result rest) (ends : EndsConjunction rest) :
    EndsNegation input := by
  cases reads with
  | noConjunct => exact ends.negation
  | conjunct _ _ => trivial

/-- No operand starts with the keyword of a negation. -/
theorem ReadsScalar.not_negated {input rest : List (Token ρ)} {value : Scalar ρ} :
    ¬ ReadsScalar .sum (.keyword .not :: input) value rest := by
  intro reads
  cases reads with
  | sum first _ => cases first

def FormulaPhrase.Whole : FormulaPhrase ρ → Prop
  | .moreDisjuncts _ => False
  | .moreConjuncts _ => False
  | _ => True

/-- What stands in parentheses is not both a formula and an operand. -/
theorem Reads.not_scalar {phrase : FormulaPhrase ρ} {input rest other : List (Token ρ)}
    {formula : Formula ρ} {value : Scalar ρ} (reads : Reads phrase input formula rest)
    (whole : phrase.Whole) : ¬ ReadsScalar .sum input value (.closing :: other) := by
  induction reads generalizing value other with
  | disjunction _ _ ihFirst _ => exact ihFirst trivial
  | noDisjunct left rest => exact whole.elim
  | disjunct _ _ _ _ => exact whole.elim
  | conjunction _ _ ihFirst _ => exact ihFirst trivial
  | noConjunct left rest => exact whole.elim
  | conjunct _ _ _ _ => exact whole.elim
  | not _ _ => exact ReadsScalar.not_negated
  | parentheses _ ih =>
      intro scalar
      cases scalar with
      | sum first _ =>
          cases first with
          | parentheses inner => exact ih trivial inner
  | test scalar test =>
      intro scalarToo
      obtain ⟨_, rfl⟩ := scalarToo.unique scalar trivial test.ends
      cases test

theorem Reads.unique {phrase : FormulaPhrase ρ} {input rest other : List (Token ρ)}
    {formula found : Formula ρ} (reads : Reads phrase input formula rest)
    (readsToo : Reads phrase input found other) (ends : phrase.Ends rest)
    (endsToo : phrase.Ends other) : found = formula ∧ other = rest := by
  induction reads generalizing found other with
  | disjunction first following ihFirst ihFollowing =>
      cases readsToo with
      | disjunction firstToo followingToo =>
          obtain ⟨rfl, rfl⟩ := ihFirst firstToo (following.moreDisjuncts_ends ends)
            (followingToo.moreDisjuncts_ends endsToo)
          exact ihFollowing followingToo ends endsToo
  | noDisjunct left rest =>
      cases readsToo with
      | noDisjunct => exact ⟨rfl, rfl⟩
      | disjunct _ _ => exact ends.elim
  | disjunct first following ihFirst ihFollowing =>
      cases readsToo with
      | noDisjunct => exact endsToo.elim
      | disjunct firstToo followingToo =>
          obtain ⟨rfl, rfl⟩ := ihFirst firstToo (following.moreDisjuncts_ends ends)
            (followingToo.moreDisjuncts_ends endsToo)
          exact ihFollowing followingToo ends endsToo
  | conjunction first following ihFirst ihFollowing =>
      cases readsToo with
      | conjunction firstToo followingToo =>
          obtain ⟨rfl, rfl⟩ := ihFirst firstToo (following.moreConjuncts_ends ends)
            (followingToo.moreConjuncts_ends endsToo)
          exact ihFollowing followingToo ends endsToo
  | noConjunct left rest =>
      cases readsToo with
      | noConjunct => exact ⟨rfl, rfl⟩
      | conjunct _ _ => exact ends.elim
  | conjunct first following ihFirst ihFollowing =>
      cases readsToo with
      | noConjunct => exact endsToo.elim
      | conjunct firstToo followingToo =>
          obtain ⟨rfl, rfl⟩ := ihFirst firstToo (following.moreConjuncts_ends ends)
            (followingToo.moreConjuncts_ends endsToo)
          exact ihFollowing followingToo ends endsToo
  | not operand ih =>
      cases readsToo with
      | not operandToo =>
          obtain ⟨rfl, rfl⟩ := ih operandToo ends endsToo
          exact ⟨rfl, rfl⟩
      | test scalarToo _ => exact (ReadsScalar.not_negated scalarToo).elim
  | parentheses inner ih =>
      cases readsToo with
      | parentheses innerToo =>
          obtain ⟨rfl, same⟩ := ih innerToo trivial trivial
          cases same
          exact ⟨rfl, rfl⟩
      | test scalarToo _ =>
          cases scalarToo with
          | sum first _ =>
              cases first with
              | parentheses scalar => exact (inner.not_scalar trivial scalar).elim
  | test scalar test =>
      cases readsToo with
      | not operandToo => exact (ReadsScalar.not_negated scalar).elim
      | parentheses inner =>
          cases scalar with
          | sum first _ =>
              cases first with
              | parentheses scalar => exact (inner.not_scalar trivial scalar).elim
      | test scalarToo testToo =>
          obtain ⟨rfl, rfl⟩ := scalar.unique scalarToo test.ends testToo.ends
          exact test.unique testToo ends.sum endsToo.sum

def Token.isSpace : Token ρ → Bool
  | .space => true
  | _ => false

/-- How a token is spelled. -/
def spelling : Token Reference → String
  | .space => " "
  | .opening => "("
  | .closing => ")"
  | .comma => ","
  | .plus => "+"
  | .keyword .and => "AND"
  | .keyword .or => "OR"
  | .keyword .not => "NOT"
  | .keyword .is => "IS"
  | .keyword .null => "NULL"
  | .keyword .like => "LIKE"
  | .keyword .isIn => "IN"
  | .keyword .isNull => "ISNULL"
  | .comparison .eq => "="
  | .comparison .ne => "<>"
  | .comparison .lt => "<"
  | .comparison .le => "<="
  | .comparison .gt => ">"
  | .comparison .ge => ">="
  | .number value => toString value
  | .string text => "'" ++ text ++ "'"
  | .reference column => column.text
  | .placeholder name => "@" ++ name
  | .verbatim text => text

theorem text_eq_spelling (token : Token Reference) :
    token.text Reference.text = spelling token := by
  cases token with
  | keyword word => cases word <;> rfl
  | comparison op => cases op <;> rfl
  | space | opening | closing | comma | plus | number _ | string _ | reference _ | placeholder _
  | verbatim _ => rfl

/-- The tokens between the spaces. -/
def shown (tokens : List (Token ρ)) : List (Token ρ) := tokens.filter fun token => !token.isSpace

theorem shown_append (first rest : List (Token ρ)) :
    shown (first ++ rest) = shown first ++ shown rest :=
  List.filter_append ..

def Operand.scalar : Operand ρ → Scalar ρ
  | .column found => .column found
  | .placeholder name => .placeholder name
  | .null => .null

/-- A pattern with its wildcards. -/
def Operand.pattern (op : StringOp) (operand : Operand ρ) : Scalar ρ :=
  match op with
  | .contains => .concat (.concat (.string "%") operand.scalar) (.string "%")
  | .startsWith => .concat operand.scalar (.string "%")
  | .endsWith => .concat (.string "%") operand.scalar

namespace Condition

def formula : Condition ρ → Formula ρ
  | .truth value => .compare .eq (.number 1) (.number (if value then 1 else 0))
  | .compare negated op left right => (Formula.compare op left.scalar right.scalar).negateIf negated
  | .connect negated .and left right => (Formula.and left.formula right.formula).negateIf negated
  | .connect negated .or left right => (Formula.or left.formula right.formula).negateIf negated
  | .flag negated column => .compare (if negated then .eq else .ne) (.column column) (.number 0)
  | .hasValue negated column => (Formula.isNull (.column column)).negateIf (!negated)
  | .like negated column op pattern =>
    (Formula.like (.column column) (pattern.pattern op)).negateIf negated
  | .oneOf negated column values =>
    (Formula.isIn (.column column) (values.map Operand.scalar)).negateIf negated
  | .nullOrEmpty negated column =>
    .compare (if negated then .ne else .eq) (.orElse (.column column) (.string "")) (.string "")

/-- No list of values is empty. -/
def Listed : Condition ρ → Prop
  | .connect _ _ left right => left.Listed ∧ right.Listed
  | .oneOf _ _ values => values ≠ []
  | _ => True

end Condition

theorem ReadsScalar.single {input rest : List (Token ρ)} {value : Scalar ρ}
    (reads : ReadsScalar .operand input value rest) : ReadsScalar .sum input value rest :=
  .sum reads (.noSummand _ _)

theorem Reads.alone {input rest : List (Token ρ)} {formula : Formula ρ}
    (reads : Reads .negation input formula rest) : Reads .disjunction input formula rest :=
  .disjunction (.conjunction reads (.noConjunct _ _)) (.noDisjunct _ _)

theorem Reads.enclosed (negated : Bool) {input rest : List (Token ρ)} {formula : Formula ρ}
    (reads : Reads .disjunction input formula (.closing :: rest)) :
    Reads .negation (shown (Condition.negation negated) ++ .opening :: input)
      (formula.negateIf negated) rest := by
  cases negated with
  | false => exact .parentheses reads
  | true => exact .not (.parentheses reads)

theorem Operand.reads (operand : Operand ρ) (rest : List (Token ρ)) :
    ReadsScalar .operand (operand.token :: rest) operand.scalar rest := by
  cases operand with
  | column column => exact .column _ _
  | placeholder name => exact .placeholder _ _
  | null => exact .null _

theorem Operand.shown_token (operand : Operand ρ) (rest : List (Token ρ)) :
    shown (operand.token :: rest) = operand.token :: shown rest := by
  cases operand <;> rfl

theorem Operand.reads_pattern (op : StringOp) (operand : Operand ρ) (rest : List (Token ρ)) :
    ReadsScalar .sum (shown ((if op.leadingWildcard then Phrase.leadingWildcard else []) ++
        [operand.token] ++ (if op.trailingWildcard then Phrase.trailingWildcard else [])) ++ rest)
      (operand.pattern op) rest := by
  have wildcard := fun rest : List (Token ρ) => ReadsScalar.string "%" rest
  simp only [shown_append, Operand.shown_token]
  cases op with
  | contains =>
      exact .sum (wildcard _)
        (.summand (operand.reads _) (.summand (wildcard _) (.noSummand _ _)))
  | startsWith => exact .sum (operand.reads _) (.summand (wildcard _) (.noSummand _ _))
  | endsWith => exact .sum (wildcard _) (.summand (operand.reads _) (.noSummand _ _))

theorem Condition.reads_list {values : List (Operand ρ)} (listed : values ≠ [])
    (rest : List (Token ρ)) :
    ReadsList (shown (listTokens values) ++ .closing :: rest) (values.map Operand.scalar) rest := by
  induction values with
  | nil => exact absurd rfl listed
  | cons value more ih =>
      cases more with
      | nil =>
          rw [listTokens, Operand.shown_token]
          exact .last (value.reads _).single
      | cons next more =>
          rw [listTokens, Operand.shown_token, shown_append]
          · exact .next (value.reads _).single (ih (List.cons_ne_nil _ _))
          · exact List.cons_ne_nil _ _

/-- A condition reads as its formula, whatever follows it. -/
theorem Condition.reads (condition : Condition ρ) (listed : condition.Listed)
    (rest : List (Token ρ)) :
    Reads .negation (shown condition.tokens ++ rest) condition.formula rest := by
  have column := fun (found : ρ) rest => (ReadsScalar.column found rest).single
  induction condition generalizing rest with
  | truth value =>
      exact .test (ReadsScalar.number 1 _).single (.compare (ReadsScalar.number _ _).single)
  | compare negated op left right =>
      have split : shown (Condition.compare negated op left right).tokens ++ rest =
          shown (negation negated) ++
            .opening :: left.token :: .comparison op :: right.token :: .closing :: rest := by
        simp only [tokens, shown_append, List.append_assoc]
        cases left <;> cases right <;> rfl
      rw [split]
      exact .enclosed negated
        (Reads.alone (.test (left.reads _).single (.compare (right.reads _).single)))
  | connect negated op left right ihLeft ihRight =>
      simp only [tokens, shown_append, List.append_assoc]
      cases op with
      | and =>
          exact .enclosed negated (.disjunction
            (.conjunction (ihLeft listed.1 _) (.conjunct (ihRight listed.2 _) (.noConjunct _ _)))
            (.noDisjunct _ _))
      | or =>
          exact .enclosed negated (.disjunction (.conjunction (ihLeft listed.1 _) (.noConjunct _ _))
            (.disjunct (.conjunction (ihRight listed.2 _) (.noConjunct _ _)) (.noDisjunct _ _)))
  | flag negated found =>
      cases negated <;> exact .test (column found _) (.compare (ReadsScalar.number 0 _).single)
  | hasValue negated found =>
      cases negated with
      | false => exact .test (column found _) (.isNotNull _)
      | true => exact .test (column found _) (.isNull _)
  | like negated found op pattern =>
      have reads := pattern.reads_pattern op rest
      have split : shown (Condition.like negated found op pattern).tokens ++ rest =
          .reference found :: (shown (Phrase.like negated) ++
            (shown ((if op.leadingWildcard then Phrase.leadingWildcard else []) ++
              [pattern.token] ++
              (if op.trailingWildcard then Phrase.trailingWildcard else [])) ++ rest)) := by
        simp only [tokens, shown_append, List.append_assoc]
        rfl
      rw [split]
      cases negated with
      | false => exact .test (column found _) (.like reads)
      | true => exact .test (column found _) (.notLike reads)
  | oneOf negated found values =>
      have reads := reads_list listed rest
      have split : shown (Condition.oneOf negated found values).tokens ++ rest =
          .reference found :: (shown (Phrase.isIn negated) ++
            .opening :: (shown (listTokens values) ++ .closing :: rest)) := by
        simp only [tokens, shown_append, List.append_assoc]
        rfl
      rw [split]
      cases negated with
      | false => exact .test (column found _) (.isIn reads)
      | true => exact .test (column found _) (.notIn reads)
  | nullOrEmpty negated found =>
      have text := fun rest : List (Token ρ) => (ReadsScalar.string "" rest).single
      cases negated <;>
        exact .test (ReadsScalar.orElse (column found _) (text _)).single (.compare (text _))

/-- Formulas that all have to hold. -/
def Formula.conjoin (first : Formula ρ) (rest : List (Formula ρ)) : Formula ρ :=
  rest.foldl .and first

theorem reads_conjunction (first : Condition ρ) (rest : List (Condition ρ))
    (listed : ∀ condition ∈ first :: rest, condition.Listed) :
    Reads .disjunction (shown (conjunctionTokens (first :: rest)))
      (first.formula.conjoin (rest.map Condition.formula)) [] := by
  obtain ⟨firstListed, restListed⟩ := List.forall_mem_cons.mp listed
  have following : ∀ left : Formula ρ, Reads (.moreConjuncts left)
      (shown (rest.flatMap fun condition => Phrase.spaced .and ++ condition.tokens))
      (left.conjoin (rest.map Condition.formula)) [] := by
    clear listed
    induction rest with
    | nil => exact fun left => .noConjunct left []
    | cons next rest ih =>
        intro left
        obtain ⟨nextListed, restListed⟩ := List.forall_mem_cons.mp restListed
        rw [List.flatMap_cons, shown_append, shown_append, List.append_assoc]
        exact .conjunct (next.reads nextListed _) (ih restListed _)
  rw [conjunctionTokens, shown_append]
  exact .disjunction (.conjunction (first.reads firstListed _) (following _)) (.noDisjunct _ _)

/-- A predicate has one reading. -/
theorem reads_conjunction_iff (first : Condition ρ) (rest : List (Condition ρ))
    (listed : ∀ condition ∈ first :: rest, condition.Listed) (formula : Formula ρ) :
    Reads .disjunction (shown (conjunctionTokens (first :: rest))) formula [] ↔
      formula = first.formula.conjoin (rest.map Condition.formula) := by
  have reads := reads_conjunction first rest listed
  refine ⟨?_, ?_⟩
  · intro readsToo
    exact (reads.unique readsToo trivial trivial).1
  · intro same
    rw [same]
    exact reads

end QueryChain.Sql
