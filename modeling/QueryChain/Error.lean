import QueryChain.Expr.Description
import QueryChain.Json.Reader

namespace QueryChain

open Json

/-! Everything that can go wrong, by cause.

A configuration error is a mapping that cannot be used, a usage error a
combination of operators that one statement cannot express, and a malformed query
one whose expressions cannot be used where they stand.  `QueryError.message` words
the causes.
-/

inductive ConfigurationError where
  | alreadyRegistered (entity : Entity)
  | notMapped (entity : Entity)
  | noTableName (entity : Entity)
  | noColumns (entity : Entity)
  | noKey (entity : Entity)
  | mappedTwice (entity : Entity) (property : String)
  | notMappedProperty (entity : Entity) (property : String)

inductive UsageError where
  | emptyPage (skipped : Nat)
  | skipAfterTake (skipped taken : Nat)
  | afterLimit (operator : String)
  | selfJoin (entity : Entity)
  | computedProjection
  | unsupportedProjection (body : Expr)
  | notBoolean (entity : Entity) (property : String)
  | tooManyParameters (limit : Nat)
  | invalidCount (value : Value)

inductive MalformedQuery where
  | rootMismatch (root expected : Entity)
  | outsideSource (entity : Entity)
  | outerKey (entity : Entity)
  | innerKey (entity expected : Entity)
  | keyNotColumn (body : Expr)
  | columnExpected (operation : String) (found : Expr)
  | notCondition (found : Expr)
  | notFlag (found : Value)
  | notValue (found : Expr)
  | rowDependent (found : Expr)
  | dependsOnParameter (name : String)
  | noMember (name : String)
  | memberOfNull (name : String)
  | memberOfScalar (name : String) (found : Value)
  | matchOnNonString
  | collectionExpected (found : Value)
  | booleanExpected (found : Value)
  | notComparable (left right : Value)

inductive QueryError where
  | configuration (cause : ConfigurationError)
  | usage (cause : UsageError)
  | malformed (cause : MalformedQuery)
  /-- The store rejected a statement. -/
  | invalidQuery (sql : String) (cause : QueryError)
  | database (message : String)
  | noElements
  | json (cause : ReadError)

def ConfigurationError.message : ConfigurationError → String
  | .alreadyRegistered entity => "Entity " ++ entity.name ++ " already registered"
  | .notMapped entity => "Entity " ++ entity.name ++ " is not mapped"
  | .noTableName entity => "Entity " ++ entity.name ++ " has no table name"
  | .noColumns entity => "Entity " ++ entity.name ++ " maps no columns"
  | .noKey entity => "Entity " ++ entity.name ++ " has no identifying key"
  | .mappedTwice entity property =>
    "Entity " ++ entity.name ++ " maps property " ++ property ++ " twice"
  | .notMappedProperty entity property => entity.name ++ " has no mapped property " ++ property

def UsageError.message : UsageError → String
  | .emptyPage skipped =>
    "Take(0) after Skip(" ++ toString skipped ++ ") cannot be expressed with OFFSET/FETCH"
  | .skipAfterTake skipped taken =>
    "Skip(" ++ toString skipped ++ ") after Take(" ++ toString taken
      ++ ") is not supported; apply Skip before Take"
  | .afterLimit operator =>
    operator ++ " after Take or Skip is not supported; apply it before limiting"
  | .selfJoin entity =>
    entity.name ++ " is joined to itself; self-joins share one alias and are not supported"
  | .computedProjection => "Projections may select an entity or one of its members"
  | .unsupportedProjection body => "Unsupported projection " ++ body.description
  | .notBoolean entity property =>
    entity.name ++ "." ++ property ++ " is not boolean and cannot be used as a condition"
  | .tooManyParameters limit => "Query needs more than " ++ toString limit ++ " parameters"
  | .invalidCount value =>
    "Row count must be a non-negative integer, found " ++ value.text

def MalformedQuery.message : MalformedQuery → String
  | .rootMismatch root expected =>
    "Query is rooted at " ++ root.name ++ " but the translator was created for " ++ expected.name
  | .outsideSource entity =>
    entity.name ++ " is referenced but is not part of the query source"
  | .outerKey entity =>
    "Outer join key belongs to " ++ entity.name ++ ", which is not part of the outer source"
  | .innerKey entity expected =>
    "Inner join key belongs to " ++ entity.name ++ ", expected " ++ expected.name
  | .keyNotColumn body =>
    "Key selector must reference a mapped column, found " ++ body.description
  | .columnExpected operation found =>
    operation ++ " must be applied to a mapped column, found " ++ found.description
  | .notCondition found => found.description ++ " is not a condition"
  | .notFlag found => "Expected a boolean condition, found " ++ found.text
  | .notValue found => found.description ++ " cannot be used as a value"
  | .rowDependent found =>
    "Row-dependent condition " ++ found.description ++ " cannot be used as a comparison operand"
  | .dependsOnParameter name =>
    "Expression depends on query parameter " ++ name ++ " and cannot be evaluated"
  | .noMember name => "Captured value has no member " ++ name
  | .memberOfNull name => "Member " ++ name ++ " accessed on a null value"
  | .memberOfScalar name found =>
    "Member " ++ name ++ " accessed on non-object value " ++ found.text
  | .matchOnNonString => "String match on non-string operands"
  | .collectionExpected found => "Expected a collection, found " ++ found.text
  | .booleanExpected found => "Expected a boolean, found " ++ found.text
  | .notComparable left right => "Cannot compare " ++ left.text ++ " with " ++ right.text

def QueryError.message : QueryError → String
  | .configuration cause => "Configuration error: " ++ cause.message
  | .usage cause => "Usage error: " ++ cause.message
  | .malformed cause => "Translation error: " ++ cause.message
  | .invalidQuery sql _ => "The client query is invalid: " ++ sql
  | .database message => "Database error: " ++ message
  | .noElements => "Sequence contains no elements"
  | .json cause => "JSON error: " ++ cause.message

end QueryChain
