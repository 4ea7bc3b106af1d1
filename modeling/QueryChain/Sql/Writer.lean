import QueryChain.Sql.Parameters
import QueryChain.Sql.Statement

namespace QueryChain.Sql

open Json

/-! A statement that is being written.

Joins, predicate, order and parameters grow independently; `Writer.statement`
puts them together with an outline and a list of columns.  A call that may fail
returns the writer after it beside its outcome.
-/

structure Writer where
  parameters : Parameters
  joins : List Join := []
  predicate : List (Token Reference) := []
  order : List SortKey := []

namespace Writer

def ofSettings (settings : Settings) : Writer := { parameters := .ofSettings settings }

def write (writer : Writer) (tokens : List (Token Reference)) : Writer :=
  { writer with predicate := writer.predicate ++ tokens }

def predicateText (writer : Writer) : String := tokensText Reference.text writer.predicate

/-- Starts a further predicate, which has to hold as well. -/
def beginPredicate (writer : Writer) : Writer :=
  if writer.predicateText.isEmpty then writer else writer.write (Phrase.spaced .and)

def condition (writer : Writer) (condition : Condition Reference) : Writer :=
  writer.beginPredicate.write condition.tokens

/-- Writes a value: null as a keyword, any other value as a placeholder of a
parameter bound to it. -/
def parameter (writer : Writer) (value : Value) : Except UsageError Unit × Writer :=
  if value.isNull then (.ok (), writer.write [.keyword .null])
  else
    match writer.parameters.bind value with
    | .error cause => (.error cause, writer)
    | .ok (name, parameters) => (.ok (), { writer with parameters }.write [.placeholder name])

/-- Writes values up to the closing parenthesis.  What is written before a value that is
refused stays. -/
def listValues (writer : Writer) : List Value → Except UsageError Unit × Writer
  | [] => (.ok (), writer.write [.closing])
  | value :: rest =>
    match writer.parameter value with
    | (.error cause, writer) => (.error cause, writer)
    | (.ok _, writer) =>
      (if rest.isEmpty then writer else writer.write Phrase.separator).listValues rest

/-- Writes a list of values, one parameter each. -/
def inList (writer : Writer) (negated : Bool) (values : List Value) :
    Except UsageError Unit × Writer :=
  (writer.write (Phrase.isIn negated ++ [.opening])).listValues values

/-- Adds a sort key in front of those already written. -/
def orderBy (writer : Writer) (key : SortKey) : Writer :=
  { writer with order := key :: writer.order }

def join (writer : Writer) (join : Join) : Writer :=
  { writer with joins := writer.joins ++ [join] }

/-- The calls that fill a writer. -/
inductive Step where
  | text (text : String)
  | beginPredicate
  | opening
  | closing
  | reference (column : Reference)
  | parameter (value : Value)
  | nullTest (negated : Bool)
  | like (negated : Bool)
  | leadingWildcard
  | trailingWildcard
  | inList (negated : Bool) (values : List Value)
  | flag (negated : Bool)
  | equality (negated : Bool)
  | emptyText
  | truth (value : Bool)
  | orderBy (key : SortKey)
  | join (join : Join)

/-- Makes a call. -/
def step (writer : Writer) : Step → Except UsageError Unit × Writer
  | .text text => (.ok (), writer.write [.verbatim text])
  | .beginPredicate => (.ok (), writer.beginPredicate)
  | .opening => (.ok (), writer.write [.opening])
  | .closing => (.ok (), writer.write [.closing])
  | .reference column => (.ok (), writer.write [.reference column])
  | .parameter value => writer.parameter value
  | .nullTest negated => (.ok (), writer.write (Phrase.nullTest negated))
  | .like negated => (.ok (), writer.write (Phrase.like negated))
  | .leadingWildcard => (.ok (), writer.write Phrase.leadingWildcard)
  | .trailingWildcard => (.ok (), writer.write Phrase.trailingWildcard)
  | .inList negated values => writer.inList negated values
  | .flag negated => (.ok (), writer.write (Phrase.flag negated))
  | .equality negated => (.ok (), writer.write [Phrase.equality negated])
  | .emptyText => (.ok (), writer.write [Phrase.emptyText])
  | .truth value => (.ok (), writer.write (Phrase.truth value))
  | .orderBy key => (.ok (), writer.orderBy key)
  | .join join => (.ok (), writer.join join)

/-- The statement written so far. -/
def statement (writer : Writer) (outline : Outline) (source : Source) (columns : List Reference) :
    Statement :=
  { window := outline.window
    distinct := outline.distinct
    columns
    source
    joins := writer.joins
    predicate := writer.predicate
    order := writer.order }

end Writer

end QueryChain.Sql
