import QueryChain.Compile
import QueryChain.Dictionary
import QueryChain.Entity
import QueryChain.Error
import QueryChain.Expr
import QueryChain.Expr.Description
import QueryChain.Expr.Eval
import QueryChain.Json.Binary64
import QueryChain.Json.Decimal
import QueryChain.Json.Literal
import QueryChain.Json.Parser
import QueryChain.Json.Printer
import QueryChain.Json.Reader
import QueryChain.Json.Value
import QueryChain.Outline
import QueryChain.Plan
import QueryChain.Plan.Draft
import QueryChain.Plan.Lowering
import QueryChain.Provider
import QueryChain.Query
import QueryChain.Query.Description
import QueryChain.Row
import QueryChain.Schema.Alias
import QueryChain.Schema.Mapping
import QueryChain.Schema.Registry
import QueryChain.Settings
import QueryChain.Sql.Condition
import QueryChain.Sql.Parameters
import QueryChain.Sql.Reference
import QueryChain.Sql.Statement
import QueryChain.Sql.Token
import QueryChain.Sql.Writer
import QueryChain.Store
import QueryChain.Text.Printable
import QueryChain.Text.Quoted
import QueryChain.Text.Structure
import QueryChain.Proofs.Plan.Columns
import QueryChain.Proofs.Predicate
import QueryChain.Proofs.Plan.Conditions
import QueryChain.Proofs.Plan.Steps
import QueryChain.Proofs.Plan.Walk
import QueryChain.Proofs.Query.Planned
import QueryChain.Proofs.Schema.Reachable
import QueryChain.Proofs.Query.Acceptance
import QueryChain.Proofs.Plan.Statement
import QueryChain.Proofs.Query.Clauses
import QueryChain.Proofs.Query.Placeholders
import QueryChain.Proofs.Sql.Reading
import QueryChain.Proofs.Query.Meaning
import QueryChain.Proofs.Schema.Allocation
import QueryChain.Proofs.Query.Scope
import QueryChain.Proofs.Query.History
import QueryChain.Proofs.Query.Window
import QueryChain.Proofs.Expr.Names
import QueryChain.Proofs.Plan.Alignment
import QueryChain.Proofs.Query.Revision
import QueryChain.Proofs.Expr.Known
import QueryChain.Proofs.Query.Folding
import QueryChain.Proofs.Bag
import QueryChain.Proofs.Query.Elements
import QueryChain.Proofs.Query.SingleTable
import QueryChain.Proofs.Query.Duplicates
import QueryChain.Proofs.Schema.Concurrent
import QueryChain.Proofs.Plan.Footprint
import QueryChain.Proofs.Query.Materialization
import QueryChain.Proofs.Schema.Keyword
import QueryChain.Proofs.Query.Ordering
import QueryChain.Proofs.Provider
import QueryChain.Proofs.Schema.Mapping
import QueryChain.Proofs.Row
import QueryChain.Proofs.Sql.Identifier
import QueryChain.Proofs.Query.Identifiers
import QueryChain.Proofs.Plan.Capacity
import QueryChain.Proofs.Query.Capacity
import QueryChain.Proofs.Outline
import QueryChain.Proofs.Dictionary
import QueryChain.Proofs.Sql.Writer
import QueryChain.Proofs.Expr.Rows
import QueryChain.Proofs.Query.Rows
import QueryChain.Proofs.Expr.Comparison
import QueryChain.Proofs.Schema.Declaration
import QueryChain.Proofs.Schema.Numbering
import QueryChain.Proofs.Translation
import QueryChain.Proofs.Translation.Lockstep
import QueryChain.Proofs.Translation.Conditions
import QueryChain.Proofs.Translation.Walk
