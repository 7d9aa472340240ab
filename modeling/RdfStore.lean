import RdfStore.Sorted.Map
import RdfStore.Text.Letters
import RdfStore.Text.Casing
import RdfStore.Text.Properties
import RdfStore.Regex.Reader
import RdfStore.Number.Decimal
import RdfStore.Time.DateTime
import RdfStore.Json.Reader
import RdfStore.Url.Basic
import RdfStore.Term.Notation
import RdfStore.Term.Coding
import RdfStore.Expr.Evaluate
import RdfStore.Graph.Permutation
import RdfStore.Graph.Basic
import RdfStore.Pattern.Template
import RdfStore.Selection.Basic
import RdfStore.Reasoning.Reasoner
import RdfStore.Store.Settings
import RdfStore.Store.Collection
import RdfStore.Query.Results
import RdfStore.Store.Inference
import RdfStore.Query.Evaluate
import RdfStore.Update.Basic
import RdfStore.Term.Canonical
import RdfStore.Proofs.Graph.History
import RdfStore.Proofs.Query.BagSemantics
import RdfStore.Proofs.Reasoning.Fixpoint
import RdfStore.Proofs.Update.Atomicity
import RdfStore.Proofs.Query.JoinAlgebra
import RdfStore.Proofs.Query.Scope
import RdfStore.Proofs.Query.Fatal
import RdfStore.Proofs.Reasoning.Deriving
import RdfStore.Proofs.Reasoning.Rounds
import RdfStore.Proofs.Store.Adding
import RdfStore.Proofs.Store.Modes
import RdfStore.Proofs.Store.Inferred
import RdfStore.Proofs.Store.Arrivals
import RdfStore.Proofs.Store.Events
import RdfStore.Proofs.Query.Confinement
import RdfStore.Proofs.Query.Monotonicity
import RdfStore.Proofs.Query.Renaming
import RdfStore.Proofs.Selection.Agreement
import RdfStore.Proofs.Store.Registration
import RdfStore.Proofs.Update.Modification
import RdfStore.Proofs.Number.Reading
import RdfStore.Proofs.Term.Normal
import RdfStore.Proofs.Expr.TermFunctions
import RdfStore.Proofs.Query.Copying
import RdfStore.Proofs.Expr.Naming
import RdfStore.Proofs.Query.Describing
import RdfStore.Proofs.Query.Optional
import RdfStore.Proofs.Query.NamedGraphs
import RdfStore.Proofs.Pattern.Instances
import RdfStore.Proofs.Reasoning.Schema
import RdfStore.Proofs.Selection.Hops
import RdfStore.Proofs.Expr.Positions
import RdfStore.Proofs.Expr.Substitution
import RdfStore.Proofs.Expr.Connectives
import RdfStore.Proofs.Expr.Integers
import RdfStore.Proofs.Expr.Powers
import RdfStore.Proofs.Update.Deletion
import RdfStore.Proofs.Store.Scoping
import RdfStore.Proofs.Json.Reading
import RdfStore.Proofs.Term.Coding
import RdfStore.Proofs.Expr.Concatenation
import RdfStore.Proofs.Query.Results
import RdfStore.Proofs.Term.Notation
import RdfStore.Proofs.Term.RoundTrip
import RdfStore.Proofs.Expr.Encoding
import RdfStore.Proofs.Reasoning.Enumeration
import RdfStore.Proofs.Graph.Permutations
import RdfStore.Proofs.Term.Ordering
import RdfStore.Proofs.Value.Stability
