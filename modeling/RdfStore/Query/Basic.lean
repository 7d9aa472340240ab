import RdfStore.Expr.Basic
import RdfStore.Pattern.Basic
import RdfStore.Graph.Basic

/-!
# Queries

The algebra of graph patterns, the four forms of queries, and their answers. A pattern has
variables that its solutions may bind (`GraphPattern.scope`), which is what a query for all
variables shows.
-/

namespace RdfStore

inductive GraphTarget where
  | default
  | named (i : Iri)
  | union (is : List Iri)
  /-- In every named graph in turn, whose name a variable takes. -/
  | var (name : String)
  deriving DecidableEq

inductive GraphPattern where
  | basic (ps : List Pattern)
  | join (left right : GraphPattern)
  /-- The first pattern, with the second where it fits and passes a condition. -/
  | leftJoin (left right : GraphPattern) (condition : Option Expr)
  | union (left right : GraphPattern)
  | filter (condition : Expr) (inner : GraphPattern)
  | extend (inner : GraphPattern) (name : String) (e : Expr)
  | graph (target : GraphTarget) (inner : GraphPattern)
  deriving DecidableEq, Inhabited

namespace GraphPattern

/-- The variables that a solution of a pattern may bind, in some order and repeated. -/
def bindable : GraphPattern → List String
  | basic ps => ps.flatMap fun p => p.varNames.toList
  | join l r => l.bindable ++ r.bindable
  | leftJoin l r _ => l.bindable ++ r.bindable
  | union l r => l.bindable ++ r.bindable
  | filter _ p => p.bindable
  | extend p x _ => x :: p.bindable
  | graph (.var x) p => x :: p.bindable
  | graph _ p => p.bindable

def scope (p : GraphPattern) : SortedSet String := .ofList p.bindable

end GraphPattern

inductive QueryForm where
  | ask
  /-- The solutions, for some variables or for all, perhaps without repetitions. -/
  | select (names : Option (List String)) (distinct : Bool)
  | construct (template : List Pattern)
  | describe (terms : List Slot)
  deriving DecidableEq

structure Query where
  form : QueryForm
  /-- The graphs whose merge it is about, if they are given. -/
  dataset : Option (List Iri)
  pattern : GraphPattern
  deriving DecidableEq

structure Table where
  columns : List String
  rows : List Row

inductive Answer where
  | boolean (b : Bool)
  | table (t : Table)
  | graph (g : Graph)

end RdfStore
