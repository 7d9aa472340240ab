import RdfStore.Query.Basic
import RdfStore.Json.Basic
import RdfStore.Term.Notation
import RdfStore.Term.Coding
import RdfStore.Term.Canonical

/-!
# Answers as JSON

The common layout of query results: an object for each term with its type and its value, an
object for each row with a member for each bound variable, and a list of the columns. Numbers of
blank nodes have no leading zeros here. A graph is a table of subjects, predicates and objects.
-/

namespace RdfStore

def resultObject (type value : String) (more : List (String × Json)) : Json :=
  .object (("type", .string type) :: ("value", .string value) :: more)

def Term.toResult : Term → Json
  | .iri i => resultObject "uri" i.text []
  | .blank b => resultObject "bnode" (String.ofList ('b' :: Text.shortHex 32 b.id.toNat)) []
  | .literal ⟨v, .simple⟩ => resultObject "literal" v []
  | .literal ⟨v, .tagged g⟩ => resultObject "literal" v [("xml:lang", .string g)]
  | .literal ⟨v, .typed d⟩ => resultObject "literal" v [("datatype", .string d.text)]
  | t => resultObject "literal" t.text []

def Row.toResult (row : Row) : Json :=
  .object (row.entries.map fun e => (e.1, e.2.toResult))

def Statement.toResult (t : Triple) : Json :=
  .object [("subject", t.subject.toResult), ("predicate", t.predicate.toResult),
    ("object", t.object.toResult)]

def resultTable (columns : List String) (rows : List Json) : Json :=
  .object [("head", .object [("vars", .array (columns.map .string))]),
    ("results", .object [("bindings", .array rows)])]

namespace Table

def toResult (t : Table) : Json := resultTable t.columns (t.rows.map Row.toResult)

def column (t : Table) (name : String) : List (Option Term) := t.rows.map (·.find? name)

def toJson (t : Table) : Json :=
  .object [("variables", .array (t.columns.map .string)), ("rows", .array (t.rows.map Row.toJson))]

/-- A table with its rows in the order of their texts, to compare answers from outside. -/
def sorted (t : Table) : Table :=
  ⟨t.columns, t.rows.mergeSort fun a b => orderTexts a.lines b.lines ≠ .gt⟩

end Table

def Answer.sorted : Answer → Answer
  | table t => table t.sorted
  | a => a

def Answer.toResult : Answer → Json
  | boolean b => .object [("head", .object []), ("boolean", .bool b)]
  | table t => t.toResult
  | graph g =>
    resultTable ["subject", "predicate", "object"] (g.triples.toList.map Statement.toResult)

end RdfStore
