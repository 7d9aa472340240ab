import RdfStore.Row.Basic
import RdfStore.Term.Build

/-!
# Triple patterns

A pattern has a term or a variable in each position. It matches a triple under a row of bindings
by extending the row; a variable that stands in two positions stands for one term. Patterns of
rules and of queries are the same; only the marks that introduce a variable differ.
-/

namespace RdfStore

inductive Slot where
  | fixed (t : Term)
  /-- A variable, by its bare name. -/
  | var (name : String)
  deriving DecidableEq, Inhabited

abbrev Pattern := Statement Slot

namespace Slot

/-- The variable of a query that a name with question marks or dollar signs stands for. -/
def ofName (name : String) : Slot := .var (stripMarks name)

/-- The variable of a rule that a name stands for. Only question marks are marks there. -/
def ofRuleName (name : String) : Slot :=
  .var (String.ofList (name.toList.dropWhile (· = '?')))

def varName? : Slot → Option String
  | fixed _ => none
  | var x => some x

/-- The term that a position stands for in a row. -/
def resolve? (row : Row) : Slot → Option Term
  | fixed t => some t
  | var x => row.find? x

/-- The row extended so that a position stands for a term, if it can. -/
def bind? (t : Term) (row : Row) : Slot → Option Row
  | fixed u => if u = t then some row else none
  | var x =>
    match row.find? x with
    | some u => if u = t then some row else none
    | none => some (row.insert x t)

def text : Slot → String
  | fixed t => t.text
  | var x => "?" ++ x

end Slot

/-- The row extended so that a pattern stands for a triple, if it can. -/
def Pattern.bind? (p : Pattern) (t : Triple) (row : Row) : Option Row := do
  let row ← p.subject.bind? t.subject row
  let row ← p.predicate.bind? t.predicate row
  p.object.bind? t.object row

def Pattern.varNames (p : Pattern) : SortedSet String :=
  .ofList (p.toList.filterMap Slot.varName?)

def Pattern.text (p : Pattern) : String :=
  "(" ++ p.subject.text ++ " " ++ p.predicate.text ++ " " ++ p.object.text ++ ")"

/-- The triple that a pattern stands for in a row, if every variable has a term. -/
def Pattern.resolve? (p : Pattern) (row : Row) : Option Triple := do
  return ⟨← p.subject.resolve? row, ← p.predicate.resolve? row, ← p.object.resolve? row⟩

/-- A source of triples: those with the given terms in the given positions. -/
abbrev Lookup := Option Term → Option Term → Option Term → List Triple

/-- The extensions of a row under which a pattern stands for a triple of the source. Only
triples are looked at that have the terms known so far. -/
def Pattern.extensions (find : Lookup) (p : Pattern) (row : Row) : List Row :=
  (find (p.subject.resolve? row) (p.predicate.resolve? row) (p.object.resolve? row)).filterMap
    fun t => p.bind? t row

/-- The extensions of rows under which all patterns of a list stand for triples of the source. -/
def Pattern.joinAll (find : Lookup) (rows : List Row) (ps : List Pattern) : List Row :=
  ps.foldl (fun rows p => rows.flatMap (p.extensions find)) rows

end RdfStore
