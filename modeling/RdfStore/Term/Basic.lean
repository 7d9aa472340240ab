/-!
# RDF terms and triples

The terms of the data model: IRIs, blank nodes, literals, variables and formulas. A formula is a
term whose value is a set of triples, so terms and triples are defined together; its triples are
listed in ascending order.

The type itself cannot ask for that order: a constructor of `Term` cannot mention a comparison
that is defined by recursion on `Term`. So the order is a predicate, `Term.InOrder`, which holds
of everything that `Term.ofTriples` makes, and `Term.Ordered` is the type of the terms that have
it.
-/

namespace RdfStore

universe u v

/-- An absolute IRI, compared by its text. -/
structure Iri where
  text : String
  deriving DecidableEq, Repr, Inhabited

/-- A blank node, known by an opaque number. -/
structure Blank where
  id : BitVec 128
  deriving DecidableEq, Repr, Inhabited

inductive LiteralKind where
  | simple
  | typed (datatype : Iri)
  | tagged (language : String)
  deriving DecidableEq, Repr, Inhabited

structure Literal where
  value : String
  kind : LiteralKind
  deriving DecidableEq, Repr, Inhabited

/-- A variable, known by its name without a mark. -/
structure Variable where
  name : String
  deriving DecidableEq, Repr, Inhabited

/-- Three positions, filled with terms in a triple and with slots in a pattern. -/
structure Statement (α : Type u) where
  subject : α
  predicate : α
  object : α
  deriving DecidableEq, Repr, Inhabited

inductive Term where
  | iri (i : Iri)
  | blank (b : Blank)
  | literal (l : Literal)
  | var (v : Variable)
  /-- A set of triples as data, in ascending order. -/
  | formula (triples : List (Statement Term))
  deriving Inhabited

abbrev Triple := Statement Term

def Statement.map {α : Type u} {β : Type v} (f : α → β) (t : Statement α) : Statement β :=
  ⟨f t.subject, f t.predicate, f t.object⟩

def Statement.toList {α : Type u} (t : Statement α) : List α :=
  [t.subject, t.predicate, t.object]

def Literal.datatype? (l : Literal) : Option Iri :=
  match l.kind with
  | .typed d => some d
  | _ => none

def Literal.language? (l : Literal) : Option String :=
  match l.kind with
  | .tagged g => some g
  | _ => none

namespace Term

def isIri : Term → Bool
  | iri _ => true
  | _ => false

def isBlank : Term → Bool
  | blank _ => true
  | _ => false

def isLiteral : Term → Bool
  | literal _ => true
  | _ => false

def isVariable : Term → Bool
  | var _ => true
  | _ => false

end Term

end RdfStore
