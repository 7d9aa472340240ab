import RdfStore.Graph.Index

/-!
# Graphs

A graph is a set of triples, perhaps with a name, and an index of the same triples. That set and
index agree is part of the type, so a look-up through the index speaks of the set. Operations
that add or remove triples also tell how many there were.
-/

namespace RdfStore

/-- The name of a graph in a store; `none` is the name of the default graph. -/
abbrev GraphName := Option Iri

/-- A set of triples with a name and an index. -/
structure Graph where
  name : GraphName
  triples : TripleSet
  index : Index
  coherent : index.Lists triples

namespace Graph

def empty (name : GraphName) : Graph := ⟨name, .empty, .empty, Index.lists_empty⟩

instance : Inhabited Graph := ⟨empty none⟩

def insert (g : Graph) (t : Triple) : Graph :=
  ⟨g.name, g.triples.insert t, g.index.insert t, g.coherent.insert t⟩

def erase (g : Graph) (t : Triple) : Graph :=
  ⟨g.name, g.triples.erase t, g.index.erase t, g.coherent.erase t⟩

def contains (g : Graph) (t : Triple) : Bool := g.triples.contains t

def size (g : Graph) : Nat := g.triples.size

def isEmpty (g : Graph) : Bool := g.triples.isEmpty

/-- Adds a triple and tells whether it is new. -/
def assert (g : Graph) (t : Triple) : Graph × Bool :=
  if g.index.contains t then (g, false) else (g.insert t, !g.contains t)

def retract (g : Graph) (t : Triple) : Graph × Bool := (g.erase t, g.contains t)

def assertAll (g : Graph) : List Triple → Graph × Nat
  | [] => (g, 0)
  | t :: ts =>
    let (g, new) := g.assert t
    let (g, count) := g.assertAll ts
    (g, new.toNat + count)

def retractAll (g : Graph) : List Triple → Graph × Nat
  | [] => (g, 0)
  | t :: ts =>
    let (g, old) := g.retract t
    let (g, count) := g.retractAll ts
    (g, old.toNat + count)

def clear (g : Graph) : Graph := empty g.name

/-- Adds the triples of another graph and tells how many were new. The name stays. -/
def merge (g other : Graph) : Graph × Nat := g.assertAll other.triples.toList

def ofTriples (name : GraphName) (ts : List Triple) : Graph := ((empty name).assertAll ts).1

/-- The subjects and objects, in ascending order. -/
def nodes (g : Graph) : SortedSet Term := .ofList (g.index.subjects ++ g.index.objects)

/-- The triples with the given terms in the given positions. -/
def find (g : Graph) : Option Term → Option Term → Option Term → List Triple
  | none, none, none => g.triples.toList
  | s, p, o => g.index.query s p o

/-- The triples with a term in one position or several, in ascending order. -/
def involving (g : Graph) (x : Term) : List Triple :=
  (SortedSet.ofList (g.find (some x) none none ++ g.find none (some x) none ++
    g.find none none (some x))).toList

def same (g h : Graph) : Bool := g.name = h.name && g.triples.toList = h.triples.toList

def formula (g : Graph) : Term := .ofTriples g.triples

@[simp] theorem name_insert {g : Graph} {t : Triple} : (g.insert t).name = g.name := rfl

@[simp] theorem triples_insert {g : Graph} {t : Triple} :
    (g.insert t).triples = g.triples.insert t := rfl

@[simp] theorem triples_erase {g : Graph} {t : Triple} :
    (g.erase t).triples = g.triples.erase t := rfl

@[simp] theorem name_assert {g : Graph} {t : Triple} : (g.assert t).1.name = g.name := by
  unfold assert
  split <;> rfl

@[simp] theorem name_assertAll {g : Graph} {ts : List Triple} :
    (g.assertAll ts).1.name = g.name := by
  induction ts generalizing g with
  | nil => rfl
  | cons t ts ih => exact ih.trans name_assert

@[simp] theorem name_merge {g h : Graph} : (g.merge h).1.name = g.name := name_assertAll

end Graph

end RdfStore
