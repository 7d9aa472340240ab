import RdfStore.Graph.Basic
import RdfStore.Term.Notation

/-!
# Collections of shared graphs

A collection has at most one graph of a name. Graphs are shared: whoever holds a reference sees
every change, also after the graph has left the collection. Each change of the set of names, and
each merge, is told to every subscriber.
-/

namespace RdfStore

structure GraphRef where
  /-- The place of the graph among all that were ever shared. -/
  index : Nat
  deriving DecidableEq, Repr, Inhabited

inductive GraphEvent where
  | added (name : GraphName)
  | merged (name : GraphName)
  | removed (name : GraphName)
  deriving DecidableEq, Repr

/-- A collection of graphs and its subscribers. -/
structure Collection where
  /-- Every graph that was ever shared, by its reference. -/
  shared : List Graph
  /-- The graphs that belong to the collection, by name. -/
  directory : SortedMap GraphName GraphRef
  /-- The events that each subscriber has not taken yet. -/
  inboxes : SortedMap Nat (List GraphEvent)
  nextInbox : Nat

def GraphName.label : GraphName → String
  | some i => "<" ++ i.text ++ ">"
  | none => "default"

def GraphEvent.text : GraphEvent → String
  | added name => "added " ++ GraphName.label name
  | merged name => "merged " ++ GraphName.label name
  | removed name => "removed " ++ GraphName.label name

def GraphName.phrase : GraphName → String
  | some i => "<" ++ i.text ++ ">"
  | none => "the default graph"

structure GraphExists where
  name : GraphName
  deriving DecidableEq, Repr

def GraphExists.message (e : GraphExists) : String :=
  "a graph named " ++ GraphName.phrase e.name ++ " already exists in this collection"

namespace Collection

def empty : Collection := ⟨[], .empty, .empty, 0⟩

instance : Inhabited Collection := ⟨empty⟩

def deref (c : Collection) (r : GraphRef) : Graph := (c.shared[r.index]?).getD (.empty none)

/-- The collection in which the graph behind a reference is another one. -/
def write (c : Collection) (r : GraphRef) (g : Graph) : Collection :=
  { c with shared := c.shared.set r.index g }

/-- Shares a graph without taking it into the collection. -/
def share (c : Collection) (g : Graph) : GraphRef × Collection :=
  (⟨c.shared.length⟩, { c with shared := c.shared ++ [g] })

def notify (c : Collection) (e : GraphEvent) : Collection :=
  { c with inboxes := c.inboxes.mapValues (· ++ [e]) }

def ref? (c : Collection) (name : GraphName) : Option GraphRef := c.directory.find? name

def graph? (c : Collection) (name : GraphName) : Option Graph := (c.ref? name).map c.deref

def contains (c : Collection) (name : GraphName) : Bool := c.directory.contains name

def names (c : Collection) : List GraphName := c.directory.keys

def size (c : Collection) : Nat := c.directory.size

def isEmpty (c : Collection) : Bool := c.directory.isEmpty

def refs (c : Collection) : List GraphRef := c.directory.values

/-- The references of the graphs with one of the given names, in the order of the names. -/
def refsNamed (c : Collection) (names : List Iri) : List GraphRef :=
  (c.directory.filter fun name _ => name.any names.contains).values

/-- Takes in a graph of a new name. -/
def enter (c : Collection) (g : Graph) : GraphRef × Collection :=
  let (r, c) := c.share g
  (r, { c with directory := c.directory.insert g.name r }.notify (.added g.name))

/-- Adds a graph. The triples of a graph whose name is taken are merged into the graph of that
name, or the graph is refused. -/
def add (c : Collection) (g : Graph) (mergeIfExists : Bool) :
    Except GraphExists (GraphRef × Collection) :=
  match c.ref? g.name with
  | none => .ok (c.enter g)
  | some r =>
    if mergeIfExists then
      .ok (r, (c.write r ((c.deref r).merge g).1).notify (.merged g.name))
    else .error ⟨g.name⟩

/-- The graph of a name, which is created without triples if there is none. -/
def getOrCreate (c : Collection) (name : GraphName) : GraphRef × Collection :=
  match c.ref? name with
  | some r => (r, c)
  | none => c.enter (.empty name)

def remove (c : Collection) (name : GraphName) : Option GraphRef × Collection :=
  match c.ref? name with
  | none => (none, c)
  | some r => (some r, { c with directory := c.directory.erase name }.notify (.removed name))

def subscribe (c : Collection) : Nat × Collection :=
  (c.nextInbox, { c with inboxes := c.inboxes.insert c.nextInbox [], nextInbox := c.nextInbox + 1 })

/-- Stops to collect events for a subscriber, at once and not only when the next event cannot be
delivered to it (`Collection.after_unsubscribe`). -/
def unsubscribe (c : Collection) (i : Nat) : Collection :=
  { c with inboxes := c.inboxes.erase i }

/-- The events that a subscriber has not taken yet, which it takes now. -/
def takeEvents (c : Collection) (i : Nat) : Option (List GraphEvent) × Collection :=
  match c.inboxes.find? i with
  | none => (none, c)
  | some es => (some es, { c with inboxes := c.inboxes.insert i [] })

end Collection

end RdfStore
