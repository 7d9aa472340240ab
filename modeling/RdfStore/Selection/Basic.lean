import RdfStore.Graph.Basic

/-!
# Selectors and chains

A selector accepts or refuses. An independent chain narrows the output of its first selector
stage by stage. A dependent chain walks: each stage is started with the triples that the stage
before it gave, and scans the whole base for the triples linked to one of them.
-/

namespace RdfStore

abbrev Selector (α : Type) := α → Bool

namespace Selector

def any {α : Type} : Selector α := fun _ => true

def nothing {α : Type} : Selector α := fun _ => false

def exactly (x : Term) : Selector Term := fun y => y = x

def pattern (s p o : Option Term) : Selector Triple := fun t =>
  s.all (t.subject = ·) && p.all (t.predicate = ·) && o.all (t.object = ·)

def involves (x : Term) : Selector Triple := fun t =>
  t.subject = x || t.predicate = x || t.object = x

end Selector

/-- How a triple is linked to an earlier one. -/
inductive Link where
  | subjectSeen
  | followObject
  /-- Its subject or object is the subject or object of the earlier one. -/
  | sharedNode
  deriving DecidableEq, Repr

/-- The terms of a triple by which a later one may be linked to it. -/
def Link.sources (k : Link) (t : Triple) : List Term :=
  match k with
  | .subjectSeen => [t.subject]
  | .followObject => [t.object]
  | .sharedNode => [t.subject, t.object]

/-- The terms of a triple by which it may be linked to an earlier one. -/
def Link.targets (k : Link) (t : Triple) : List Term :=
  match k with
  | .subjectSeen => [t.subject]
  | .followObject => [t.subject]
  | .sharedNode => [t.subject, t.object]

/-- A stage of a dependent chain. It accepts nothing before it is started. -/
structure Stage where
  link : Link
  /-- The terms that the stage before reached, once it has run. -/
  reached : Option (SortedSet Term)

namespace Stage

def pending (k : Link) : Stage := ⟨k, none⟩

def isStarted (s : Stage) : Bool := s.reached.isSome

def start (s : Stage) (ts : List Triple) : Stage :=
  ⟨s.link, some (.ofList (ts.flatMap s.link.sources))⟩

/-- Whether a triple is linked to one of those that the stage was started with. -/
def accepts (s : Stage) : Selector Triple := fun t =>
  match s.reached with
  | none => false
  | some xs => (s.link.targets t).any xs.contains

end Stage

/-- Runs a dependent chain: the triples of the last stage, and the stages as they are left. -/
def dependentChain (scan : Selector Triple → List Triple) (first : Selector Triple)
    (stages : List Stage) : List Triple × List Stage :=
  go (scan first) stages
where
  /-- Runs the stages that are left, given what the stage before them found. -/
  go (found : List Triple) : List Stage → List Triple × List Stage
    | [] => (found, [])
    | s :: rest =>
      let s := s.start found
      let (last, rest) := go (scan s.accepts) rest
      (last, s :: rest)

/-- Runs an independent chain. Without stages there is no output. -/
def independentChain (scan : Selector Triple → List Triple) :
    List (Selector Triple) → List Triple
  | [] => []
  | first :: rest => (scan first).filter fun t => rest.all (· t)

end RdfStore
