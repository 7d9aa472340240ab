import RdfStore.Reasoning.Chaining

/-!
# Reasoners

A reasoner adds triples either to the graph that it reads or to another one. It may fail after
it has written something, so both a graph and a result come back. Reasoners are told apart by an
identity, not by their names.

A reasoner may do what it likes with the graph that it is given, and even put one of another name in
its place. Nothing that is done to a graph through its own operations changes its name, so a
reasoner that writes into the graph keeps the name (`Reasoner.KeepsName`); the theorems that rely on
this say so. Reasoners that remember earlier calls, or reach the store while they run, are left out.
-/

namespace RdfStore

/-- Something that infers triples. -/
structure Reasoner where
  id : Nat
  name : String
  /-- Adds what it infers from a graph to that graph. -/
  extend : Graph → Graph × Except ReasonerError Unit
  /-- Adds what it infers from the first graph to the second. -/
  derive : Graph → Graph → Graph × Except ReasonerError Unit

def RuleBase.reasoner (b : RuleBase) (id : Nat) : Reasoner := ⟨id, b.name, b.extend, b.derive⟩

namespace Reasoner

/-- A reasoner that draws its conclusions once. -/
def ofConclusions (id : Nat) (name : String) (conclude : Graph → List Triple) : Reasoner :=
  ⟨id, name, fun g => ((g.assertAll (conclude g)).1, .ok ()),
    fun input output => ((output.assertAll (conclude input)).1, .ok ())⟩

/-- A reasoner that infers nothing and fails for some graphs. -/
def ofCheck (id : Nat) (name : String) (check : Graph → Except ReasonerError Unit) : Reasoner :=
  ⟨id, name, fun g => (g, check g), fun input output => (output, check input)⟩

/-- The reasoner leaves the name of the graph that it extends. -/
def KeepsName (e : Reasoner) : Prop := ∀ g, (e.extend g).1.name = g.name

theorem keepsName_reasoner (b : RuleBase) (id : Nat) : (b.reasoner id).KeepsName :=
  fun _ => RuleBase.name_extend

theorem keepsName_ofConclusions (id : Nat) (name : String) (conclude : Graph → List Triple) :
    (ofConclusions id name conclude).KeepsName :=
  fun _ => Graph.name_assertAll

theorem keepsName_ofCheck (id : Nat) (name : String)
    (check : Graph → Except ReasonerError Unit) : (ofCheck id name check).KeepsName :=
  fun _ => rfl

end Reasoner

end RdfStore
