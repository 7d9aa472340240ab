import RdfStore.Selection.Basic
import RdfStore.Pattern.Basic

/-!
# Selection from several graphs

What is selected from a list of graphs is what is selected from each of them, one after the
other; a triple that two graphs have is selected twice. Only the nodes come as one set.
-/

namespace RdfStore.Selection

def triples (gs : List Graph) : List Triple := gs.flatMap fun g => g.triples.toList

def contains (gs : List Graph) (t : Triple) : Bool := gs.any (·.contains t)

/-- The triples with the given terms in the given positions, through the indices. -/
def find (gs : List Graph) : Lookup := fun s p o => gs.flatMap fun g => g.find s p o

def scan (gs : List Graph) (accept : Selector Triple) : List Triple :=
  gs.flatMap fun g => g.triples.toList.filter accept

def exists? (gs : List Graph) (accept : Selector Triple) : Bool :=
  gs.any fun g => g.triples.toList.any accept

def involving (gs : List Graph) (x : Term) : List Triple := gs.flatMap fun g => g.involving x

/-- The subjects and objects that a selector accepts, in ascending order. -/
def nodes (gs : List Graph) (accept : Selector Term) : List Term :=
  (SortedSet.ofList (gs.flatMap fun g => g.nodes.toList)).toList.filter accept

end RdfStore.Selection
