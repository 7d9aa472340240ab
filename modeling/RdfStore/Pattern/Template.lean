import RdfStore.Pattern.Basic
import RdfStore.Graph.Basic
import RdfStore.Term.Notation

/-!
# Blank nodes by label, and templates

Fresh blank nodes come from a supply that never gives one twice. A table of labels gives one
fresh blank node to each label. A template is a list of patterns; filling it for a row replaces
variables by terms and every blank node of the template by one that is fresh for that row.
-/

namespace RdfStore

/-- Where fresh blank nodes come from: all numbers from `next` on are unused. -/
structure Supply where
  next : Nat
  deriving DecidableEq, Repr, Inhabited

namespace Supply

/-- The number of the first blank node of a new supply, far from numbers that are chosen. -/
def first : Nat := 0x5bd1e995c2b2ae3d27d4eb4f165667b1

def new : Supply := ⟨first⟩

def gives (n : Nat) : Bool := first ≤ n && n < first + Nat.pow 2 32

def position (n : Nat) : String := "_:f" ++ Number.natText (n - first)

/-- A fresh blank node, and the supply without it. -/
def take (s : Supply) : Blank × Supply := (⟨BitVec.ofNat 128 s.next⟩, ⟨s.next + 1⟩)

end Supply

/-- The blank nodes that stand for labels. -/
structure BlankLabels where
  known : SortedMap String Blank

namespace BlankLabels

def empty : BlankLabels := ⟨.empty⟩

def size (b : BlankLabels) : Nat := b.known.size

/-- The blank node of a label, which is fresh when the label is met first. -/
def named (label : String) (b : BlankLabels) (s : Supply) : Blank × BlankLabels × Supply :=
  match b.known.find? label with
  | some x => (x, b, s)
  | none =>
    let (x, s) := s.take
    (x, ⟨b.known.insert label x⟩, s)

end BlankLabels

/-- What filling a template needs: the blank nodes given to the labels of a row, and a supply. -/
structure Filling where
  labels : BlankLabels
  supply : Supply

/-- The term of a position of a template. A blank node of the template is renamed; one that a
variable stands for is kept. A variable as a term has no place in a graph. -/
def Slot.fill (row : Row) (slot : Slot) (f : Filling) : Option Term × Filling :=
  match slot with
  | .fixed (.blank b) =>
    let (x, labels, supply) := f.labels.named b.text f.supply
    (some (.blank x), ⟨labels, supply⟩)
  | slot =>
    match slot.resolve? row with
    | some (.var _) => (none, f)
    | t => (t, f)

/-- Whether the positions of a triple may hold these terms: a literal is no subject, and only
an IRI is a predicate. -/
def Statement.isWritable (t : Triple) : Bool := !t.subject.isLiteral && t.predicate.isIri

/-- The triple that a pattern of a template gives for a row, if it gives one. -/
def Pattern.fill (p : Pattern) (row : Row) (f : Filling) : Option Triple × Filling :=
  match p.subject.fill row f with
  | (none, f) => (none, f)
  | (some s, f) =>
    match p.predicate.fill row f with
    | (none, f) => (none, f)
    | (some q, f) =>
      match p.object.fill row f with
      | (none, f) => (none, f)
      | (some o, f) =>
        let t : Triple := ⟨s, q, o⟩
        (if t.isWritable then some t else none, f)

/-- The triples, or their absence, that a template gives for a row. -/
def fillAll (row : Row) : List Pattern → Filling → List (Option Triple) × Filling
  | [], f => ([], f)
  | p :: ps, f =>
    let (t, f) := p.fill row f
    let (ts, f) := fillAll row ps f
    (t :: ts, f)

/-- What a template gives for each of a list of rows. Every row has its own blank nodes. -/
def fillRows (template : List Pattern) : List Row → Supply → List (List (Option Triple)) × Supply
  | [], s => ([], s)
  | row :: rows, s =>
    let (ts, f) := fillAll row template ⟨.empty, s⟩
    let (rest, s) := fillRows template rows f.supply
    (ts :: rest, s)

/-- The graph of all triples that a template gives for rows. -/
def construct (template : List Pattern) (rows : List Row) (s : Supply) : Graph × Supply :=
  let (ts, s) := fillRows template rows s
  (.ofTriples none (ts.flatMap fun l => l.filterMap id), s)

end RdfStore
