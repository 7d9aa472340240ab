import RdfStore.Graph.Permutation

/-!
# An index of triples

Three permutations of the same triples, so that every combination of known positions is looked
up below a path of known terms. `Index.Lists` says that an index holds exactly the triples of a
set, in all three orders.
-/

namespace RdfStore

/-- Triples filed in three orders of their positions. -/
structure Index where
  /-- By subject, predicate, object. -/
  spo : Permutation
  /-- By predicate, object, subject. -/
  pos : Permutation
  /-- By object, subject, predicate. -/
  osp : Permutation

namespace Index

def empty : Index := ⟨.empty, .empty, .empty⟩

instance : EmptyCollection Index := ⟨empty⟩

def contains (i : Index) (t : Triple) : Bool := i.spo.holds t.subject t.predicate t.object

def insert (i : Index) (t : Triple) : Index :=
  if i.contains t then i
  else
    { spo := i.spo.insert t.subject t.predicate t.object
      pos := i.pos.insert t.predicate t.object t.subject
      osp := i.osp.insert t.object t.subject t.predicate }

def erase (i : Index) (t : Triple) : Index :=
  if i.contains t then
    { spo := i.spo.erase t.subject t.predicate t.object
      pos := i.pos.erase t.predicate t.object t.subject
      osp := i.osp.erase t.object t.subject t.predicate }
  else i

def query (i : Index) : Option Term → Option Term → Option Term → List Triple
  | some s, some p, some o => if i.contains ⟨s, p, o⟩ then [⟨s, p, o⟩] else []
  | some s, some p, none => (i.spo.leaves s p).map fun o => ⟨s, p, o⟩
  | some s, none, some o => (i.osp.leaves o s).map fun p => ⟨s, p, o⟩
  | none, some p, some o => (i.pos.leaves p o).map fun s => ⟨s, p, o⟩
  | some s, none, none => (i.spo.below s).map fun (p, o) => ⟨s, p, o⟩
  | none, some p, none => (i.pos.below p).map fun (o, s) => ⟨s, p, o⟩
  | none, none, some o => (i.osp.below o).map fun (s, p) => ⟨s, p, o⟩
  | none, none, none => i.spo.all.map fun (s, p, o) => ⟨s, p, o⟩

def objectsOf? (i : Index) (s p : Term) : Option (SortedSet Term) := i.spo.leaf? s p

def subjectsOf? (i : Index) (p o : Term) : Option (SortedSet Term) := i.pos.leaf? p o

def predicatesOf? (i : Index) (s o : Term) : Option (SortedSet Term) := i.osp.leaf? o s

def subjects (i : Index) : List Term := i.spo.roots

def objects (i : Index) : List Term := i.osp.roots

/-- An index holds exactly the triples of a set, in every order, and no empty branch. -/
structure Lists (i : Index) (ts : TripleSet) : Prop where
  spo : ∀ s p o, i.spo.holds s p o = true ↔ Statement.mk s p o ∈ ts
  pos : ∀ s p o, i.pos.holds p o s = true ↔ Statement.mk s p o ∈ ts
  osp : ∀ s p o, i.osp.holds o s p = true ↔ Statement.mk s p o ∈ ts
  spoFull : i.spo.Full
  posFull : i.pos.Full
  ospFull : i.osp.Full

theorem lists_empty : Lists empty SortedSet.empty where
  spo _ _ _ := by simp [empty]
  pos _ _ _ := by simp [empty]
  osp _ _ _ := by simp [empty]
  spoFull := Permutation.full_empty
  posFull := Permutation.full_empty
  ospFull := Permutation.full_empty

theorem Lists.contains_iff {i : Index} {ts : TripleSet} (h : i.Lists ts) {t : Triple} :
    i.contains t = true ↔ t ∈ ts :=
  h.spo _ _ _

theorem Lists.insert {i : Index} {ts : TripleSet} (h : i.Lists ts) (t : Triple) :
    (i.insert t).Lists (ts.insert t) := by
  unfold Index.insert
  split
  · next ht =>
    have : ts.insert t = ts := by
      refine SortedSet.ext_mem fun x => ?_
      rw [SortedSet.mem_insert]
      exact or_iff_right_of_imp fun e => e ▸ h.contains_iff.1 ht
    rw [this]
    exact h
  · refine ⟨?_, ?_, ?_, h.spoFull.insert _ _ _, h.posFull.insert _ _ _, h.ospFull.insert _ _ _⟩
    · intro s p o
      rw [Permutation.holds_insert, h.spo, SortedSet.mem_insert, Statement.mk.injEq]
    · intro s p o
      rw [Permutation.holds_insert, h.pos, SortedSet.mem_insert, Statement.mk.injEq]
      grind
    · intro s p o
      rw [Permutation.holds_insert, h.osp, SortedSet.mem_insert, Statement.mk.injEq]
      grind

theorem Lists.erase {i : Index} {ts : TripleSet} (h : i.Lists ts) (t : Triple) :
    (i.erase t).Lists (ts.erase t) := by
  unfold Index.erase
  split
  · refine ⟨?_, ?_, ?_, h.spoFull.erase _ _ _, h.posFull.erase _ _ _, h.ospFull.erase _ _ _⟩
    · intro s p o
      rw [Permutation.holds_erase, h.spo, SortedSet.mem_erase, ne_eq, Statement.mk.injEq]
    · intro s p o
      rw [Permutation.holds_erase, h.pos, SortedSet.mem_erase, ne_eq, Statement.mk.injEq]
      grind
    · intro s p o
      rw [Permutation.holds_erase, h.osp, SortedSet.mem_erase, ne_eq, Statement.mk.injEq]
      grind
  · next ht =>
    have : ts.erase t = ts := by
      refine SortedSet.ext_mem fun x => ?_
      rw [SortedSet.mem_erase]
      exact and_iff_left_of_imp fun hx e => ht (h.contains_iff.2 (e ▸ hx))
    rw [this]
    exact h

end Index

end RdfStore
