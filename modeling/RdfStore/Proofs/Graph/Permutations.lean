import RdfStore.Proofs.Graph.Lookup

/-!
# Three permutations in step

An index files each triple in three orders. After any history of insertions, removals and clearings
the three hold the same triples, those of a plain set with the same history, and no branch is left
without a leaf (`Index.history_in_step`). So what is found below two terms is never an empty set,
and the roots are the terms in use.
-/

namespace RdfStore

/-- An operation on an index. -/
inductive IndexAction where
  /-- Files a triple. -/
  | insert (t : Triple)
  /-- Takes a triple out. -/
  | erase (t : Triple)
  /-- Takes all triples out. -/
  | clear

namespace IndexAction

/-- The index after an operation. -/
def run (i : Index) : IndexAction → Index
  | insert t => i.insert t
  | erase t => i.erase t
  | clear => .empty

/-- What an operation makes of a plain set. -/
def effect (ts : TripleSet) : IndexAction → TripleSet
  | insert t => ts.insert t
  | erase t => ts.erase t
  | clear => .empty

end IndexAction

theorem Permutation.Full.leaf?_eq_none_iff {n : Permutation} (h : n.Full) {a b : Term} :
    n.leaf? a b = none ↔ n.leaves a b = [] := by
  cases hs : n.leaf? a b with
  | none =>
    refine iff_of_true rfl ?_
    unfold leaves
    rw [hs]
  | some s =>
    obtain ⟨c, hc⟩ := h.leaf?_eq_some hs
    exact iff_of_false nofun (List.ne_nil_of_mem (mem_leaves.2 hc))

namespace Index

/-- The three permutations hold the same triples, without empty branches. -/
structure InStep (i : Index) : Prop where
  /-- The second permutation holds what the first does. -/
  pos : ∀ s p o, i.spo.holds s p o = true ↔ i.pos.holds p o s = true
  /-- The third permutation holds what the second does. -/
  osp : ∀ s p o, i.pos.holds p o s = true ↔ i.osp.holds o s p = true
  /-- No map or set inside the first permutation is empty. -/
  spoFull : i.spo.Full
  /-- No map or set inside the second permutation is empty. -/
  posFull : i.pos.Full
  /-- No map or set inside the third permutation is empty. -/
  ospFull : i.osp.Full
  /-- No subject is listed twice. -/
  nodup_subjects : i.subjects.Nodup
  /-- The subjects are those of the triples that are filed. -/
  mem_subjects : ∀ x, x ∈ i.subjects ↔ ∃ t, i.contains t = true ∧ t.subject = x
  /-- No object is listed twice. -/
  nodup_objects : i.objects.Nodup
  /-- The objects are those of the triples that are filed. -/
  mem_objects : ∀ x, x ∈ i.objects ↔ ∃ t, i.contains t = true ∧ t.object = x
  /-- There is no set of objects just if there is no such triple. -/
  objectsOf?_eq_none_iff : ∀ s p, i.objectsOf? s p = none ↔ i.query (some s) (some p) none = []
  /-- There is no set of subjects just if there is no such triple. -/
  subjectsOf?_eq_none_iff : ∀ p o, i.subjectsOf? p o = none ↔ i.query none (some p) (some o) = []
  /-- There is no set of predicates just if there is no such triple. -/
  predicatesOf?_eq_none_iff : ∀ s o,
    i.predicatesOf? s o = none ↔ i.query (some s) none (some o) = []

variable {i : Index} {ts : TripleSet}

/-- An index of a set has its permutations in step. -/
theorem Lists.inStep (h : i.Lists ts) : i.InStep where
  pos s p o := (h.spo s p o).trans (h.pos s p o).symm
  osp s p o := (h.pos s p o).trans (h.osp s p o).symm
  spoFull := h.spoFull
  posFull := h.posFull
  ospFull := h.ospFull
  nodup_subjects := i.spo.branches.nodup_keys
  mem_subjects x := by simp only [h.mem_subjects, h.contains_iff]
  nodup_objects := i.osp.branches.nodup_keys
  mem_objects x := by simp only [h.mem_objects, h.contains_iff]
  objectsOf?_eq_none_iff _ _ := h.spoFull.leaf?_eq_none_iff.trans List.map_eq_nil_iff.symm
  subjectsOf?_eq_none_iff _ _ := h.posFull.leaf?_eq_none_iff.trans List.map_eq_nil_iff.symm
  predicatesOf?_eq_none_iff _ _ := h.ospFull.leaf?_eq_none_iff.trans List.map_eq_nil_iff.symm

/-- One operation on an index is the same operation on its set. -/
theorem Lists.run (h : i.Lists ts) (a : IndexAction) : (a.run i).Lists (a.effect ts) := by
  cases a with
  | insert t => exact h.insert t
  | erase t => exact h.erase t
  | clear => exact lists_empty

theorem Lists.foldl_run (h : i.Lists ts) (as : List IndexAction) :
    (as.foldl IndexAction.run i).Lists (as.foldl IndexAction.effect ts) := by
  induction as generalizing i ts with
  | nil => exact h
  | cons a as ih => exact ih (h.run a)

/-- The index after a history of operations on a new one. -/
def history (as : List IndexAction) : Index := as.foldl IndexAction.run .empty

/-- **The permutations never drift apart.** After any history an index has the triples of a plain
set with the same history, and it has them in all three orders, without empty branches. -/
theorem history_in_step (as : List IndexAction) :
    (∀ t, (history as).contains t = true ↔ t ∈ as.foldl IndexAction.effect .empty) ∧
      (history as).InStep := by
  have hlists : (history as).Lists (as.foldl IndexAction.effect .empty) := lists_empty.foldl_run as
  exact ⟨fun _ => hlists.contains_iff, hlists.inStep⟩

end Index

end RdfStore
