import Mathlib.Data.List.Nodup
import RdfStore.Graph.Basic
import RdfStore.Selection.Basic

/-!
# Look-ups through an index

An index that lists a set of triples answers every combination of known positions with the
triples of the set that have these terms there, each once (`Index.Lists.mem_query`,
`Index.nodup_query`). Its roots are the subjects and the objects in use. There is no other index of
the set (`Index.Lists.unique`).
-/

namespace RdfStore

universe u v

/-! ## Entries of a map -/

namespace SortedMap

variable {κ : Type u} {β : Type v} [KeyOrder κ]

theorem mem_keys_iff {m : SortedMap κ β} {k : κ} :
    k ∈ m.keys ↔ ∃ b, m.find? k = some b := by
  simp only [keys, List.mem_map, find?_eq_some_iff]
  constructor
  · rintro ⟨e, he, rfl⟩
    exact ⟨e.2, he⟩
  · rintro ⟨b, hb⟩
    exact ⟨(k, b), hb, rfl⟩

theorem not_mem_keys_empty {k : κ} : k ∉ (empty : SortedMap κ β).keys := List.not_mem_nil

/-- Lists made of the entries of a map share no element if each element shows its key. -/
theorem nodup_flatMap_entries {γ : Type} {m : SortedMap κ β} {f : κ × β → List γ} (key : γ → κ)
    (hkey : ∀ e ∈ m.entries, ∀ x ∈ f e, key x = e.1)
    (hf : ∀ e ∈ m.entries, (f e).Nodup) : (m.entries.flatMap f).Nodup := by
  rw [List.nodup_flatMap]
  refine ⟨hf, ?_⟩
  have hkeys : m.entries.Pairwise fun a b => a.1 ≠ b.1 := List.pairwise_map.1 m.nodup_keys
  refine hkeys.imp_of_mem ?_
  intro a b ha hb hab x hxa hxb
  exact hab ((hkey a ha x hxa).symm.trans (hkey b hb x hxb))

end SortedMap

/-! ## Permutations -/

namespace Permutation

theorem mem_leaves {n : Permutation} {a b c : Term} :
    c ∈ n.leaves a b ↔ n.holds a b c = true := by
  unfold leaves holds
  cases n.leaf? a b with
  | none => simp
  | some s => exact SortedSet.contains_iff.symm

theorem mem_below {n : Permutation} {a b c : Term} :
    (b, c) ∈ n.below a ↔ n.holds a b c = true := by
  rw [holds_iff]
  unfold below
  cases hm : n.branches.find? a with
  | none => simp
  | some m =>
    simp only [List.mem_flatMap, List.mem_map, Prod.mk.injEq, Option.some.injEq]
    constructor
    · rintro ⟨e, he, x, hx, rfl, rfl⟩
      exact ⟨m, e.2, rfl, SortedMap.find?_eq_some_iff.2 he, hx⟩
    · rintro ⟨_, s, rfl, hs, hc⟩
      exact ⟨(b, s), SortedMap.find?_eq_some_iff.1 hs, c, hc, rfl, rfl⟩

theorem mem_all {n : Permutation} {a b c : Term} :
    (a, b, c) ∈ n.all ↔ n.holds a b c = true := by
  rw [holds_iff]
  simp only [all, List.mem_flatMap, List.mem_map, Prod.mk.injEq]
  constructor
  · rintro ⟨e, he, f, hf, x, hx, rfl, rfl, rfl⟩
    exact ⟨e.2, f.2, SortedMap.find?_eq_some_iff.2 he, SortedMap.find?_eq_some_iff.2 hf, hx⟩
  · rintro ⟨m, s, hm, hs, hc⟩
    exact ⟨(a, m), SortedMap.find?_eq_some_iff.1 hm, (b, s), SortedMap.find?_eq_some_iff.1 hs,
      c, hc, rfl, rfl, rfl⟩

theorem nodup_leaves (n : Permutation) (a b : Term) : (n.leaves a b).Nodup := by
  unfold leaves
  cases n.leaf? a b with
  | none => exact List.nodup_nil
  | some s => exact s.nodup_toList

/-- The second and third terms below one branch are listed once. -/
theorem nodup_branch (m : SortedMap Term (SortedSet Term)) :
    (m.entries.flatMap fun e => e.2.toList.map fun c => (e.1, c)).Nodup := by
  refine SortedMap.nodup_flatMap_entries Prod.fst ?_ ?_
  · intro e _ x hx
    obtain ⟨c, _, rfl⟩ := List.mem_map.1 hx
    rfl
  · intro e _
    exact e.2.nodup_toList.map fun c d h => (Prod.mk.inj h).2

theorem nodup_below (n : Permutation) (a : Term) : (n.below a).Nodup := by
  unfold below
  cases n.branches.find? a with
  | none => exact List.nodup_nil
  | some m => exact nodup_branch m

theorem nodup_all (n : Permutation) : n.all.Nodup := by
  refine SortedMap.nodup_flatMap_entries Prod.fst ?_ ?_
  · intro e _ x hx
    obtain ⟨f, _, hx⟩ := List.mem_flatMap.1 hx
    obtain ⟨c, _, rfl⟩ := List.mem_map.1 hx
    rfl
  · intro e _
    have hbranch := (nodup_branch e.2).map (f := fun x => (e.1, x)) fun x y h =>
      (Prod.mk.inj h).2
    simpa only [List.map_flatMap, List.map_map, Function.comp_def] using hbranch

/-- With no empty branch, the roots are the first terms of what is filed. -/
theorem Full.mem_roots {n : Permutation} (h : n.Full) {a : Term} :
    a ∈ n.roots ↔ ∃ b c, n.holds a b c = true := by
  simp only [roots, SortedMap.mem_keys_iff, holds_iff]
  constructor
  · rintro ⟨m, hm⟩
    have hbranch : ¬ m.isEmpty = true := by simp [h.branch a m hm]
    simp only [isEmpty_iff_map, not_forall, not_not] at hbranch
    obtain ⟨b, s, hs⟩ := hbranch
    have hleaf : ¬ s.isEmpty = true := by simp [h.leaf a m b s hm hs]
    simp only [SortedSet.isEmpty_iff, not_forall, not_not] at hleaf
    obtain ⟨c, hc⟩ := hleaf
    exact ⟨b, c, m, s, hm, hs, hc⟩
  · rintro ⟨b, c, m, s, hm, -, -⟩
    exact ⟨m, hm⟩

end Permutation

/-! ## Selection by position -/

/-- A selector by position asks for each given term in its place. -/
@[simp] theorem Selector.pattern_iff {s p o : Option Term} {t : Triple} :
    Selector.pattern s p o t = true ↔
      (∀ x ∈ s, t.subject = x) ∧ (∀ x ∈ p, t.predicate = x) ∧ (∀ x ∈ o, t.object = x) := by
  simp [Selector.pattern, Option.all_eq_true, and_assoc]

namespace Index

/-- An index gives the triples of its set that have the given terms in the given positions. -/
theorem Lists.mem_query {i : Index} {ts : TripleSet} (h : i.Lists ts) {s p o : Option Term}
    {t : Triple} : t ∈ i.query s p o ↔ t ∈ ts ∧ Selector.pattern s p o t = true := by
  obtain ⟨x, y, z⟩ := t
  simp only [Selector.pattern, Bool.and_eq_true]
  -- One case for each path into the index; the triple is put together from the path and the leaf.
  cases s with
  | none =>
    cases p with
    | none =>
      cases o with
      | none =>
        simp only [query, Option.all_none, Statement.mk.injEq, List.mem_map, Prod.exists,
          Permutation.mem_all, h.spo]
        grind
      | some c =>
        simp only [query, Option.all_some, Option.all_none, decide_eq_true_eq, Statement.mk.injEq,
          List.mem_map, Prod.exists, Permutation.mem_below, h.osp]
        grind
    | some b =>
      cases o with
      | none =>
        simp only [query, Option.all_some, Option.all_none, decide_eq_true_eq, Statement.mk.injEq,
          List.mem_map, Prod.exists, Permutation.mem_below, h.pos]
        grind
      | some c =>
        simp only [query, Option.all_some, Option.all_none, decide_eq_true_eq, Statement.mk.injEq,
          List.mem_map, Permutation.mem_leaves, h.pos]
        grind
  | some a =>
    cases p with
    | none =>
      cases o with
      | none =>
        simp only [query, Option.all_some, Option.all_none, decide_eq_true_eq, Statement.mk.injEq,
          List.mem_map, Prod.exists, Permutation.mem_below, h.spo]
        grind
      | some c =>
        simp only [query, Option.all_some, Option.all_none, decide_eq_true_eq, Statement.mk.injEq,
          List.mem_map, Permutation.mem_leaves, h.osp]
        grind
    | some b =>
      cases o with
      | none =>
        simp only [query, Option.all_some, Option.all_none, decide_eq_true_eq, Statement.mk.injEq,
          List.mem_map, Permutation.mem_leaves, h.spo]
        grind
      | some c =>
        have hc : i.contains ⟨a, b, c⟩ = true ↔ Statement.mk a b c ∈ ts := h.contains_iff
        simp only [query, Option.all_some, decide_eq_true_eq]
        by_cases ha : Statement.mk a b c ∈ ts
        · rw [if_pos (hc.2 ha)]
          simp only [List.mem_singleton, Statement.mk.injEq]
          grind
        · rw [if_neg (mt hc.1 ha)]
          simp only [List.not_mem_nil, false_iff]
          grind

/-- An index gives no triple twice. -/
theorem nodup_query (i : Index) (s p o : Option Term) : (i.query s p o).Nodup := by
  cases s with
  | none =>
    cases p with
    | none =>
      cases o with
      | none => exact i.spo.nodup_all.map fun x y h => by grind
      | some c => exact (i.osp.nodup_below c).map fun x y h => by grind
    | some b =>
      cases o with
      | none => exact (i.pos.nodup_below b).map fun x y h => by grind
      | some c => exact (i.pos.nodup_leaves b c).map fun x y h => by grind
  | some a =>
    cases p with
    | none =>
      cases o with
      | none => exact (i.spo.nodup_below a).map fun x y h => by grind
      | some c => exact (i.osp.nodup_leaves c a).map fun x y h => by grind
    | some b =>
      cases o with
      | none => exact (i.spo.nodup_leaves a b).map fun x y h => by grind
      | some c =>
        show (if i.contains ⟨a, b, c⟩ then [(⟨a, b, c⟩ : Triple)] else []).Nodup
        split <;> simp

theorem Lists.mem_subjects {i : Index} {ts : TripleSet} (h : i.Lists ts) {x : Term} :
    x ∈ i.subjects ↔ ∃ t ∈ ts, t.subject = x := by
  unfold subjects
  rw [h.spoFull.mem_roots]
  constructor
  · rintro ⟨p, o, hpo⟩
    exact ⟨⟨x, p, o⟩, (h.spo x p o).1 hpo, rfl⟩
  · rintro ⟨t, ht, rfl⟩
    exact ⟨t.predicate, t.object, (h.spo _ _ _).2 ht⟩

theorem Lists.mem_objects {i : Index} {ts : TripleSet} (h : i.Lists ts) {x : Term} :
    x ∈ i.objects ↔ ∃ t ∈ ts, t.object = x := by
  unfold objects
  rw [h.ospFull.mem_roots]
  constructor
  · rintro ⟨s, p, hsp⟩
    exact ⟨⟨s, p, x⟩, (h.osp s p x).1 hsp, rfl⟩
  · rintro ⟨t, ht, rfl⟩
    exact ⟨t.subject, t.predicate, (h.osp _ _ _).2 ht⟩

end Index

/-! ## Graphs -/

namespace Graph

theorem contains_iff {g : Graph} {t : Triple} : g.contains t = true ↔ t ∈ g.triples :=
  SortedSet.contains_iff

theorem mem_find {g : Graph} {s p o : Option Term} {t : Triple} :
    t ∈ g.find s p o ↔ t ∈ g.triples ∧ Selector.pattern s p o t = true := by
  unfold find
  split
  · simp [SortedSet.mem_def]
  · exact g.coherent.mem_query

theorem nodup_find (g : Graph) (s p o : Option Term) : (g.find s p o).Nodup := by
  unfold find
  split
  · exact g.triples.nodup_toList
  · exact g.index.nodup_query _ _ _

theorem mem_nodes {g : Graph} {x : Term} :
    x ∈ g.nodes ↔ ∃ t ∈ g.triples, x = t.subject ∨ x = t.object := by
  simp only [nodes, SortedSet.mem_ofList, List.mem_append, g.coherent.mem_subjects,
    g.coherent.mem_objects]
  grind

end Graph

/-! ## One index for a set -/

namespace Permutation

variable {m n : Permutation} {a b : Term}

theorem Full.leaf?_eq_some (h : n.Full) {s : SortedSet Term} (hs : n.leaf? a b = some s) :
    ∃ c, n.holds a b c = true := by
  obtain ⟨k, hk, hks⟩ := Option.bind_eq_some_iff.1 hs
  have hfull : ¬ s.isEmpty = true := by simp [h.leaf a k b s hk hks]
  simp only [SortedSet.isEmpty_iff, not_forall, not_not] at hfull
  obtain ⟨c, hc⟩ := hfull
  exact ⟨c, holds_iff.2 ⟨k, s, hk, hks, hc⟩⟩

theorem holds_of_leaf? {s : SortedSet Term} (hs : n.leaf? a b = some s) (c : Term) :
    n.holds a b c = true ↔ c ∈ s := by
  unfold holds
  rw [hs]
  exact SortedSet.contains_iff

theorem Full.leaf?_congr (hm : m.Full) (hn : n.Full)
    (h : ∀ a b c, m.holds a b c = true ↔ n.holds a b c = true) : m.leaf? a b = n.leaf? a b := by
  cases hs : m.leaf? a b with
  | none =>
    cases hu : n.leaf? a b with
    | none => rfl
    | some u =>
      obtain ⟨c, hc⟩ := hn.leaf?_eq_some hu
      have hc' := (h a b c).2 hc
      unfold holds at hc'
      rw [hs] at hc'
      exact nomatch hc'
  | some s =>
    obtain ⟨c, hc⟩ := hm.leaf?_eq_some hs
    have hc' := (h a b c).1 hc
    cases hu : n.leaf? a b with
    | none =>
      unfold holds at hc'
      rw [hu] at hc'
      exact nomatch hc'
    | some u =>
      refine congrArg some (SortedSet.ext_mem fun c => ?_)
      rw [← holds_of_leaf? hs, ← holds_of_leaf? hu, h]

/-- With no empty branch, a permutation is determined by what is filed. -/
theorem Full.ext (hm : m.Full) (hn : n.Full)
    (h : ∀ a b c, m.holds a b c = true ↔ n.holds a b c = true) : m = n := by
  -- A branch has a leaf, which the other permutation has too, and only below the same branch.
  have hbranch {m n : Permutation} (hm : m.Full) (hn : n.Full)
      (h : ∀ a b c, m.holds a b c = true ↔ n.holds a b c = true) {a : Term}
      {x : SortedMap Term (SortedSet Term)} (hx : m.branches.find? a = some x) :
      n.branches.find? a = some x := by
    have hroot : a ∈ m.roots := SortedMap.mem_keys_iff.2 ⟨x, hx⟩
    have hroot' : a ∈ n.roots := by
      rw [hn.mem_roots]
      obtain ⟨b, c, hbc⟩ := hm.mem_roots.1 hroot
      exact ⟨b, c, (h a b c).1 hbc⟩
    obtain ⟨y, hy⟩ := SortedMap.mem_keys_iff.1 hroot'
    have hxy : y = x := by
      refine SortedMap.ext_find? fun b => ?_
      have hleaf := Full.leaf?_congr hm hn h (a := a) (b := b)
      unfold leaf? at hleaf
      rw [hx, hy] at hleaf
      exact hleaf.symm
    rw [hy, hxy]
  have hbranches : m.branches = n.branches := by
    refine SortedMap.ext_find? fun a => Option.ext fun x => ?_
    exact ⟨hbranch hm hn h, hbranch hn hm fun a b c => (h a b c).symm⟩
  cases m
  cases n
  exact congrArg Permutation.mk hbranches

end Permutation

/-- A set of triples has one index. -/
theorem Index.Lists.unique {i j : Index} {ts : TripleSet} (hi : i.Lists ts) (hj : j.Lists ts) :
    i = j := by
  have hspo : i.spo = j.spo :=
    hi.spoFull.ext hj.spoFull fun s p o => (hi.spo s p o).trans (hj.spo s p o).symm
  have hpos : i.pos = j.pos :=
    hi.posFull.ext hj.posFull fun p o s => (hi.pos s p o).trans (hj.pos s p o).symm
  have hosp : i.osp = j.osp :=
    hi.ospFull.ext hj.ospFull fun o s p => (hi.osp s p o).trans (hj.osp s p o).symm
  cases i
  cases j
  simp only [Index.mk.injEq]
  exact ⟨hspo, hpos, hosp⟩

namespace Graph

variable {g h : Graph}

theorem index_eq (htriples : ∀ t, t ∈ g.triples ↔ t ∈ h.triples) :
    g.triples = h.triples ∧ g.index = h.index := by
  have hset : g.triples = h.triples := SortedSet.ext_mem htriples
  exact ⟨hset, g.coherent.unique (hset ▸ h.coherent)⟩

/-- A graph is determined by its name and its triples. -/
theorem ext_triples (hname : g.name = h.name) (htriples : ∀ t, t ∈ g.triples ↔ t ∈ h.triples) :
    g = h := by
  obtain ⟨hset, hindex⟩ := index_eq htriples
  cases g
  cases h
  simp only [Graph.mk.injEq]
  exact ⟨hname, hset, hindex⟩

/-- What is found in a graph, and in which order, depends on its triples only. -/
theorem find_congr (htriples : ∀ t, t ∈ g.triples ↔ t ∈ h.triples) : g.find = h.find := by
  obtain ⟨hset, hindex⟩ := index_eq htriples
  funext s p o
  unfold find
  rw [hset, hindex]

end Graph

end RdfStore
