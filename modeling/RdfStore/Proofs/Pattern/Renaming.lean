import Mathlib.Data.List.Flatten
import RdfStore.Query.Evaluate
import RdfStore.Proofs.Graph.History
import RdfStore.Proofs.Row.Renaming

/-!
# Patterns do not see the names of blank nodes

A renamed graph has the renamed triples, in another order. So a look-up for renamed terms finds the
renamed triples up to order (`Lookup.Mirrors`), and a renamed list of patterns reaches the renamed
rows up to order (`RowsMirror.joinAll`).
-/

namespace RdfStore

variable {π : Equiv.Perm Blank}

/-! ## Graphs -/

namespace Graph

/-- The graph with other names for its blank nodes. -/
def rename (π : Equiv.Perm Blank) (g : Graph) : Graph :=
  .ofTriples g.name (g.triples.toList.map (Statement.rename π))

def InOrder (g : Graph) : Prop := ∀ t ∈ g.triples, t.InOrder

variable {g h : Graph} {t : Triple}

theorem name_ofTriples {name : GraphName} {ts : List Triple} : (ofTriples name ts).name = name :=
  name_assertAll

theorem mem_rename : t ∈ (g.rename π).triples ↔ ∃ u ∈ g.triples, u.rename π = t :=
  mem_ofTriples.trans List.mem_map

theorem InOrder.merge (hg : g.InOrder) (hh : h.InOrder) : (g.merge h).1.InOrder :=
  fun t ht => (mem_merge.1 ht).elim (hg t) (hh t)

theorem merge_rename : ((g.rename π).merge (h.rename π)).1 = (g.merge h).1.rename π := by
  refine ext_triples ?_ fun t => ?_
  · rw [name_merge]
    unfold rename
    rw [name_ofTriples, name_ofTriples, name_merge]
  · simp only [mem_merge, mem_rename]
    constructor
    · rintro (⟨u, hu, rfl⟩ | ⟨u, hu, rfl⟩)
      · exact ⟨u, .inl hu, rfl⟩
      · exact ⟨u, .inr hu, rfl⟩
    · rintro ⟨u, hu | hu, rfl⟩
      · exact .inl ⟨u, hu, rfl⟩
      · exact .inr ⟨u, hu, rfl⟩

end Graph

/-! ## Look-ups -/

/-- The second source finds for renamed terms the renamed triples that the first one finds. -/
structure Lookup.Mirrors (π : Equiv.Perm Blank) (find find' : Lookup) : Prop where
  /-- The same triples are found, but for their order. -/
  perm : ∀ {s p o : Option Term}, (∀ t ∈ s, t.InOrder) → (∀ t ∈ p, t.InOrder) →
    (∀ t ∈ o, t.InOrder) →
    (find' (s.map (Term.rename π)) (p.map (Term.rename π)) (o.map (Term.rename π))).Perm
      ((find s p o).map (Statement.rename π))
  /-- The formulas in what is found are in order. -/
  inOrder : ∀ {s p o : Option Term}, ∀ t ∈ find s p o, t.InOrder

theorem Selector.pattern_rename {s p o : Option Term} {t : Triple} (hs : ∀ x ∈ s, x.InOrder)
    (hp : ∀ x ∈ p, x.InOrder) (ho : ∀ x ∈ o, x.InOrder) (ht : t.InOrder) :
    pattern (s.map (Term.rename π)) (p.map (Term.rename π)) (o.map (Term.rename π)) (t.rename π) =
      pattern s p o t := by
  have hposition {x : Option Term} {u : Term} (hx : ∀ y ∈ x, y.InOrder) (hu : u.InOrder) :
      (∀ y ∈ x.map (Term.rename π), u.rename π = y) ↔ ∀ y ∈ x, u = y := by
    cases x with
    | none => simp
    | some y =>
      have hy : u.rename π = y.rename π ↔ u = y := Term.rename_inj hu (hx y rfl)
      simp [hy]
  rw [Bool.eq_iff_iff, pattern_iff, pattern_iff]
  exact and_congr (hposition hs ht.1) (and_congr (hposition hp ht.2.1) (hposition ho ht.2.2))

/-- Both sides find each triple once, and they find the same triples. -/
theorem Graph.mirrors_find {g : Graph} (hg : g.InOrder) :
    Lookup.Mirrors π g.find (g.rename π).find where
  inOrder := fun t ht => hg t (mem_find.1 ht).1
  perm := by
    intro s p o hs hp ho
    have hnodup : ((g.find s p o).map (Statement.rename π)).Nodup := by
      refine List.Nodup.map_on (fun t ht u hu h => ?_) (g.nodup_find s p o)
      exact (Statement.rename_inj (hg t (mem_find.1 ht).1) (hg u (mem_find.1 hu).1)).1 h
    rw [List.perm_ext_iff_of_nodup (nodup_find _ _ _ _) hnodup]
    intro x
    rw [mem_find, mem_rename, List.mem_map]
    constructor
    · rintro ⟨⟨t, ht, rfl⟩, hpattern⟩
      rw [Selector.pattern_rename hs hp ho (hg t ht)] at hpattern
      exact ⟨t, mem_find.2 ⟨ht, hpattern⟩, rfl⟩
    · rintro ⟨t, ht, rfl⟩
      obtain ⟨ht, hpattern⟩ := mem_find.1 ht
      rw [Selector.pattern_rename hs hp ho (hg t ht)]
      exact ⟨⟨t, ht, rfl⟩, hpattern⟩

theorem Selection.mirrors_find {gs : List Graph} (h : ∀ g ∈ gs, g.InOrder) :
    Lookup.Mirrors π (find gs) (find (gs.map (Graph.rename π))) where
  inOrder := by
    intro s p o t ht
    obtain ⟨g, hg, ht⟩ := List.mem_flatMap.1 ht
    exact (Graph.mirrors_find (π := π) (h g hg)).inOrder t ht
  perm := by
    intro s p o hs hp ho
    unfold find
    rw [List.flatMap_map, List.map_flatMap]
    exact List.Perm.flatMap_left gs fun g hg => (Graph.mirrors_find (h g hg)).perm hs hp ho

/-! ## Lists of rows -/

/-- The rows of the second list are those of the first, in some order and under other names. -/
structure RowsMirror (π : Equiv.Perm Blank) (A B : List Row) : Prop where
  inOrder : ∀ row ∈ A, row.InOrder
  perm : B.Perm (A.map (Row.rename π))

namespace RowsMirror

variable {A B C D : List Row}

theorem nil : RowsMirror π [] [] where
  inOrder := nofun
  perm := .nil

theorem append (hAB : RowsMirror π A B) (hCD : RowsMirror π C D) :
    RowsMirror π (A ++ C) (B ++ D) where
  inOrder row hrow := (List.mem_append.1 hrow).elim (hAB.inOrder row) (hCD.inOrder row)
  perm := by
    rw [List.map_append]
    exact hAB.perm.append hCD.perm

theorem flatMap (h : RowsMirror π A B) {f g : Row → List Row}
    (hfg : ∀ row ∈ A, RowsMirror π (f row) (g (row.rename π))) :
    RowsMirror π (A.flatMap f) (B.flatMap g) where
  inOrder row hrow := by
    obtain ⟨a, ha, hrow⟩ := List.mem_flatMap.1 hrow
    exact (hfg a ha).inOrder row hrow
  perm := by
    refine (h.perm.flatMap_right g).trans ?_
    rw [List.flatMap_map, List.map_flatMap]
    exact List.Perm.flatMap_left A fun row hrow => (hfg row hrow).perm

theorem filterMap (h : RowsMirror π A B) {f g : Row → Option Row}
    (hfg : ∀ row ∈ A, g (row.rename π) = (f row).map (Row.rename π))
    (hf : ∀ row ∈ A, ∀ r, f row = some r → r.InOrder) :
    RowsMirror π (A.filterMap f) (B.filterMap g) where
  inOrder row hrow := by
    obtain ⟨a, ha, hrow⟩ := List.mem_filterMap.1 hrow
    exact hf a ha row hrow
  perm := by
    refine (h.perm.filterMap g).trans (.of_eq ?_)
    rw [List.filterMap_map, List.map_filterMap]
    exact List.filterMap_congr hfg

theorem filter (h : RowsMirror π A B) {keep keep' : Row → Bool}
    (hkeep : ∀ row ∈ A, keep' (row.rename π) = keep row) :
    RowsMirror π (A.filter keep) (B.filter keep') where
  inOrder row hrow := h.inOrder row (List.mem_of_mem_filter hrow)
  perm := by
    refine (h.perm.filter keep').trans (.of_eq ?_)
    rw [List.filter_map]
    exact congrArg _ (List.filter_congr hkeep)

theorem map (h : RowsMirror π A B) {f g : Row → Row}
    (hfg : ∀ row ∈ A, g (row.rename π) = (f row).rename π) (hf : ∀ row ∈ A, (f row).InOrder) :
    RowsMirror π (A.map f) (B.map g) where
  inOrder row hrow := by
    obtain ⟨a, ha, rfl⟩ := List.mem_map.1 hrow
    exact hf a ha
  perm := by
    refine (h.perm.map g).trans (.of_eq ?_)
    rw [List.map_map, List.map_map]
    exact List.map_congr_left hfg

/-! ## Joins -/

theorem mergeWith {row : Row} (hrow : row.InOrder) (h : RowsMirror π A B) :
    RowsMirror π (row.mergeWith A) ((row.rename π).mergeWith B) :=
  h.filterMap (fun a ha => Row.merge?_rename hrow (h.inOrder a ha))
    fun a ha _ hmerge => hrow.merge? (h.inOrder a ha) hmerge

theorem joinRows (hAB : RowsMirror π A B) (hCD : RowsMirror π C D) :
    RowsMirror π (joinRows A C) (joinRows B D) :=
  hAB.flatMap fun row hrow => mergeWith (hAB.inOrder row hrow) hCD

theorem bindRows (h : RowsMirror π A B) (x : String) (i : Iri) :
    RowsMirror π (bindRows x (.iri i) A) (bindRows x (.iri i) B) := by
  have hiri : (Term.iri i).InOrder := trivial
  refine h.filterMap (fun row hrow => ?_) fun row hrow r hr => ?_
  · exact Slot.bind?_rename (s := .var x) trivial hiri (h.inOrder row hrow)
  · exact Slot.inOrder_of_bind? hiri (h.inOrder row hrow) hr

variable {find find' : Lookup} {p : Pattern} {ps : List Pattern} {row : Row}

theorem extensions (hfind : find.Mirrors π find') (hp : p.InOrder) (hrow : row.InOrder) :
    RowsMirror π (p.extensions find row) ((p.rename π).extensions find' (row.rename π)) := by
  have hslot {s : Slot} (hs : s.InOrder) : ∀ t ∈ s.resolve? row, t.InOrder :=
    fun t ht => Slot.inOrder_of_resolve? hs hrow ht
  have hperm := hfind.perm (hslot hp.1) (hslot hp.2.1) (hslot hp.2.2)
  constructor
  · intro r hr
    obtain ⟨t, ht, hr⟩ := List.mem_filterMap.1 hr
    exact Pattern.inOrder_of_bind? (hfind.inOrder t ht) hrow hr
  · unfold Pattern.extensions
    show ((find' ((p.subject.rename π).resolve? (row.rename π))
      ((p.predicate.rename π).resolve? (row.rename π))
      ((p.object.rename π).resolve? (row.rename π))).filterMap
        fun t => (p.rename π).bind? t (row.rename π)).Perm _
    rw [Slot.resolve?_rename, Slot.resolve?_rename, Slot.resolve?_rename]
    refine (hperm.filterMap _).trans (.of_eq ?_)
    rw [List.filterMap_map, List.map_filterMap]
    exact List.filterMap_congr fun t ht => Pattern.bind?_rename hp (hfind.inOrder t ht) hrow

/-- Patterns reach the same rows under other names. -/
theorem joinAll (hfind : find.Mirrors π find') (hps : ∀ p ∈ ps, p.InOrder)
    (h : RowsMirror π A B) :
    RowsMirror π (Pattern.joinAll find A ps)
      (Pattern.joinAll find' B (ps.map (Pattern.rename π))) := by
  induction ps generalizing A B with
  | nil => exact h
  | cons p ps ih =>
    obtain ⟨hp, hps⟩ := List.forall_mem_cons.1 hps
    exact ih hps (h.flatMap fun row hrow => extensions hfind hp (h.inOrder row hrow))

end RowsMirror

end RdfStore
