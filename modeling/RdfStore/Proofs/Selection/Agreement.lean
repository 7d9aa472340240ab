import Mathlib.Data.List.Dedup
import Mathlib.Data.List.Nodup
import Mathlib.Data.List.Perm.Basic
import Mathlib.Data.Option.Basic
import RdfStore.Store.Basic
import RdfStore.Proofs.Graph.Lookup

/-!
# Looking up is scanning

Triples are selected in many ways: through one of three indices, by a scan of the sorted triples,
with what is found at several positions put together. From whatever graphs, all ways give what a
scan gives (`Selection.Agreement`). So it is in every scope of a session, and for the graphs of
every list of names, which are those that the names lead to, each once
(`Session.selection_agreement`).
-/

namespace RdfStore

/-! ## One graph -/

namespace Graph

theorem find_perm_filter (g : Graph) (s p o : Option Term) :
    (g.find s p o).Perm (g.triples.toList.filter (Selector.pattern s p o)) := by
  have hscan : (g.triples.toList.filter (Selector.pattern s p o)).Nodup :=
    g.triples.nodup_toList.filter _
  rw [List.perm_ext_iff_of_nodup (g.nodup_find s p o) hscan]
  intro t
  rw [mem_find, List.mem_filter]
  exact Iff.rfl

/-- What is found at the three positions comes together in the order of a scan. -/
theorem involving_eq_filter (g : Graph) (x : Term) :
    g.involving x = g.triples.toList.filter (Selector.involves x) := by
  apply SortedSet.eq_of_ascending (SortedSet.ascending _) (g.triples.ascending.filter _)
  intro t
  have hfound : t ∈ g.involving x ↔ t ∈ g.triples ∧
      (t.subject = x ∨ t.predicate = x ∨ t.object = x) := by
    unfold involving
    rw [← SortedSet.mem_def, SortedSet.mem_ofList]
    simp only [List.mem_append, mem_find, Selector.pattern_iff, Option.mem_def, Option.some.injEq,
      forall_eq', reduceCtorEq, false_implies, implies_true, and_true, true_and]
    tauto
  have haccepts : Selector.involves x t = true ↔
      t.subject = x ∨ t.predicate = x ∨ t.object = x := by
    simp [Selector.involves, or_assoc]
  change t ∈ g.involving x ↔ _
  rw [hfound, List.mem_filter, haccepts]
  exact Iff.rfl

end Graph

/-! ## Several graphs -/

namespace Selection

variable {gs : List Graph} {t : Triple}

theorem mem_triples : t ∈ triples gs ↔ ∃ g ∈ gs, t ∈ g.triples := List.mem_flatMap

theorem scan_eq_filter (gs : List Graph) (accept : Selector Triple) :
    scan gs accept = (triples gs).filter accept :=
  List.filter_flatMap.symm

theorem find_perm_scan (gs : List Graph) (s p o : Option Term) :
    (find gs s p o).Perm (scan gs (Selector.pattern s p o)) :=
  List.Perm.flatMap_left gs fun g _ => g.find_perm_filter s p o

theorem involving_eq_scan (gs : List Graph) (x : Term) :
    involving gs x = scan gs (Selector.involves x) := by
  unfold involving scan
  exact List.flatMap_congr fun g _ => g.involving_eq_filter x

theorem contains_iff : contains gs t = true ↔ t ∈ triples gs := by
  unfold contains
  rw [List.any_eq_true, mem_triples]
  simp only [Graph.contains_iff]

theorem exists?_iff (accept : Selector Triple) :
    exists? gs accept = true ↔ scan gs accept ≠ [] := by
  rw [scan_eq_filter, ne_eq, List.filter_eq_nil_iff]
  unfold exists? triples
  simp only [List.any_eq_true, List.mem_flatMap]
  push Not
  constructor
  · rintro ⟨g, hg, t, ht, haccept⟩
    exact ⟨t, ⟨g, hg, ht⟩, haccept⟩
  · rintro ⟨t, ⟨g, hg, ht⟩, haccept⟩
    exact ⟨g, hg, t, ht, haccept⟩

theorem mem_nodes {accept : Selector Term} {x : Term} : x ∈ nodes gs accept ↔
    accept x = true ∧ ∃ t ∈ triples gs, x = t.subject ∨ x = t.object := by
  have hall : x ∈ (SortedSet.ofList (gs.flatMap fun g => g.nodes.toList)).toList ↔
      ∃ g ∈ gs, ∃ t ∈ g.triples, x = t.subject ∨ x = t.object := by
    rw [← SortedSet.mem_def, SortedSet.mem_ofList, List.mem_flatMap]
    simp only [← SortedSet.mem_def, Graph.mem_nodes]
  unfold nodes
  rw [List.mem_filter, hall, and_comm]
  refine and_congr_right fun _ => ?_
  constructor
  · rintro ⟨g, hg, t, ht, hx⟩
    exact ⟨t, mem_triples.2 ⟨g, hg, ht⟩, hx⟩
  · rintro ⟨t, ht, hx⟩
    obtain ⟨g, hg, ht⟩ := mem_triples.1 ht
    exact ⟨g, hg, t, ht, hx⟩

/-- All ways to select from some graphs agree with scanning them. -/
structure Agreement (gs : List Graph) : Prop where
  /-- A scan leaves out of all triples those that are refused. -/
  scan : ∀ accept, scan gs accept = (triples gs).filter accept
  /-- A look-up gives what a scan for the same positions gives, in some order. -/
  find : ∀ s p o, (find gs s p o).Perm (Selection.scan gs (Selector.pattern s p o))
  /-- A scan for one term at one position gives what the look-up there gives. -/
  subject : ∀ x, (Selection.scan gs fun t => Selector.exactly x t.subject).Perm
    (Selection.find gs (some x) none none)
  predicate : ∀ x, (Selection.scan gs fun t => Selector.exactly x t.predicate).Perm
    (Selection.find gs none (some x) none)
  object : ∀ x, (Selection.scan gs fun t => Selector.exactly x t.object).Perm
    (Selection.find gs none none (some x))
  /-- The triples with a term at any position are those of a scan, in the same order. -/
  involving : ∀ x, involving gs x = Selection.scan gs (Selector.involves x)
  /-- No graph gives a triple twice for having the term at several positions. -/
  once : ∀ x, ∀ g ∈ gs, (Selection.involving [g] x).Nodup
  contains : ∀ t, contains gs t = true ↔ t ∈ triples gs
  /-- There is a triple to select if a scan finds one. -/
  exist : ∀ accept, exists? gs accept = true ↔ Selection.scan gs accept ≠ []
  ascending : ∀ accept, (nodes gs accept).Pairwise KeyOrder.Lt
  /-- The nodes are the subjects and objects that are accepted. -/
  nodes : ∀ accept x, x ∈ nodes gs accept ↔
    accept x = true ∧ ∃ t ∈ triples gs, x = t.subject ∨ x = t.object

theorem agreement (gs : List Graph) : Agreement gs where
  scan := scan_eq_filter gs
  find := find_perm_scan gs
  subject x := by
    have haccept : (fun t => Selector.exactly x t.subject) =
        Selector.pattern (some x) none none := by
      funext t
      simp [Selector.exactly, Selector.pattern]
    rw [haccept]
    exact (find_perm_scan gs _ _ _).symm
  predicate x := by
    have haccept : (fun t => Selector.exactly x t.predicate) =
        Selector.pattern none (some x) none := by
      funext t
      simp [Selector.exactly, Selector.pattern]
    rw [haccept]
    exact (find_perm_scan gs _ _ _).symm
  object x := by
    have haccept : (fun t => Selector.exactly x t.object) =
        Selector.pattern none none (some x) := by
      funext t
      simp [Selector.exactly, Selector.pattern]
    rw [haccept]
    exact (find_perm_scan gs _ _ _).symm
  involving := involving_eq_scan gs
  once x g _ := by
    have hone : Selection.involving [g] x = g.involving x := by simp [Selection.involving]
    rw [hone, g.involving_eq_filter]
    exact g.triples.nodup_toList.filter _
  contains t := contains_iff
  exist := exists?_iff
  ascending accept := (SortedSet.ascending _).filter _
  nodes accept x := mem_nodes

end Selection

/-! ## The graphs of names -/

namespace Collection

variable {c : Collection}

theorem graph?_of_mem_entries {e : GraphName × GraphRef} (he : e ∈ c.directory.entries) :
    c.graph? e.1 = some (c.deref e.2) := by
  unfold graph? ref?
  rw [SortedMap.find?_eq_some_iff.2 he]
  rfl

theorem refs_map_deref (c : Collection) :
    c.refs.map c.deref = c.names.filterMap c.graph? := by
  have hgraph : ∀ e ∈ c.directory.entries,
      (c.graph? ∘ Prod.fst) e = (some ∘ c.deref ∘ Prod.snd) e :=
    fun e he => graph?_of_mem_entries he
  unfold names SortedMap.keys refs SortedMap.values
  rw [List.filterMap_map, List.map_map, List.filterMap_congr hgraph, ← List.filterMap_eq_map]

/-- The graphs with one of some names come in the order of the collection. -/
theorem graphs_refsNamed (c : Collection) (names : List Iri) : (c.refsNamed names).map c.deref =
    (c.names.filter fun name => name.any names.contains).filterMap c.graph? := by
  have hgraph : ∀ e ∈ c.directory.entries.filter fun e => e.1.any names.contains,
      (c.graph? ∘ Prod.fst) e = (some ∘ c.deref ∘ Prod.snd) e := by
    intro e he
    exact graph?_of_mem_entries (List.mem_of_mem_filter he)
  unfold Collection.names SortedMap.keys refsNamed SortedMap.values SortedMap.filter
  rw [List.filter_map, List.filterMap_map, List.map_map]
  dsimp only [Function.comp_def] at hgraph ⊢
  rw [List.filterMap_congr hgraph]
  rw [← List.filterMap_eq_map']

theorem isSome_graph?_iff {name : GraphName} : (c.graph? name).isSome ↔ name ∈ c.names := by
  unfold graph? ref? names
  rw [Option.isSome_map, Option.isSome_iff_exists, SortedMap.mem_keys_iff]

/-- They are those that the names lead to, each once however often its name is given. -/
theorem graphs_refsNamed_perm (c : Collection) (names : List Iri) :
    ((c.refsNamed names).map c.deref).Perm
      (names.dedup.filterMap fun i => c.graph? (some i)) := by
  -- Both lists come from the same names in use, which neither has twice.
  have hnames : (c.names.filter fun name => name.any names.contains).Perm
      ((names.dedup.map some).filter fun name => (c.graph? name).isSome) := by
    have hleft : (c.names.filter fun name => name.any names.contains).Nodup :=
      c.directory.nodup_keys.filter _
    have hright : ((names.dedup.map some).filter fun name => (c.graph? name).isSome).Nodup :=
      (names.nodup_dedup.map (Option.some_injective Iri)).filter _
    rw [List.perm_ext_iff_of_nodup hleft hright]
    intro name
    rw [List.mem_filter, List.mem_filter, isSome_graph?_iff, and_comm]
    refine and_congr_left fun _ => ?_
    cases name with
    | none => simp
    | some i => simp
  have hunused : (names.dedup.map some).filterMap c.graph? =
      ((names.dedup.map some).filter fun name => (c.graph? name).isSome).filterMap c.graph? := by
    rw [List.filterMap_filter]
    refine List.filterMap_congr fun name _ => ?_
    cases c.graph? name with
    | none => rfl
    | some g => rfl
  rw [graphs_refsNamed]
  refine (hnames.filterMap c.graph?).trans ?_
  rw [← hunused, List.filterMap_map]
  exact List.Perm.refl _

end Collection

/-- **Looking up is scanning, everywhere.** In every session, whatever its scope, all ways of
selection agree with a scan of the graphs in scope. These are the graphs of all names in use, in
order, or a single graph, which is shared or has been merged for this scope. They do so too for the
graphs of a list of names: those that the names lead to, in the order of the collection. Names that
lead nowhere add nothing, and it does not matter how often and in which order names are given. -/
theorem Session.selection_agreement (s : Session) :
    Selection.Agreement s.graphs ∧
    (s.graphs = match s.handle.current with
      | .everything => s.store.collection.names.filterMap s.store.collection.graph?
      | .graph r => [s.store.collection.deref r]
      | .merged g => [g]) ∧
    ∀ names, Selection.Agreement (s.graphsNamed names) ∧
      (s.graphsNamed names).Sublist (Scope.everything.graphs s.store.collection) ∧
      (s.graphsNamed names).Perm
        (names.dedup.filterMap fun i => s.store.collection.graph? (some i)) := by
  refine ⟨Selection.agreement _, ?_, ?_⟩
  · unfold Session.graphs
    cases s.handle.current with
    | everything => exact s.store.collection.refs_map_deref
    | graph r => rfl
    | merged g => rfl
  · intro names
    have hsublist : (s.store.collection.refsNamed names).Sublist s.store.collection.refs :=
      List.filter_sublist.map _
    exact ⟨Selection.agreement _, hsublist.map _, s.store.collection.graphs_refsNamed_perm names⟩

end RdfStore
