import RdfStore.Proofs.Store.Frame

/-!
# Graphs and reasoners that arrive in any order

A reasoner runs over a graph either when the graph comes in or, if it is there already, when the
reasoner is registered. Both ways lead to the same: each reasoner has run just once over each
graph, after the reasoners that were registered before it. So where triples are inferred into the
graphs, it does not matter how the arrivals of graphs and of reasoners are mixed
(`StoreM.arrivals_any_order`).
-/

namespace RdfStore

/-! ## Reasoners one after the other -/

namespace Reasoner

variable {es fs : List Reasoner} {e : Reasoner} {g h : Graph}

/-- What reasoners make of a graph, one after the other. -/
def runAll (es : List Reasoner) (g : Graph) : Graph := es.foldl (fun g e => (e.extend g).1) g

theorem runAll_snoc (es : List Reasoner) (e : Reasoner) (g : Graph) :
    runAll (es ++ [e]) g = (e.extend (runAll es g)).1 := by
  unfold runAll
  rw [List.foldl_append]
  rfl

theorem extendAll_cons_eq_ok_iff : StoreM.extendAll (e :: es) g = .ok h ↔
    (e.extend g).2 = .ok () ∧ StoreM.extendAll es (e.extend g).1 = .ok h := by
  rw [StoreM.extendAll]
  rcases e.extend g with ⟨g', _ | _⟩
  · simp
  · simp

/-- Reasoners succeed one after the other if the first of them do, and the others do from there. -/
theorem extendAll_append_eq_ok_iff : StoreM.extendAll (es ++ fs) g = .ok h ↔
    StoreM.extendAll es g = .ok (runAll es g) ∧ StoreM.extendAll fs (runAll es g) = .ok h := by
  induction es generalizing g with
  | nil => exact (and_iff_right rfl).symm
  | cons e es ih =>
    rw [List.cons_append, extendAll_cons_eq_ok_iff, extendAll_cons_eq_ok_iff, ih, and_assoc]
    rfl

end Reasoner

/-! ## Running over all graphs -/

namespace Collection

variable {c : Collection} {f : Graph → Graph} {rs : List GraphRef} {r : GraphRef}
  {name : GraphName}

/-- The collection after the graphs behind references have been replaced, one after the other. -/
def rewrite (f : Graph → Graph) (c : Collection) (rs : List GraphRef) : Collection :=
  rs.foldl (fun c r => c.write r (f (c.deref r))) c

theorem ref?_rewrite : (c.rewrite f rs).ref? name = c.ref? name := by
  induction rs generalizing c with
  | nil => rfl
  | cons r rs ih => exact ih

theorem Coherent.rewrite (h : c.Coherent) (f : Graph → Graph) (rs : List GraphRef) :
    (c.rewrite f rs).Coherent := by
  induction rs generalizing c with
  | nil => exact h
  | cons r rs ih => exact ih (h.write r _)

/-- Where no reference comes twice, each graph is replaced once. -/
theorem deref_rewrite (hnodup : rs.Nodup) (hbounded : ∀ r ∈ rs, r.index < c.shared.length) :
    (c.rewrite f rs).deref r = if r ∈ rs then f (c.deref r) else c.deref r := by
  induction rs generalizing c with
  | nil => rfl
  | cons r' rs ih =>
    obtain ⟨hnew, hnodup⟩ := List.nodup_cons.1 hnodup
    have hbounded' : ∀ r ∈ rs, r.index < (c.write r' (f (c.deref r'))).shared.length := by
      intro r hr
      show r.index < (c.shared.set r'.index _).length
      rw [List.length_set]
      exact hbounded r (List.mem_cons_of_mem r' hr)
    show ((c.write r' (f (c.deref r'))).rewrite f rs).deref r = _
    rw [ih hnodup hbounded', deref_write]
    by_cases he : r' = r
    · subst he
      rw [if_neg hnew, if_pos ⟨rfl, hbounded r' List.mem_cons_self⟩, if_pos List.mem_cons_self]
    · have hother : (r ∈ r' :: rs) ↔ r ∈ rs := List.mem_cons.trans (or_iff_right (Ne.symm he))
      rw [if_neg (mt And.left he)]
      exact if_congr hother.symm rfl rfl

theorem Coherent.nodup_refs (h : c.Coherent) : c.refs.Nodup := by
  have hkeys : c.directory.entries.Pairwise fun a b => a.1 ≠ b.1 :=
    List.pairwise_map.1 c.directory.nodup_keys
  refine List.pairwise_map.2 (hkeys.imp_of_mem fun {a b} ha hb hab he => hab ?_)
  refine h.separate a.1 b.1 a.2 (SortedMap.find?_eq_some_iff.2 ha) ?_
  rw [he]
  exact SortedMap.find?_eq_some_iff.2 hb

theorem Coherent.bounded_refs (h : c.Coherent) : ∀ r ∈ c.refs, r.index < c.shared.length := by
  intro r hr
  obtain ⟨name, hname⟩ := mem_refs.1 hr
  exact h.bounded name r hname

/-- Replacing all graphs of a collection replaces the graph of each name. -/
theorem Coherent.graph?_rewrite (h : c.Coherent) (f : Graph → Graph) (name : GraphName) :
    (c.rewrite f c.refs).graph? name = (c.graph? name).map f := by
  unfold graph?
  rw [ref?_rewrite]
  cases hr : c.ref? name with
  | none => rfl
  | some r =>
    refine congrArg some ?_
    rw [deref_rewrite h.nodup_refs h.bounded_refs, if_pos (mem_refs.2 ⟨name, hr⟩)]

theorem Coherent.graph?_enter (h : c.Coherent) (g : Graph) (name : GraphName) :
    (c.enter g).2.graph? name = if name = g.name then some g else c.graph? name := by
  unfold graph?
  rw [ref?_enter]
  split
  · exact congrArg some (deref_enter.trans (if_pos rfl))
  · cases hr : c.ref? name with
    | none => rfl
    | some r => exact congrArg some (deref_enter.trans (if_neg (h.ne_enter hr)))

/-- What is under a name where reasoners have run over a family of graphs. -/
def held (es : List Reasoner) (family : List Graph) (name : GraphName) : Option Graph :=
  (family.find? fun g => g.name = name).map (Reasoner.runAll es)

theorem held_of_mem {es : List Reasoner} {family : List Graph} {g : Graph}
    (hnames : (family.map Graph.name).Nodup) (hg : g ∈ family) :
    held es family g.name = some (Reasoner.runAll es g) := by
  unfold held
  cases hfind : family.find? fun f => f.name = g.name with
  | none => exact absurd (decide_eq_true rfl) (List.find?_eq_none.1 hfind g hg)
  | some f =>
    have hname : f.name = g.name := by simpa using List.find?_some hfind
    obtain rfl := List.inj_on_of_nodup_map hnames (List.mem_of_find?_eq_some hfind) hg hname
    rfl

theorem held_of_not_mem {es : List Reasoner} {family : List Graph}
    (hname : name ∉ family.map Graph.name) : held es family name = none := by
  have hfind : (family.find? fun g => g.name = name) = none := by
    refine List.find?_eq_none.2 fun g hg he => hname ?_
    exact of_decide_eq_true he ▸ List.mem_map_of_mem hg
  unfold held
  rw [hfind]
  rfl

/-- The graphs of a collection are those of a family, each as reasoners have left it. -/
structure Holds (es : List Reasoner) (family : List Graph) (c : Collection) : Prop where
  coherent : c.Coherent
  graphs : ∀ g ∈ family, c.graph? g.name = some (Reasoner.runAll es g)
  others : ∀ name, (∀ g ∈ family, g.name ≠ name) → c.graph? name = none

theorem holds_nil (h : ∀ name, c.ref? name = none) : c.Holds [] [] := by
  refine ⟨coherent_of_ref? h, nofun, fun name _ => ?_⟩
  unfold graph?
  rw [h name]
  rfl

/-- It does not matter in which order the graphs of the family have come. -/
theorem Holds.graph?_eq {es : List Reasoner} {family family' : List Graph}
    (h : c.Holds es family') (hperm : family'.Perm family) : c.graph? = held es family := by
  funext name
  unfold held
  cases hfind : family.find? fun g => g.name = name with
  | none =>
    refine h.others name fun g hg he => ?_
    exact List.find?_eq_none.1 hfind g (hperm.mem_iff.1 hg) (decide_eq_true he)
  | some g =>
    have hname : g.name = name := by simpa using List.find?_some hfind
    rw [← hname]
    exact h.graphs g (hperm.mem_iff.2 (List.mem_of_find?_eq_some hfind))

end Collection

namespace StoreM

variable {s : Session} {es : List Reasoner} {e : Reasoner} {family : List Graph} {g h : Graph}
  {c : Collection}

/-! ## Registering a reasoner -/

theorem exec_applyReasoner_inline (hmode : s.store.settings.inferenceMode = .inline) (e : Reasoner)
    (r : GraphRef) : (applyReasoner e r).exec s =
      ((e.extend (s.store.collection.deref r)).2.mapError .reasoner,
        s.withCollection (s.store.collection.write r
          (e.extend (s.store.collection.deref r)).1)) := by
  unfold applyReasoner
  rw [exec_bind_of_ok (exec_get s), hmode]
  dsimp only
  rw [exec_bind_of_ok (exec_collection s)]
  exact (exec_bind_of_ok (exec_writeRef _ _ s)).trans (exec_lift _ _ _)

theorem exec_run_of_ok {t : Session} {r : GraphRef} {rs : List GraphRef}
    (hfirst : (applyReasoner e r).exec s = (.ok (), t)) :
    ((r :: rs).forM fun r => applyReasoner e r).exec s =
      (rs.forM fun r => applyReasoner e r).exec t :=
  exec_bind_of_ok hfirst

theorem exec_run_of_error {t : Session} {r : GraphRef} {rs : List GraphRef} {cause : StoreError}
    (hfirst : (applyReasoner e r).exec s = (.error cause, t)) :
    ((r :: rs).forM fun r => applyReasoner e r).exec s = (.error cause, t) :=
  exec_bind_of_error hfirst

/-- A reasoner that fails for none of some graphs runs over all of them. -/
theorem exec_forM_applyReasoner (hmode : s.store.settings.inferenceMode = .inline) (e : Reasoner)
    {rs : List GraphRef} (hnodup : rs.Nodup)
    (hok : ∀ r ∈ rs, (e.extend (s.store.collection.deref r)).2 = .ok ()) :
    (rs.forM fun r => applyReasoner e r).exec s =
      (.ok (), s.withCollection (s.store.collection.rewrite (fun g => (e.extend g).1) rs)) := by
  induction rs generalizing s with
  | nil => rfl
  | cons r rs ih =>
    obtain ⟨hnew, hnodup⟩ := List.nodup_cons.1 hnodup
    have hfirst : (applyReasoner e r).exec s = (.ok (), s.withCollection
        (s.store.collection.write r (e.extend (s.store.collection.deref r)).1)) := by
      rw [exec_applyReasoner_inline hmode, hok r List.mem_cons_self]
      rfl
    rw [exec_run_of_ok hfirst]
    refine ih hmode hnodup fun r' hr' => ?_
    -- The graphs that come later are not the one that has been written.
    have hne : r ≠ r' := fun he => hnew (he ▸ hr')
    rw [Session.collection_withCollection, Collection.deref_write, if_neg (mt And.left hne)]
    exact hok r' (List.mem_cons_of_mem r hr')

/-- A reasoner that fails for no graph of the collection is registered, and has run over all. -/
theorem exec_addReasoner_inline (hmode : s.store.settings.inferenceMode = .inline)
    (hcoherent : s.store.collection.Coherent)
    (hok : ∀ name g, s.store.collection.graph? name = some g → (e.extend g).2 = .ok ()) :
    (addReasoner e).exec s = (.ok (), (s.withReasoners (s.store.reasoners ++ [e])).withCollection
      (s.store.collection.rewrite (fun g => (e.extend g).1) s.store.collection.refs)) := by
  have hrefs : ∀ r ∈ s.store.collection.refs, (e.extend (s.store.collection.deref r)).2 = .ok () := by
    intro r hr
    obtain ⟨name, hname⟩ := Collection.mem_refs.1 hr
    refine hok name _ ?_
    unfold Collection.graph?
    rw [hname]
    rfl
  have hmodify : (modifyStore fun s => { s with reasoners := s.reasoners ++ [e] }).exec s =
      (.ok (), s.withReasoners (s.store.reasoners ++ [e])) := rfl
  have hrun : ((s.withReasoners (s.store.reasoners ++ [e])).store.collection.refs.forM fun r =>
      applyReasoner e r).exec (s.withReasoners (s.store.reasoners ++ [e])) =
        (.ok (), (s.withReasoners (s.store.reasoners ++ [e])).withCollection
          (s.store.collection.rewrite (fun g => (e.extend g).1) s.store.collection.refs)) :=
    exec_forM_applyReasoner (s := s.withReasoners (s.store.reasoners ++ [e])) hmode e
      hcoherent.nodup_refs hrefs
  unfold addReasoner
  rw [exec_bind_of_ok hmodify, exec_tryCatch, exec_bind_of_ok (exec_collection _), hrun]

/-! ## Arrivals -/

/-- Something that comes to a store. -/
inductive Arrival where
  /-- A reasoner is registered. -/
  | reasoner (e : Reasoner)
  /-- A graph is added. -/
  | graph (g : Graph) (merge : Bool)

namespace Arrival

/-- What an arrival does. -/
def run : Arrival → StoreM Unit
  | reasoner e => addReasoner e
  | graph g merge => do let _ ← addGraph g merge

/-- The reasoner that arrives. -/
def reasoner? : Arrival → Option Reasoner
  | reasoner e => some e
  | graph _ _ => none

/-- The graph that arrives. -/
def graph? : Arrival → Option Graph
  | reasoner _ => none
  | graph g _ => some g

end Arrival

/-- The arrivals are those of reasoners, in their order, and of graphs, in any order. -/
def Interleaves (arrivals : List Arrival) (es : List Reasoner) (family : List Graph) : Prop :=
  arrivals.filterMap Arrival.reasoner? = es ∧ (arrivals.filterMap Arrival.graph?).Perm family

/-- A reasoner that arrives runs over the graphs that are there. -/
theorem exec_reasoner_arrival (hmode : s.store.settings.inferenceMode = .inline)
    (hc : c.Holds es family)
    (hok : ∀ g ∈ family, (e.extend (Reasoner.runAll es g)).2 = .ok ()) :
    ∃ d, (addReasoner e).exec ((s.withReasoners es).withCollection c) =
        (.ok (), (s.withReasoners (es ++ [e])).withCollection d) ∧
      d.Holds (es ++ [e]) family := by
  have hgraph (name : GraphName) (h : Graph) (hh : c.graph? name = some h) :
      (e.extend h).2 = .ok () := by
    by_cases hname : ∀ g ∈ family, g.name ≠ name
    · exact nomatch (hc.others name hname).symm.trans hh
    · push Not at hname
      obtain ⟨g, hg, rfl⟩ := hname
      obtain rfl := Option.some.inj ((hc.graphs g hg).symm.trans hh)
      exact hok g hg
  refine ⟨_, exec_addReasoner_inline hmode hc.coherent hgraph, hc.coherent.rewrite _ _,
    fun g hg => ?_, fun name hname => ?_⟩
  · refine (hc.coherent.graph?_rewrite _ g.name).trans ?_
    rw [Reasoner.runAll_snoc]
    exact congrArg (Option.map _) (hc.graphs g hg)
  · refine (hc.coherent.graph?_rewrite _ name).trans ?_
    exact congrArg (Option.map _) (hc.others name hname)

/-- A graph that arrives is run over by the reasoners that are there. -/
theorem exec_graph_arrival (hmode : s.store.settings.inferenceMode = .inline)
    (hc : c.Holds es family) (hkeeps : ∀ e ∈ es, e.KeepsName)
    (hnew : ∀ f ∈ family, f.name ≠ g.name) (hreserved : g.name ≠ some s.store.inferenceGraph)
    (hok : extendAll es g = .ok (Reasoner.runAll es g)) (merge : Bool) :
    ∃ r d, (addGraph g merge).exec ((s.withReasoners es).withCollection c) =
        (.ok r, (s.withReasoners es).withCollection d) ∧ d.Holds es (family ++ [g]) := by
  have hname : (Reasoner.runAll es g).name = g.name := name_extendAll hkeeps hok
  -- The name is new, so whether graphs may be merged does not matter.
  have hfree : c.ref? g.name = none := by
    have hnone := hc.others g.name hnew
    unfold Collection.graph? at hnone
    exact Option.map_eq_none_iff.1 hnone
  have hadd : c.add (Reasoner.runAll es g) merge = .ok (c.enter (Reasoner.runAll es g)) :=
    Collection.add_of_none (hname.symm ▸ hfree)
  have hexec : (addGraph g merge).exec ((s.withReasoners es).withCollection c) =
      (.ok (c.enter (Reasoner.runAll es g)).1,
        (s.withReasoners es).withCollection (c.enter (Reasoner.runAll es g)).2) := by
    have hreasoners : extendAll ((s.withReasoners es).withCollection c).store.reasoners g =
        .ok (Reasoner.runAll es g) := hok
    rw [exec_addGraph_inline (s := (s.withReasoners es).withCollection c) hreserved hmode,
      hreasoners]
    dsimp only
    rw [exec_enter, Session.collection_withCollection, hadd]
    rfl
  have hgraph := hc.coherent.graph?_enter (Reasoner.runAll es g)
  rw [hname] at hgraph
  refine ⟨_, _, hexec, hc.coherent.enter _, fun f hf => ?_, fun name hother => ?_⟩
  · rcases List.mem_append.1 hf with hf | hf
    · rw [hgraph, if_neg (hnew f hf)]
      exact hc.graphs f hf
    · obtain rfl := List.mem_singleton.1 hf
      rw [hgraph, if_pos rfl]
  · have hne : name ≠ g.name := fun he =>
      hother g (List.mem_append_right _ List.mem_cons_self) he.symm
    rw [hgraph, if_neg hne]
    exact hc.others name fun f hf => hother f (List.mem_append_left _ hf)

/-- After arrivals the collection holds the graphs that were there and those that have arrived, as all
reasoners have left them. By induction on the arrivals: each is one step, and the graphs that are
there have been left by the reasoners so far. -/
theorem exec_arrivals (hmode : s.store.settings.inferenceMode = .inline) (arrivals : List Arrival)
    (hc : c.Holds es family)
    (hkeeps : ∀ e ∈ es ++ arrivals.filterMap Arrival.reasoner?, e.KeepsName)
    (hnames : ((family ++ arrivals.filterMap Arrival.graph?).map Graph.name).Nodup)
    (hreserved : ∀ g ∈ arrivals.filterMap Arrival.graph?, g.name ≠ some s.store.inferenceGraph)
    (hok : ∀ g ∈ family ++ arrivals.filterMap Arrival.graph?,
      ∃ h, extendAll (es ++ arrivals.filterMap Arrival.reasoner?) g = .ok h) :
    ∃ d, (arrivals.forM Arrival.run).exec ((s.withReasoners es).withCollection c) =
        (.ok (), (s.withReasoners (es ++ arrivals.filterMap Arrival.reasoner?)).withCollection d) ∧
      d.Holds (es ++ arrivals.filterMap Arrival.reasoner?)
        (family ++ arrivals.filterMap Arrival.graph?) := by
  induction arrivals generalizing es family c with
  | nil =>
    simp only [List.filterMap_nil, List.append_nil]
    exact ⟨c, rfl, hc⟩
  | cons a arrivals ih =>
    cases a with
    | reasoner e =>
      have hes : es ++ (Arrival.reasoner e :: arrivals).filterMap Arrival.reasoner? =
          es ++ [e] ++ arrivals.filterMap Arrival.reasoner? := by simp [Arrival.reasoner?]
      have hfamily : (Arrival.reasoner e :: arrivals).filterMap Arrival.graph? =
          arrivals.filterMap Arrival.graph? := rfl
      rw [hfamily] at hnames hreserved hok
      rw [hes] at hkeeps hok
      have hnext : ∀ g ∈ family, (e.extend (Reasoner.runAll es g)).2 = .ok () := by
        intro g hg
        obtain ⟨h, hh⟩ := hok g (List.mem_append_left _ hg)
        rw [List.append_assoc, Reasoner.extendAll_append_eq_ok_iff] at hh
        exact (Reasoner.extendAll_cons_eq_ok_iff.1 hh.2).1
      obtain ⟨d, hexec, hd⟩ := exec_reasoner_arrival hmode hc hnext
      rw [hes, hfamily]
      obtain ⟨d', hexec', hd'⟩ := ih hd hkeeps hnames hreserved hok
      exact ⟨d', (exec_bind_of_ok hexec).trans hexec', hd'⟩
    | graph g merge =>
      have hes : (Arrival.graph g merge :: arrivals).filterMap Arrival.reasoner? =
          arrivals.filterMap Arrival.reasoner? := rfl
      have hgraphs : (Arrival.graph g merge :: arrivals).filterMap Arrival.graph? =
          g :: arrivals.filterMap Arrival.graph? := rfl
      have hfamily : family ++ (Arrival.graph g merge :: arrivals).filterMap Arrival.graph? =
          family ++ [g] ++ arrivals.filterMap Arrival.graph? := by simp [Arrival.graph?]
      rw [hfamily] at hnames
      rw [hfamily, hes] at hok
      rw [hes] at hkeeps
      rw [hgraphs] at hreserved
      have hnew : ∀ f ∈ family, f.name ≠ g.name := by
        intro f hf he
        rw [List.append_assoc, List.map_append] at hnames
        exact List.disjoint_of_nodup_append hnames (List.mem_map_of_mem hf)
          (he ▸ List.mem_map_of_mem List.mem_cons_self)
      obtain ⟨h, hh⟩ := hok g (List.mem_append_left _ (List.mem_append_right _ List.mem_cons_self))
      have hso : ∀ e ∈ es, e.KeepsName := fun e he => hkeeps e (List.mem_append_left _ he)
      obtain ⟨r, d, hexec, hd⟩ := exec_graph_arrival hmode hc hso hnew
        (hreserved g List.mem_cons_self) (Reasoner.extendAll_append_eq_ok_iff.1 hh).1 merge
      have hrun : (Arrival.graph g merge).run.exec ((s.withReasoners es).withCollection c) =
          (.ok (), (s.withReasoners es).withCollection d) := by
        show (addGraph g merge >>= fun _ => pure ()).exec _ = _
        rw [exec_bind_of_ok hexec]
        rfl
      rw [hes, hfamily]
      obtain ⟨d', hexec', hd'⟩ :=
        ih hd hkeeps hnames (fun g' hg' => hreserved g' (List.mem_cons_of_mem g hg')) hok
      exact ⟨d', (exec_bind_of_ok hrun).trans hexec', hd'⟩

/-- **The order of arrivals does not matter.** A store without graphs and reasoners infers into its
graphs. Reasoners are registered, in a fixed order, and graphs of different names, none of them
reserved, are added before, between and after them, in any order. If the reasoners succeed over each
of the graphs, one after the other, and leave their names, then nothing fails; and in the end the
store has the reasoners, and under each name what the reasoners, one after the other, make of the
graph of that name. This is the same for all orders of arrivals. -/
theorem arrivals_any_order (s : Session) (hmode : s.store.settings.inferenceMode = .inline)
    (hempty : s.store.collection.isEmpty = true) (hnone : s.store.reasoners = [])
    (es : List Reasoner) (hkeeps : ∀ e ∈ es, e.KeepsName) (family : List Graph)
    (hnames : (family.map Graph.name).Nodup)
    (hreserved : ∀ g ∈ family, g.name ≠ some s.store.inferenceGraph)
    (hok : ∀ g ∈ family, ∃ h, extendAll es g = .ok h) :
    ∃ held : GraphName → Option Graph,
      (∀ g ∈ family, held g.name = some (es.foldl (fun g e => (e.extend g).1) g)) ∧
      (∀ name ∉ family.map Graph.name, held name = none) ∧
      ∀ arrivals, Interleaves arrivals es family →
        ∃ c, (arrivals.forM Arrival.run).exec s = (.ok (), (s.withReasoners es).withCollection c) ∧
          c.graph? = held := by
  refine ⟨Collection.held es family, fun g hg => Collection.held_of_mem hnames hg,
    fun name hname => Collection.held_of_not_mem hname, fun arrivals harrivals => ?_⟩
  obtain ⟨hes, hfamily⟩ := harrivals
  have hs : (s.withReasoners []).withCollection s.store.collection = s := by
    rw [← hnone]
    rfl
  obtain ⟨c, hexec, hc⟩ := exec_arrivals hmode arrivals
    (Collection.holds_nil (Collection.ref?_of_isEmpty hempty)) (hes.symm ▸ hkeeps)
    ((hfamily.map Graph.name).nodup_iff.2 hnames)
    (fun g hg => hreserved g (hfamily.mem_iff.1 hg))
    (fun g hg => hes.symm ▸ hok g (hfamily.mem_iff.1 hg))
  rw [hs, hes] at hexec
  rw [hes] at hc
  exact ⟨c, hexec, hc.graph?_eq hfamily⟩

/-- A reasoner that turns what is known about. -/
def mirroring : Reasoner := .ofConclusions 1 "mirroring" fun g =>
  g.triples.toList.map fun t => ⟨t.object, t.predicate, t.subject⟩

/-- A graph comes before, between and after two reasoners. What the second makes of it includes what
it makes of the triples of the first: three triples more than the one that came in. -/
theorem arrivals_any_order_three :
    let family := [knowing "urn:facts" ["urn:b"], knowing "urn:friends" ["urn:c"],
      knowing "urn:foes" ["urn:d"]]
    let arrivals : List Arrival := [.graph (knowing "urn:friends" ["urn:c"]) false, .reasoner seeing,
      .graph (knowing "urn:facts" ["urn:b"]) true, .reasoner mirroring,
      .graph (knowing "urn:foes" ["urn:d"]) false]
    Interleaves arrivals [seeing, mirroring] family ∧
      ∃ c, (arrivals.forM Arrival.run).exec (Session.new.inMode .inline) =
          (.ok (), ((Session.new.inMode .inline).withReasoners [seeing, mirroring]).withCollection c) ∧
        ∀ g ∈ family, (c.graph? g.name).map Graph.size = some 4 := by
  intro family arrivals
  have hinterleaves : Interleaves arrivals [seeing, mirroring] family :=
    ⟨rfl, List.Perm.swap _ _ _⟩
  have hkeeps : ∀ e ∈ [seeing, mirroring], e.KeepsName := by
    refine List.forall_mem_cons.2 ⟨Reasoner.keepsName_ofConclusions _ _ _, ?_⟩
    exact List.forall_mem_singleton.2 (Reasoner.keepsName_ofConclusions _ _ _)
  obtain ⟨held, hheld, -, hruns⟩ := arrivals_any_order (Session.new.inMode .inline) rfl rfl rfl
    [seeing, mirroring] hkeeps family (by decide) (by decide) (fun g _ => ⟨_, rfl⟩)
  obtain ⟨c, hexec, rfl⟩ := hruns arrivals hinterleaves
  refine ⟨hinterleaves, c, hexec, fun g hg => ?_⟩
  have hsize : ∀ g ∈ family, ([seeing, mirroring].foldl (fun g e => (e.extend g).1) g).size = 4 := by
    decide +kernel
  rw [hheld g hg]
  exact congrArg some (hsize g hg)

end StoreM

end RdfStore
