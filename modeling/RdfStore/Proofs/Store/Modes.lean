import RdfStore.Proofs.Reasoning.Deriving
import RdfStore.Proofs.Store.Adding

/-!
# The two modes of inference

A store that infers into the graphs and one that infers beside them are run side by side, with the
same rule bases and the same additions. They accept and refuse the same graphs, and together
their graphs hold the same triples; only the second keeps what was added apart from what was
inferred (`StoreM.modes_agree`).
-/

namespace RdfStore

namespace StoreM

variable {bases : List (ℕ × RuleBase)} {s t : Session}

/-! ## Reasoners for an empty store -/

/-- Registers rule bases, in order. -/
def register (bases : List (ℕ × RuleBase)) : StoreM Unit :=
  (RuleBase.reasoners bases).forM addReasoner

/-- Where there is no graph, nothing can go wrong with a reasoner. -/
theorem exec_addReasoner_of_isEmpty (h : s.store.collection.isEmpty = true) (e : Reasoner) :
    (addReasoner e).exec s = (.ok (), s.withReasoners (s.store.reasoners ++ [e])) := by
  have hrefs : (s.withReasoners (s.store.reasoners ++ [e])).store.collection.refs = [] := by
    show s.store.collection.refs = []
    unfold Collection.refs SortedMap.values
    rw [List.isEmpty_iff.1 h]
    rfl
  have hmodify : (modifyStore fun s => { s with reasoners := s.reasoners ++ [e] }).exec s =
      (.ok (), s.withReasoners (s.store.reasoners ++ [e])) := rfl
  unfold addReasoner
  rw [exec_bind_of_ok hmodify, exec_tryCatch, exec_bind_of_ok (exec_collection _), hrefs]
  rfl

theorem exec_register (h : s.store.collection.isEmpty = true)
    (bases : List (ℕ × RuleBase)) : (register bases).exec s =
      (.ok (), s.withReasoners (s.store.reasoners ++ RuleBase.reasoners bases)) := by
  unfold register
  generalize RuleBase.reasoners bases = es
  induction es generalizing s with
  | nil =>
    rw [List.append_nil]
    rfl
  | cons e es ih =>
    show (addReasoner e >>= fun _ => es.forM addReasoner).exec s = _
    rw [exec_bind_of_ok (exec_addReasoner_of_isEmpty h e),
      ih (s := s.withReasoners (s.store.reasoners ++ [e])) h]
    exact congrArg (fun es => (Except.ok (), s.withReasoners es)) (List.append_assoc _ [e] es)

/-! ## One addition -/

/-- Two sessions with the same rule bases, of which the first infers into the graphs and the second
beside them. The names in use are the same, but for the reserved one, and so are the triples of
all graphs together. -/
structure Twins (bases : List (ℕ × RuleBase)) (s t : Session) : Prop where
  inline : s.store.settings.inferenceMode = .inline
  externalized : t.store.settings.inferenceMode = .externalized
  left_reasoners : s.store.reasoners = RuleBase.reasoners bases
  right_reasoners : t.store.reasoners = RuleBase.reasoners bases
  inferenceGraph : t.store.inferenceGraph = s.store.inferenceGraph
  left_coherent : s.store.collection.Coherent
  right_coherent : t.store.collection.Coherent
  /-- The reserved name is used by the second only. -/
  names : ∀ name ≠ some s.store.inferenceGraph,
    s.store.collection.contents name = none ↔ t.store.collection.contents name = none
  /-- The triples are the same, wherever they are. -/
  everything : s.store.collection.everything = t.store.collection.everything

/-- Twins stay twins when the first takes in a graph with what is inferred from it and the second
takes in the two apart. -/
theorem Twins.accept {g g' inferred : Graph} {merge : Bool} {r r' : GraphRef}
    {c d d' : Collection} (h : Twins bases s t) (hname : g'.name = g.name)
    (hmembers : g'.members = g.members ∪ inferred.members)
    (hs : s.store.collection.add g' merge = .ok (r, c))
    (ht : t.store.collection.add g merge = .ok (r', d'))
    (hd : d = if (RuleBase.reasoners bases).isEmpty then d'
      else d'.absorb (some s.store.inferenceGraph) inferred)
    (hnone : (RuleBase.reasoners bases).isEmpty = true → inferred.members = ∅) :
    Twins bases (s.withCollection c) (t.withCollection d) ∧
      ∀ name ≠ some s.store.inferenceGraph, d.contents name =
        Function.update t.store.collection.contents g.name
          (some ((t.store.collection.contents g.name).getD ∅ ∪ g.members)) name := by
  obtain ⟨hc, hcontents⟩ := h.left_coherent.add hs
  obtain ⟨hd, hkept, heverything⟩ := h.right_coherent.add_apart ht hd hnone
  refine ⟨⟨h.inline, h.externalized, h.left_reasoners, h.right_reasoners, h.inferenceGraph, hc, hd,
    fun name hne => ?_, ?_⟩, hkept⟩
  · show c.contents name = none ↔ d.contents name = none
    rw [hcontents, hname, hkept name hne]
    by_cases he : name = g.name
    · rw [he, Function.update_self, Function.update_self]
      exact ⟨nofun, nofun⟩
    · rw [Function.update_of_ne he, Function.update_of_ne he]
      exact h.names name hne
  · show c.everything = d.everything
    rw [Collection.everything_of_update hcontents, heverything, hmembers, h.everything,
      Finset.coe_union, Set.union_assoc]

/-- **One addition, in both modes.** Either the graph is refused by both sessions, for one reason
and without a trace, or both take it in, and they have the same triples again. -/
theorem Twins.addGraph (h : Twins bases s t) (g : Graph) (merge : Bool) :
    (∃ e, (addGraph g merge).exec s = (.error e, s) ∧ (addGraph g merge).exec t = (.error e, t)) ∨
      ∃ r c r' d, (addGraph g merge).exec s = (.ok r, s.withCollection c) ∧
        (addGraph g merge).exec t = (.ok r', t.withCollection d) ∧
        Twins bases (s.withCollection c) (t.withCollection d) ∧
        ∀ name ≠ some s.store.inferenceGraph, d.contents name =
          Function.update t.store.collection.contents g.name
            (some ((t.store.collection.contents g.name).getD ∅ ∪ g.members)) name := by
  by_cases hname : g.name = some s.store.inferenceGraph
  · refine .inl ⟨_, exec_addGraph_reserved hname merge, ?_⟩
    rw [exec_addGraph_reserved (hname.trans (by rw [h.inferenceGraph])), h.inferenceGraph]
  have hname' : g.name ≠ some t.store.inferenceGraph := by rwa [h.inferenceGraph]
  rw [exec_addGraph_inline hname h.inline, exec_addGraph_externalized hname' h.externalized,
    h.left_reasoners, h.right_reasoners, h.inferenceGraph]
  -- The reasoners fail for both or for neither.
  have hg : g.members = g.members ∪ (Graph.empty (some s.store.inferenceGraph)).members := by simp
  rcases deriveAll_extendAll bases hg with
    ⟨e, hextend, hderive⟩ | ⟨g', inferred, hextend, hderive, hmembers⟩
  · rw [hextend, hderive]
    exact .inl ⟨_, rfl, rfl⟩
  have hsame := name_extendAll (RuleBase.keepsName_reasoners bases) hextend
  have hnone : (RuleBase.reasoners bases).isEmpty = true → inferred.members = ∅ := by
    intro hempty
    rw [List.isEmpty_iff.1 hempty] at hderive
    rw [← Except.ok.inj hderive]
    rfl
  rw [hextend, hderive]
  dsimp only
  rw [exec_enter]
  -- The graph is refused by both or by neither, since both use the same names.
  have hnames : s.store.collection.contents g'.name = none ↔
      t.store.collection.contents g'.name = none := by
    rw [hsame]
    exact h.names g.name hname
  rcases Collection.add_agree hsame hnames merge with ⟨e, hs, ht⟩ | ⟨⟨r, c⟩, ⟨r', d⟩, hs, ht⟩
  · rw [hs, ht]
    exact .inl ⟨_, rfl, rfl⟩
  · rw [hs, ht]
    exact .inr ⟨r, c, r', _, rfl, rfl, h.accept hsame hmembers hs ht rfl hnone⟩

/-! ## Many additions -/

/-- Adds graphs one after the other, each with leave to merge it or without: what comes of each, and
the session after all of them. -/
def additions (s : Session) : List (Graph × Bool) → List (Except StoreError Unit) × Session
  | [] => ([], s)
  | call :: calls =>
    let (result, t) := (addGraph call.1 call.2).exec s
    let (results, u) := additions t calls
    (result.map (fun _ => ()) :: results, u)

/-- A graph that was accepted under a name has the triple. -/
def Accepted (calls : List (Graph × Bool)) (results : List (Except StoreError Unit))
    (name : GraphName) (t : Triple) : Prop :=
  ∃ g merge, ((g, merge), .ok ()) ∈ calls.zip results ∧ g.name = name ∧ t ∈ g.members

theorem Accepted.cons {calls : List (Graph × Bool)} {results : List (Except StoreError Unit)}
    {name : GraphName} {x : Triple} (h : Accepted calls results name x) (call : Graph × Bool)
    (result : Except StoreError Unit) : Accepted (call :: calls) (result :: results) name x := by
  obtain ⟨g, merge, hcall, hg⟩ := h
  exact ⟨g, merge, List.mem_cons_of_mem _ hcall, hg⟩

/-- Twins have the same results throughout, and are twins at the end. What the second then has
under a name other than the reserved one, it had at first or was given. -/
theorem Twins.additions (h : Twins bases s t) (calls : List (Graph × Bool)) :
    (additions s calls).1 = (additions t calls).1 ∧
      Twins bases (additions s calls).2 (additions t calls).2 ∧
      ∀ name ≠ some s.store.inferenceGraph,
        ∀ x ∈ ((additions t calls).2.store.collection.contents name).getD ∅,
          x ∈ (t.store.collection.contents name).getD ∅ ∨
            Accepted calls (additions t calls).1 name x := by
  -- By induction on the calls, for all twins, since each call leaves others.
  induction calls generalizing s t with
  | nil => exact ⟨rfl, h, fun _ _ _ => .inl⟩
  | cons call calls ih =>
    obtain ⟨g, merge⟩ := call
    rcases h.addGraph g merge with ⟨e, hs, ht⟩ | ⟨r, c, r', d, hs, ht, hnext, hkept⟩
    · obtain ⟨hresults, htwins, horigin⟩ := ih h
      simp only [StoreM.additions, hs, ht]
      refine ⟨congrArg _ hresults, htwins, fun name hname x hx => ?_⟩
      exact (horigin name hname x hx).imp id fun haccepted => haccepted.cons _ _
    · obtain ⟨hresults, htwins, horigin⟩ := ih hnext
      simp only [StoreM.additions, hs, ht]
      refine ⟨congrArg _ hresults, htwins, fun name hname x hx => ?_⟩
      rcases horigin name hname x hx with hold | haccepted
      · rw [Session.collection_withCollection, hkept name hname] at hold
        by_cases he : name = g.name
        · rw [he, Function.update_self, Option.getD_some, Finset.mem_union] at hold
          rcases hold with hold | hnew
          · exact .inl (he ▸ hold)
          · -- The triple came in with this graph.
            exact .inr ⟨g, merge, List.mem_cons_self, he.symm, hnew⟩
        · rw [Function.update_of_ne he] at hold
          exact .inl hold
      · exact .inr (haccepted.cons _ _)

/-- **The modes agree.** Start from a store without graphs and reasoners, register rule bases and
add graphs, once in either mode. Nothing is wrong with the rule bases in either mode, every graph is
accepted in both or refused in both for the same reason, and all graphs together have the same
triples. Where triples are inferred beside the graphs, every other graph has only triples of
graphs that were accepted under its name. As the additions are any, this is so after each of
them. -/
theorem modes_agree (s : Session) (hgraphs : s.store.collection.isEmpty = true)
    (hreasoners : s.store.reasoners = []) (bases : List (ℕ × RuleBase))
    (calls : List (Graph × Bool)) :
    let inline := (register bases).exec (s.inMode .inline)
    let apart := (register bases).exec (s.inMode .externalized)
    inline.1 = .ok () ∧ apart.1 = .ok () ∧
      (additions inline.2 calls).1 = (additions apart.2 calls).1 ∧
      (additions inline.2 calls).2.store.collection.everything =
        (additions apart.2 calls).2.store.collection.everything ∧
      ∀ name ≠ some s.store.inferenceGraph,
        ∀ t ∈ ((additions apart.2 calls).2.store.collection.contents name).getD ∅,
          Accepted calls (additions apart.2 calls).1 name t := by
  have hregister (mode : InferenceMode) : (register bases).exec (s.inMode mode) =
      (.ok (), (s.inMode mode).withReasoners (RuleBase.reasoners bases)) := by
    have hempty : (s.inMode mode).store.collection.isEmpty = true := hgraphs
    have hnil : (s.inMode mode).store.reasoners = [] := hreasoners
    rw [exec_register hempty, hnil, List.nil_append]
  have htwins : Twins bases ((s.inMode .inline).withReasoners (RuleBase.reasoners bases))
      ((s.inMode .externalized).withReasoners (RuleBase.reasoners bases)) := by
    have hcoherent := Collection.coherent_of_ref? (Collection.ref?_of_isEmpty hgraphs)
    exact ⟨rfl, rfl, rfl, rfl, rfl, hcoherent, hcoherent, fun _ _ => Iff.rfl, rfl⟩
  obtain ⟨hresults, hend, horigin⟩ := htwins.additions calls
  intro inline apart
  simp only [inline, apart, hregister]
  refine ⟨trivial, trivial, hresults, hend.everything, fun name hname t ht => ?_⟩
  -- At first there is nothing under any name.
  have hnone : s.store.collection.contents name = none :=
    Collection.contents_eq_none_iff.2 (Collection.ref?_of_isEmpty hgraphs name)
  refine (horigin name hname t ht).resolve_left fun hold => ?_
  change t ∈ (s.store.collection.contents name).getD ∅ at hold
  rw [hnone] at hold
  exact Finset.notMem_empty t hold

/-- Classes are added, added again, which is refused, and merged. -/
def classCalls : List (Graph × Bool) :=
  [(RuleBase.classChain, false), (RuleBase.classChain, false), (RuleBase.classChain, true)]

/-- Over a chain of classes the rules of RDF Schema make the same triples in both modes. -/
theorem modes_agree_classes :
    Session.new.store.collection.isEmpty = true ∧ Session.new.store.reasoners = [] ∧
      ((additions ((register [(0, .schema)]).exec (Session.new.inMode .inline)).2
        classCalls).1.map Except.toBool) = [true, false, true] ∧
      (additions ((register [(0, .schema)]).exec (Session.new.inMode .inline)).2
          classCalls).2.store.collection.everything =
        (additions ((register [(0, .schema)]).exec (Session.new.inMode .externalized)).2
          classCalls).2.store.collection.everything := by
  have hagree := modes_agree Session.new rfl rfl [(0, .schema)] classCalls
  exact ⟨rfl, rfl, by decide +kernel, hagree.2.2.2.1⟩

end StoreM

end RdfStore
