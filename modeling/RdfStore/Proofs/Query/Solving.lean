import RdfStore.Proofs.Store.ReadOnly
import RdfStore.Proofs.Query.Rows
import RdfStore.Proofs.Graph.History

/-!
# Solving as a function of the session

Solving a pattern only reads, so what it comes to is a function of the session (`Session.solve`).
There is one equation for each kind of pattern: the rows of a pattern are made of the rows of its
parts, in the same session or inside a scope of it.
-/

namespace RdfStore

open StoreM

/-! ## Results of actions that only read -/

theorem mapError_unlessFault {ε ε' α : Type} (f : ε → ε') (fault : Option ε) (a : α) :
    (unlessFault fault a).mapError f = unlessFault (fault.map f) a := by
  cases fault with
  | none => rfl
  | some e => rfl

namespace StoreM

variable {α β : Type} {m : StoreM α}

theorem ReadsOnly.result_bind (hm : m.ReadsOnly) (f : α → StoreM β) (s : Session) :
    ((m >>= f).exec s).1 = (m.exec s).1 >>= fun a => ((f a).exec s).1 := by
  rcases h : m.exec s with ⟨e | a, t⟩
  · rw [exec_bind_of_error h]
    rfl
  · obtain rfl := hm.eq_of_exec h
    rw [exec_bind_of_ok h]
    rfl

end StoreM

/-- The scope of the default graph, or everything if there is none. -/
def Handle.defaultScope (h : Handle) : Scope :=
  match h.defaultGraph with
  | some r => .graph r
  | none => .everything

namespace Session

variable (s : Session) (now : DateTime)

/-- What solving a pattern comes to. -/
def solve (p : GraphPattern) : Except StoreError (List Row) := ((solutions now p).exec s).1

/-- The scope of a target, if it is there. -/
def resolve (target : ScopeTarget) : Except StoreError Scope := ((resolveScope target).exec s).1

/-- What solving a pattern comes to inside a scope. -/
def solveIn (target : ScopeTarget) (p : GraphPattern) : Except StoreError (List Row) := do
  (s.within (← s.resolve target)).solve now p

/-- What solving a pattern comes to in each of some named graphs, whose name a variable takes. -/
def solveEach (x : String) (p : GraphPattern) : List Iri → Except StoreError (List Row)
  | [] => .ok []
  | i :: is => do
    let rows ← s.solveIn now (.named i) p
    let rest ← solveEach x p is
    return bindRows x (.iri i) rows ++ rest

/-! ## Equations -/

variable (l r p : GraphPattern) (e : Expr) (x : String)

theorem solve_basic (ps : List Pattern) :
    s.solve now (.basic ps) = .ok (Pattern.joinAll (Selection.find s.graphs) [.empty] ps) := rfl

/-- Of two patterns the left one is solved first, and both in the same session. -/
theorem result_pair {α : Type} (f : List Row → List Row → StoreM α) :
    ((solutions now l >>= fun left => solutions now r >>= fun right => f left right).exec s).1 =
      s.solve now l >>= fun left => s.solve now r >>= fun right => ((f left right).exec s).1 := by
  rw [(readsOnly_solutions now l).result_bind]
  simp only [(readsOnly_solutions now r).result_bind]
  rfl

theorem solve_join : s.solve now (.join l r) =
    s.solve now l >>= fun left => s.solve now r >>= fun right => .ok (joinRows left right) :=
  s.result_pair now l r fun left right => pure (joinRows left right)

theorem solve_union : s.solve now (.union l r) =
    s.solve now l >>= fun left => s.solve now r >>= fun right => .ok (left ++ right) :=
  s.result_pair now l r fun left right => pure (left ++ right)

theorem solve_leftJoin (condition : Option Expr) : s.solve now (.leftJoin l r condition) =
    s.solve now l >>= fun left => s.solve now r >>= fun right =>
      unlessFault (((joinRows left right).findSome? (conditionFatal? now condition)).map .eval)
        (left.flatMap fun l => l.optional
          ((l.mergeWith right).filter (conditionKeeps now condition))) := by
  refine (s.result_pair now l r fun left right =>
    lift .eval (leftJoinRows now condition right left)).trans ?_
  simp only [exec_lift, leftJoinRows_eq, mapError_unlessFault]

theorem solve_filter : s.solve now (.filter e p) = s.solve now p >>= fun rows =>
    unlessFault ((rows.findSome? (e.fatal? now)).map .eval) (rows.filter (e.keeps now)) := by
  refine ((readsOnly_solutions now p).result_bind (fun rows =>
    lift .eval (filterRows now e rows)) s).trans ?_
  simp only [exec_lift, filterRows_eq, mapError_unlessFault]
  rfl

theorem solve_extend : s.solve now (.extend p x e) = s.solve now p >>= fun rows =>
    unlessFault (rows.findSome? (extendFault? now x e)) (rows.map (Row.extended now x e)) := by
  refine ((readsOnly_solutions now p).result_bind (fun rows =>
    lift id (extendRows now x e rows)) s).trans ?_
  simp only [exec_lift, extendRows_eq, mapError_unlessFault, Option.map_id, id]
  rfl

theorem result_inScope (target : ScopeTarget) :
    ((inScope target (solutions now p)).exec s).1 = s.solveIn now target p :=
  congrArg Prod.fst (exec_inScope (readsOnly_solutions now p) s)

theorem solve_graph_default : s.solve now (.graph .default p) = s.solveIn now .default p :=
  s.result_inScope now p .default

theorem solve_graph_named (i : Iri) :
    s.solve now (.graph (.named i) p) = s.solveIn now (.named i) p :=
  s.result_inScope now p (.named i)

theorem solve_graph_union (is : List Iri) :
    s.solve now (.graph (.union is) p) = s.solveIn now (.union is) p :=
  s.result_inScope now p (.union is)

theorem result_inEach (is : List Iri) :
    ((inEach x (solutions now p) is).exec s).1 = s.solveEach now x p is := by
  have hread := readsOnly_solutions now p
  induction is with
  | nil => rfl
  | cons i is ih =>
    unfold inEach solveEach
    rw [(hread.inScope (.named i)).result_bind, s.result_inScope now p (.named i)]
    simp only [(readsOnly_inEach hread x is).result_bind, ih]
    rfl

/-- The rows of a pattern in the graph of a name, if it has solutions there. -/
def rowsIn (i : Iri) : List Row := (s.solveIn now (.named i) p).toOption.getD []

/-- In each of some graphs there are solutions if there are in every one, and then they are put
together. -/
theorem solveEach_eq_ok_iff {is : List Iri} {rows : List Row} :
    s.solveEach now x p is = .ok rows ↔
      (∀ i ∈ is, s.solveIn now (.named i) p = .ok (s.rowsIn now p i)) ∧
        rows = is.flatMap fun i => bindRows x (.iri i) (s.rowsIn now p i) := by
  induction is generalizing rows with
  | nil =>
    have hnil : s.solveEach now x p [] = .ok rows ↔ rows = [] := by
      unfold solveEach
      rw [Except.ok.injEq, eq_comm]
    rw [hnil]
    exact ⟨fun h => ⟨fun i hi => absurd hi List.not_mem_nil, h⟩, fun h => h.2⟩
  | cons i is ih =>
    unfold solveEach
    rw [bind_eq_ok_iff, List.forall_mem_cons]
    constructor
    · rintro ⟨first, hfirst, h⟩
      obtain ⟨rest, hrest, h⟩ := bind_eq_ok_iff.1 h
      obtain ⟨hall, rfl⟩ := ih.1 hrest
      obtain rfl : _ = rows := Except.ok.inj h
      have hrows : s.rowsIn now p i = first := by
        unfold rowsIn
        rw [hfirst]
        rfl
      rw [hrows]
      exact ⟨⟨hfirst, hall⟩, by rw [List.flatMap_cons, hrows]⟩
    · rintro ⟨⟨hfirst, hall⟩, rfl⟩
      exact ⟨_, hfirst, bind_eq_ok_iff.2 ⟨_, ih.2 ⟨hall, rfl⟩, rfl⟩⟩

theorem solve_graph_var : s.solve now (.graph (.var x) p) =
    s.solveEach now x p (s.store.collection.names.filterMap id) :=
  (readsOnly_collection.result_bind _ s).trans (s.result_inEach now p x _)

/-! ## Scopes of targets -/

theorem result_requireGraph (i : Iri) : ((requireGraph i).exec s).1 =
    match s.store.collection.ref? (some i) with
    | some r => .ok r
    | none => .error (.graphNotFound i) := by
  unfold requireGraph
  rw [exec_bind_of_ok (exec_collection s)]
  cases s.store.collection.ref? (some i) with
  | none => rfl
  | some r => rfl

theorem resolve_default : s.resolve .default = .ok s.handle.defaultScope := by
  unfold resolve resolveScope Handle.defaultScope
  rw [exec_bind_of_ok (exec_get s)]
  cases s.handle.defaultGraph with
  | none => rfl
  | some r => rfl

theorem resolve_named (i : Iri) : s.resolve (.named i) =
    match s.store.collection.ref? (some i) with
    | some r => .ok (.graph r)
    | none => .error (.graphNotFound i) := by
  refine ((readsOnly_requireGraph i).result_bind _ s).trans ?_
  rw [result_requireGraph]
  cases s.store.collection.ref? (some i) with
  | none => rfl
  | some r => rfl

theorem resolve_union_singleton (i : Iri) : s.resolve (.union [i]) = s.resolve (.named i) := rfl

/-- A union is the graph of its only name, or a merge, in all sessions alike. -/
theorem resolve_union_cases (is : List Iri) : (∃ i, is = [i]) ∨ ∀ s : Session,
    s.resolve (.union is) = ((mergeNamed (.empty none) is).exec s).1.map .merged := by
  have hmerged (s : Session) :
      ((do return Scope.merged (← mergeNamed (.empty none) is)).exec s).1 =
        ((mergeNamed (.empty none) is).exec s).1.map .merged := by
    rw [(readsOnly_mergeNamed _ is).result_bind]
    cases ((mergeNamed (.empty none) is).exec s).1 with
    | error e => rfl
    | ok g => rfl
  match is with
  | [] => exact .inr hmerged
  | [i] => exact .inl ⟨i, rfl⟩
  | i :: j :: is => exact .inr hmerged

/-- The triple is in one of the graphs of some names. -/
def HasIn (is : List Iri) (t : Triple) : Prop :=
  ∃ i ∈ is, ∃ g, s.store.collection.graph? (some i) = some g ∧ t ∈ g.triples

variable {s} {i : Iri} {g m : Graph} {is : List Iri} {scope : Scope} {t : Triple}

theorem resolve_named_eq_ok (h : s.resolve (.named i) = .ok scope) :
    ∃ r, s.store.collection.ref? (some i) = some r ∧ scope = .graph r := by
  rw [resolve_named] at h
  cases hr : s.store.collection.ref? (some i) with
  | none =>
    rw [hr] at h
    exact nomatch h
  | some r =>
    rw [hr] at h
    exact ⟨r, rfl, (Except.ok.inj h).symm⟩

/-- The scope of a union is the graph of its only name, or a merge. -/
theorem resolve_union_eq_ok (h : s.resolve (.union is) = .ok scope) :
    (∃ i r, is = [i] ∧ s.store.collection.ref? (some i) = some r ∧ scope = .graph r) ∨
      ∃ m, ((mergeNamed (.empty none) is).exec s).1 = .ok m ∧ scope = .merged m := by
  rcases resolve_union_cases is with ⟨i, rfl⟩ | hmerged
  · obtain ⟨r, hr, hscope⟩ := resolve_named_eq_ok h
    exact .inl ⟨i, r, rfl, hr, hscope⟩
  · rw [hmerged] at h
    cases hm : ((mergeNamed (.empty none) is).exec s).1 with
    | error e =>
      rw [hm] at h
      exact nomatch h
    | ok m =>
      rw [hm] at h
      exact .inr ⟨m, rfl, (Except.ok.inj h).symm⟩

theorem graph?_of_ref? {r : GraphRef} (h : s.store.collection.ref? (some i) = some r) :
    s.store.collection.graph? (some i) = some (s.store.collection.deref r) := by
  unfold Collection.graph?
  rw [h]
  rfl

/-- A merge of named graphs has the triples of each. -/
theorem mem_mergeNamed (h : ((mergeNamed g is).exec s).1 = .ok m) :
    t ∈ m.triples ↔ t ∈ g.triples ∨ s.HasIn is t := by
  induction is generalizing g with
  | nil =>
    obtain rfl : g = m := Except.ok.inj h
    exact ⟨.inl, fun ht => ht.elim id fun ⟨i, hi, _⟩ => absurd hi List.not_mem_nil⟩
  | cons i is ih =>
    unfold mergeNamed at h
    rw [(readsOnly_requireGraph i).result_bind, result_requireGraph] at h
    cases hr : s.store.collection.ref? (some i) with
    | none =>
      rw [hr] at h
      exact nomatch h
    | some r =>
      rw [hr] at h
      have hcons : s.HasIn (i :: is) t ↔
          t ∈ (s.store.collection.deref r).triples ∨ s.HasIn is t := by
        unfold HasIn
        simp only [List.mem_cons, exists_eq_or_imp, graph?_of_ref? hr, Option.some.injEq,
          exists_eq_left']
      rw [ih h, Graph.mem_merge, hcons, or_assoc]

/-- Named graphs have a merge if all of them are there. -/
theorem exists_mergeNamed (h : ∀ i ∈ is, ∃ r, s.store.collection.ref? (some i) = some r)
    (g : Graph) : ∃ m, ((mergeNamed g is).exec s).1 = .ok m := by
  induction is generalizing g with
  | nil => exact ⟨g, rfl⟩
  | cons i is ih =>
    obtain ⟨r, hr⟩ := h i List.mem_cons_self
    unfold mergeNamed
    rw [(readsOnly_requireGraph i).result_bind, result_requireGraph, hr]
    exact ih (fun j hj => h j (List.mem_cons_of_mem i hj)) _

/-- **A union is one graph.** Whether it is the graph of its only name or a merge made for it, the
scope of a union has one graph, and this has the triples of the named graphs. -/
theorem graphs_of_resolve_union (h : s.resolve (.union is) = .ok scope) :
    ∃ m, scope.graphs s.store.collection = [m] ∧ ∀ t, t ∈ m.triples ↔ s.HasIn is t := by
  rcases resolve_union_eq_ok h with ⟨i, r, rfl, hr, rfl⟩ | ⟨m, hm, rfl⟩
  · refine ⟨s.store.collection.deref r, rfl, fun t => ?_⟩
    unfold HasIn
    simp only [List.mem_singleton, exists_eq_left, graph?_of_ref? hr, Option.some.injEq,
      exists_eq_left']
  · refine ⟨m, rfl, fun t => (mem_mergeNamed hm).trans (or_iff_right ?_)⟩
    exact SortedSet.not_mem_empty

/-- There is a scope of a union if all its graphs are there. -/
theorem exists_resolve_union (h : ∀ i ∈ is, ∃ r, s.store.collection.ref? (some i) = some r) :
    ∃ scope, s.resolve (.union is) = .ok scope := by
  rcases resolve_union_cases is with ⟨i, rfl⟩ | hmerged
  · obtain ⟨r, hr⟩ := h i List.mem_cons_self
    exact ⟨.graph r, by rw [resolve_union_singleton, resolve_named, hr]⟩
  · obtain ⟨m, hm⟩ := exists_mergeNamed h (.empty none)
    refine ⟨.merged m, ?_⟩
    rw [hmerged, hm]
    rfl

end Session

end RdfStore
