import RdfStore.Proofs.Query.Solving
import RdfStore.Proofs.Row.Merging

/-!
# Patterns in named graphs

What a pattern comes to inside a named graph depends on the store and the default graph, and not on
where the handle stands: neither its current scope nor the scopes to return to have a part in it.
A variable in place of the name puts together what the pattern comes to in each named graph, joined
with the name (`Session.solve_graph_var_iff`).
-/

namespace RdfStore

open StoreM

namespace Session

/-- The session with its handle in another scope, and with other scopes to return to. -/
def seenFrom (s : Session) (scope : Scope) (stack : List Scope) : Session :=
  { s with handle := { s.handle with current := scope, stack } }

/-- The names of the named graphs, in the order of the collection. -/
def namedGraphs (s : Session) : List Iri := s.store.collection.names.filterMap id

/-! ## The stack of scopes -/

section Scopes

variable (s : Session) (now : DateTime) (scope : Scope) (stack stack' : List Scope)

theorem mergeNamed_seenFrom (g : Graph) (is : List Iri) :
    ((mergeNamed g is).exec (s.seenFrom scope stack)).1 = ((mergeNamed g is).exec s).1 := by
  induction is generalizing g with
  | nil => rfl
  | cons i is ih =>
    unfold mergeNamed
    rw [(readsOnly_requireGraph i).result_bind, (readsOnly_requireGraph i).result_bind,
      result_requireGraph, result_requireGraph]
    have hstore : (s.seenFrom scope stack).store = s.store := rfl
    rw [hstore]
    cases s.store.collection.ref? (some i) with
    | none => rfl
    | some r => exact ih (g.merge (s.store.collection.deref r)).1

/-- A target means the same wherever the handle stands. -/
theorem resolve_seenFrom (target : ScopeTarget) :
    (s.seenFrom scope stack).resolve target = s.resolve target := by
  cases target with
  | default => rw [resolve_default, resolve_default]; rfl
  | graph r => rfl
  | named i => rw [resolve_named, resolve_named]; rfl
  | union is =>
    rcases resolve_union_cases is with ⟨i, rfl⟩ | hmerged
    · rw [resolve_union_singleton, resolve_union_singleton, resolve_named, resolve_named]
      rfl
    · rw [hmerged, hmerged, mergeNamed_seenFrom]

/-- Solving does not look at the scopes to return to. By induction on the pattern: a part inside
another scope finds one scope more on either stack. -/
theorem solve_stack (p : GraphPattern) :
    (s.seenFrom scope stack).solve now p = (s.seenFrom scope stack').solve now p := by
  induction p generalizing scope stack stack' with
  | basic ps => rfl
  | join l r ihl ihr => rw [solve_join, solve_join, ihl _ stack stack', ihr _ stack stack']
  | leftJoin l r condition ihl ihr =>
    rw [solve_leftJoin, solve_leftJoin, ihl _ stack stack', ihr _ stack stack']
  | union l r ihl ihr => rw [solve_union, solve_union, ihl _ stack stack', ihr _ stack stack']
  | filter e p ih => rw [solve_filter, solve_filter, ih _ stack stack']
  | extend p x e ih => rw [solve_extend, solve_extend, ih _ stack stack']
  | graph target p ih =>
    have hinside (target : ScopeTarget) : (s.seenFrom scope stack).solveIn now target p =
        (s.seenFrom scope stack').solveIn now target p := by
      unfold solveIn
      rw [resolve_seenFrom, resolve_seenFrom]
      exact congrArg (_ >>= ·) (funext fun inner => ih inner (scope :: stack) (scope :: stack'))
    cases target with
    | default => rw [solve_graph_default, solve_graph_default, hinside]
    | named i => rw [solve_graph_named, solve_graph_named, hinside]
    | union is => rw [solve_graph_union, solve_graph_union, hinside]
    | var x =>
      rw [solve_graph_var, solve_graph_var]
      show (s.seenFrom scope stack).solveEach now x p s.namedGraphs =
        (s.seenFrom scope stack').solveEach now x p s.namedGraphs
      induction s.namedGraphs with
      | nil => rfl
      | cons i is ihis =>
        unfold solveEach
        rw [hinside, ihis]

/-- Inside a target it makes no difference where the handle has come from. -/
theorem solveIn_seenFrom (target : ScopeTarget) (p : GraphPattern) :
    (s.seenFrom scope stack).solveIn now target p = s.solveIn now target p := by
  unfold solveIn
  rw [resolve_seenFrom]
  exact congrArg (_ >>= ·) (funext fun inner =>
    s.solve_stack now inner (scope :: stack) (s.handle.current :: s.handle.stack) p)

end Scopes

/-! ## One graph after the other -/

variable {s : Session} {now : DateTime} {x : String} {p : GraphPattern} {e : StoreError}

/-- The first graph in which the pattern fails decides the error, and the graphs before it have
solutions. -/
theorem solveEach_eq_error_iff {is : List Iri} : s.solveEach now x p is = .error e ↔
    ∃ before i after, is = before ++ i :: after ∧
      (∀ j ∈ before, ∃ rows, s.solveIn now (.named j) p = .ok rows) ∧
      s.solveIn now (.named i) p = .error e := by
  induction is with
  | nil =>
    refine iff_of_false (fun h => by cases h) ?_
    rintro ⟨before, i, after, h, -⟩
    exact absurd h.symm (List.append_ne_nil_of_right_ne_nil before (List.cons_ne_nil i after))
  | cons i is ih =>
    unfold solveEach
    simp only [List.cons_eq_append_iff]
    cases hi : s.solveIn now (.named i) p with
    | error e' =>
      constructor
      · intro h
        exact ⟨[], i, is, .inl ⟨rfl, rfl⟩, List.forall_mem_nil _, hi.trans h⟩
      · rintro ⟨before, j, after, ⟨rfl, h⟩ | ⟨before', rfl, -⟩, hbefore, hj⟩
        · obtain ⟨rfl, rfl⟩ := List.cons.inj h
          exact hi.symm.trans hj
        · obtain ⟨rows, hrows⟩ := hbefore i List.mem_cons_self
          cases hi.symm.trans hrows
    | ok rows =>
      have hrest : (Except.ok rows >>= fun rows => s.solveEach now x p is >>= fun rest =>
          Except.ok (bindRows x (.iri i) rows ++ rest)) = .error e ↔
          s.solveEach now x p is = .error e := by
        cases s.solveEach now x p is with
        | error e' => exact Iff.rfl
        | ok rest => exact iff_of_false (fun h => by cases h) (fun h => by cases h)
      refine hrest.trans (ih.trans ?_)
      constructor
      · rintro ⟨before, j, after, rfl, hbefore, hj⟩
        refine ⟨i :: before, j, after, .inr ⟨before, rfl, rfl⟩, ?_, hj⟩
        exact List.forall_mem_cons.2 ⟨⟨rows, hi⟩, hbefore⟩
      · rintro ⟨before, j, after, ⟨rfl, h⟩ | ⟨before', rfl, h⟩, hbefore, hj⟩
        · obtain ⟨rfl, rfl⟩ := List.cons.inj h
          cases hi.symm.trans hj
        · exact ⟨before', j, after, h, (List.forall_mem_cons.1 hbefore).2, hj⟩

/-- **A variable stands for every named graph.** The solutions of a pattern in the graphs that a
variable names are, graph by graph in the order of the collection, those of the pattern in the
graph that are compatible with the name, merged with it. If there are graphs in which the pattern
fails, the first of them decides the error. And what the pattern comes to in a named graph is the
same from every scope of the handle and with all scopes to return to. -/
theorem solve_graph_var_iff (now : DateTime) (s : Session) (x : String) (p : GraphPattern) :
    (∀ rows, s.solve now (.graph (.var x) p) = .ok rows ↔ ∃ found : Iri → List Row,
      (∀ i ∈ s.namedGraphs, s.solve now (.graph (.named i) p) = .ok (found i)) ∧
        rows = s.namedGraphs.flatMap fun i =>
          (found i).filterMap (·.merge? (SortedMap.empty.insert x (.iri i)))) ∧
    (∀ e, s.solve now (.graph (.var x) p) = .error e ↔ ∃ before i after,
      s.namedGraphs = before ++ i :: after ∧
        (∀ j ∈ before, ∃ rows, s.solve now (.graph (.named j) p) = .ok rows) ∧
        s.solve now (.graph (.named i) p) = .error e) ∧
    ∀ scope stack i, (s.seenFrom scope stack).solve now (.graph (.named i) p) =
      s.solve now (.graph (.named i) p) := by
  have hvar : s.solve now (.graph (.var x) p) = s.solveEach now x p s.namedGraphs :=
    s.solve_graph_var now p x
  simp only [hvar, solve_graph_named]
  refine ⟨fun rows => ?_, fun e => solveEach_eq_error_iff, fun scope stack i => ?_⟩
  · have hbind (i : Iri) (rows : List Row) : bindRows x (.iri i) rows =
        rows.filterMap (·.merge? (SortedMap.empty.insert x (.iri i))) :=
      congrArg (List.filterMap · rows) (funext (Row.bind?_eq_merge? x (.iri i)))
    rw [solveEach_eq_ok_iff]
    constructor
    · rintro ⟨hall, rfl⟩
      exact ⟨s.rowsIn now p, hall, by simp only [hbind]⟩
    · rintro ⟨found, hall, rfl⟩
      have hfound : ∀ i ∈ s.namedGraphs, s.rowsIn now p i = found i := by
        intro i hi
        unfold rowsIn
        rw [hall i hi]
        rfl
      refine ⟨fun i hi => (hall i hi).trans (congrArg _ (hfound i hi).symm), ?_⟩
      refine List.flatMap_congr fun i hi => ?_
      rw [hbind, hfound i hi]
  · exact s.solveIn_seenFrom now scope stack (.named i) p

end Session

end RdfStore
