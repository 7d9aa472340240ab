import RdfStore.Store.Inference
import RdfStore.Proofs.Store.Contents
import RdfStore.Proofs.Store.ReadOnly

/-!
# Adding a graph

Equations for the actions that bring graphs into a store: what comes in, where inferred triples
go, and when nothing happens at all.
-/

namespace RdfStore

namespace Session

/-- A new store in use. -/
def new : Session := ⟨.default .new, .new⟩

/-- The session with another mode of inference. -/
def inMode (s : Session) (mode : InferenceMode) : Session :=
  { s with store := { s.store with settings := { s.store.settings with inferenceMode := mode } } }

/-- The session with other reasoners. -/
def withReasoners (s : Session) (es : List Reasoner) : Session :=
  { s with store := { s.store with reasoners := es } }

end Session

/-! ## Filling a graph -/

namespace Collection

variable {c d : Collection} {g h : Graph} {name : GraphName} {merge : Bool}

/-- A graph that is asked for has the triples under its name, if there are any. -/
theorem members_getOrCreate : ((c.getOrCreate name).2.deref (c.getOrCreate name).1).members =
    (c.contents name).getD ∅ := by
  cases hr : c.ref? name with
  | none =>
    rw [getOrCreate_of_none hr, deref_enter, if_pos rfl, contents_eq_none_iff.2 hr]
    rfl
  | some r =>
    rw [getOrCreate_of_some hr, contents_of_ref? hr]
    rfl

/-- The collection in which the graph of a name is another one, whether or not it was there. -/
def fill (c : Collection) (name : GraphName) (g : Graph) : Collection :=
  (c.getOrCreate name).2.write (c.getOrCreate name).1 g

theorem Coherent.fill (hc : c.Coherent) (name : GraphName) (g : Graph) :
    (c.fill name g).Coherent := (hc.getOrCreate name).1.write _ g

theorem Coherent.contents_fill (hc : c.Coherent) (name : GraphName) (g : Graph) :
    (c.fill name g).contents = Function.update c.contents name (some g.members) := by
  obtain ⟨hcoherent, hr, hcontents⟩ := hc.getOrCreate name
  unfold Collection.fill
  rw [hcoherent.contents_write hr, hcontents, Function.update_idem]

/-- The collection in which triples have come to the graph of a name. -/
def absorb (c : Collection) (name : GraphName) (g : Graph) : Collection :=
  c.fill name (((c.getOrCreate name).2.deref (c.getOrCreate name).1).merge g).1

theorem Coherent.absorb (hc : c.Coherent) (name : GraphName) (g : Graph) :
    (c.absorb name g).Coherent := hc.fill name _

theorem Coherent.contents_absorb (hc : c.Coherent) (name : GraphName) (g : Graph) :
    (c.absorb name g).contents =
      Function.update c.contents name (some ((c.contents name).getD ∅ ∪ g.members)) := by
  unfold Collection.absorb
  rw [hc.contents_fill]
  refine congrArg (fun S => Function.update c.contents name (some S)) ?_
  exact Graph.members_assertAll.trans (congrArg (· ∪ g.members) members_getOrCreate)

/-- A graph comes in as it is under its own name, and all that is new besides was inferred. -/
theorem Coherent.add_apart {c' : Collection} {r : GraphRef} {inferred : Graph} {b : Bool}
    {reserved : GraphName} (hc : c.Coherent) (hadd : c.add g merge = .ok (r, c'))
    (hd : d = if b then c' else c'.absorb reserved inferred)
    (hnone : b = true → inferred.members = ∅) :
    d.Coherent ∧
      (∀ name ≠ reserved, d.contents name = Function.update c.contents g.name
        (some ((c.contents g.name).getD ∅ ∪ g.members)) name) ∧
      d.everything = c.everything ∪ g.members ∪ inferred.members := by
  obtain ⟨hc', hcontents⟩ := hc.add hadd
  have heverything := everything_of_update hcontents
  rw [← hcontents, ← heverything]
  cases b with
  | true =>
    obtain rfl : d = c' := hd
    rw [hnone rfl, Finset.coe_empty, Set.union_empty]
    exact ⟨hc', fun _ _ => rfl, rfl⟩
  | false =>
    obtain rfl : d = c'.absorb reserved inferred := hd
    have habsorb := hc'.contents_absorb reserved inferred
    refine ⟨hc'.absorb reserved inferred, fun name hname => ?_, everything_of_update habsorb⟩
    rw [habsorb, Function.update_of_ne hname]

/-- Whether a graph is refused depends on its name only. -/
theorem add_agree (hname : g.name = h.name)
    (hnone : c.contents g.name = none ↔ d.contents g.name = none) (merge : Bool) :
    (∃ e, c.add g merge = .error e ∧ d.add h merge = .error e) ∨
      ∃ a b, c.add g merge = .ok a ∧ d.add h merge = .ok b := by
  by_cases hfail : c.contents g.name ≠ none ∧ merge = false
  · refine .inl ⟨⟨g.name⟩, add_eq_error_iff.2 ⟨hfail.1, hfail.2, rfl⟩, ?_⟩
    exact add_eq_error_iff.2 ⟨hname ▸ mt hnone.2 hfail.1, hfail.2, by rw [hname]⟩
  · refine .inr ?_
    cases hc : c.add g merge with
    | error e =>
      obtain ⟨h₁, h₂, -⟩ := add_eq_error_iff.1 hc
      exact absurd ⟨h₁, h₂⟩ hfail
    | ok a =>
      cases hd : d.add h merge with
      | error e =>
        obtain ⟨h₁, h₂, -⟩ := add_eq_error_iff.1 hd
        exact absurd ⟨mt hnone.1 (hname ▸ h₁), h₂⟩ hfail
      | ok b => exact ⟨a, b, rfl, rfl⟩

end Collection

namespace StoreM

variable {s : Session} {g : Graph}

/-! ## Equations -/

theorem exec_auxiliary (s : Session) : auxiliary.exec s =
    (.ok (s.store.collection.getOrCreate (some s.store.inferenceGraph)).1,
      s.withCollection (s.store.collection.getOrCreate (some s.store.inferenceGraph)).2) := rfl

theorem exec_writeRef (r : GraphRef) (g : Graph) (s : Session) :
    (writeRef r g).exec s = (.ok (), s.withCollection (s.store.collection.write r g)) := rfl

theorem exec_enter (g : Graph) (merge : Bool) (s : Session) : (enter g merge).exec s =
    match s.store.collection.add g merge with
    | .ok (r, c) => (.ok r, s.withCollection c)
    | .error e => (.error (.graphExists e), s) := by
  unfold enter
  rw [exec_bind_of_ok (exec_collection s), exec_bind, exec_lift]
  rcases s.store.collection.add g merge with e | ⟨r, c⟩
  · rfl
  · rfl

theorem exec_addGraph_reserved (hname : g.name = some s.store.inferenceGraph) (merge : Bool) :
    (addGraph g merge).exec s = (.error (.reserved s.store.inferenceGraph), s) := by
  unfold addGraph
  rw [exec_bind_of_ok (exec_get s)]
  dsimp only
  rw [if_pos hname]
  rfl

/-- Inferred triples come in as a part of the graph. -/
theorem exec_addGraph_inline (hname : g.name ≠ some s.store.inferenceGraph)
    (hmode : s.store.settings.inferenceMode = .inline) (merge : Bool) :
    (addGraph g merge).exec s =
      match extendAll s.store.reasoners g with
      | .error e => (.error (.reasoner e), s)
      | .ok g' => (enter g' merge).exec s := by
  unfold addGraph
  rw [exec_bind_of_ok (exec_get s)]
  dsimp only
  rw [if_neg hname, hmode]
  dsimp only
  rw [exec_bind, exec_lift]
  cases extendAll s.store.reasoners g with
  | error e => rfl
  | ok g' => rfl

/-- Inferred triples come in after the graph, under the reserved name; without reasoners that name
is not touched. -/
theorem exec_addGraph_externalized (hname : g.name ≠ some s.store.inferenceGraph)
    (hmode : s.store.settings.inferenceMode = .externalized) (merge : Bool) :
    (addGraph g merge).exec s =
      match deriveAll g s.store.reasoners (.empty (some s.store.inferenceGraph)) with
      | .error e => (.error (.reasoner e), s)
      | .ok inferred =>
        match s.store.collection.add g merge with
        | .error e => (.error (.graphExists e), s)
        | .ok (r, c) =>
          (.ok r, s.withCollection (if s.store.reasoners.isEmpty then c
            else c.absorb (some s.store.inferenceGraph) inferred)) := by
  unfold addGraph
  rw [exec_bind_of_ok (exec_get s)]
  dsimp only
  rw [if_neg hname, hmode]
  dsimp only
  split
  · next hnone =>
    rw [List.isEmpty_iff.1 hnone, exec_enter]
    rcases s.store.collection.add g merge with e | ⟨r, c⟩
    · rfl
    · rfl
  · rw [exec_bind, exec_lift]
    cases deriveAll g s.store.reasoners (.empty (some s.store.inferenceGraph)) with
    | error e => rfl
    | ok inferred =>
      show (enter g merge >>= _).exec s = _
      rw [exec_bind, exec_enter]
      rcases s.store.collection.add g merge with e | ⟨r, c⟩
      · rfl
      · rfl

end StoreM

end RdfStore
