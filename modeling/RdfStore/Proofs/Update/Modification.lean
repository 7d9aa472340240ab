import RdfStore.Proofs.Query.Scope
import RdfStore.Proofs.Store.Frame

/-!
# What a modification does

A modification computes everything before it changes anything: from the solutions of its pattern
in the session that it starts in, both templates are filled, and only then does the graph lose the
triples of the first and get those of the second (`StoreM.modification_effect`). A triple of both
is there afterwards.
-/

namespace RdfStore

namespace Collection

variable {c : Collection} {r : GraphRef}

/-! ## Removing triples under a name -/

theorem Coherent.retract (h : c.Coherent) (name : GraphName) (ts : List Triple) :
    (c.retract name ts).Coherent := by
  cases hr : c.ref? name with
  | none =>
    rw [retract_of_none hr]
    exact h
  | some r =>
    rw [retract_of_some hr]
    exact h.write r _

theorem Coherent.contents_retract (h : c.Coherent) (name : GraphName) (ts : List Triple) :
    (c.retract name ts).contents =
      Function.update c.contents name ((c.contents name).map (· \ ts.toFinset)) := by
  cases hr : c.ref? name with
  | none =>
    have hnone := contents_eq_none_iff.2 hr
    rw [retract_of_none hr, hnone, Option.map_none, ← hnone, Function.update_eq_self]
  | some r =>
    rw [retract_of_some hr, h.contents_write hr, contents_of_ref? hr, Graph.members_retractAll]
    rfl

theorem frame_retract (c : Collection) (name : GraphName) (ts : List Triple) :
    Frame {name} c (c.retract name ts) := by
  cases hr : c.ref? name with
  | none =>
    rw [retract_of_none hr]
    exact .refl _ c
  | some r =>
    rw [retract_of_some hr]
    exact frame_write hr _

/-! ## Adding triples under a name -/

/-- The collection in which the graph of a name has triples, whether or not it was there. -/
def assert (c : Collection) (name : GraphName) (ts : List Triple) : Collection :=
  match c.ref? name with
  | some r => c.write r ((c.deref r).assertAll ts).1
  | none => (c.enter (.ofTriples name ts)).2

theorem assert_of_none {name : GraphName} (h : c.ref? name = none) (ts : List Triple) :
    c.assert name ts = (c.enter (.ofTriples name ts)).2 := by
  unfold Collection.assert
  rw [h]

theorem assert_of_some {name : GraphName} (h : c.ref? name = some r) (ts : List Triple) :
    c.assert name ts = c.write r ((c.deref r).assertAll ts).1 := by
  unfold Collection.assert
  rw [h]

theorem Coherent.contents_assert (h : c.Coherent) (name : GraphName) (ts : List Triple) :
    (c.assert name ts).contents =
      Function.update c.contents name (some ((c.contents name).getD ∅ ∪ ts.toFinset)) := by
  cases hr : c.ref? name with
  | none =>
    have hname : (Graph.ofTriples name ts).name = name := Graph.name_assertAll
    have hmembers : (Graph.ofTriples name ts).members = ∅ ∪ ts.toFinset := Graph.members_assertAll
    rw [assert_of_none hr, h.contents_enter, hname, hmembers, contents_eq_none_iff.2 hr]
    rfl
  | some r =>
    rw [assert_of_some hr, h.contents_write hr, contents_of_ref? hr, Graph.members_assertAll]
    rfl

theorem frame_assert (c : Collection) (name : GraphName) (ts : List Triple) :
    Frame {name} c (c.assert name ts) := by
  cases hr : c.ref? name with
  | none =>
    have hname : (Graph.ofTriples name ts).name = name := Graph.name_assertAll
    have hframe := frame_enter c (.ofTriples name ts)
    rw [assert_of_none hr]
    rwa [hname] at hframe
  | some r =>
    rw [assert_of_some hr]
    exact frame_write hr _

/-- What is removed and then added is there, and under no other name does anything change. -/
theorem Coherent.contents_assert_retract (h : c.Coherent) (name : GraphName)
    (removed added : List Triple) :
    ((c.retract name removed).assert name added).contents = Function.update c.contents name
      (some ((c.contents name).getD ∅ \ removed.toFinset ∪ added.toFinset)) := by
  have hleft : ((c.contents name).map (· \ removed.toFinset)).getD ∅ =
      (c.contents name).getD ∅ \ removed.toFinset := by
    cases c.contents name with
    | none => simp
    | some S => rfl
  rw [(h.retract name removed).contents_assert, h.contents_retract, Function.update_self, hleft,
    Function.update_idem]

end Collection

/-- The session after the triples of templates for rows are replaced. Both templates are filled
before. -/
def Session.replaced (s : Session) (name : GraphName) (delete insert : List Pattern)
    (rows : List Row) : Session :=
  let removed := construct delete rows s.store.supply
  let added := construct insert rows removed.2
  (s.withSupply added.2).withCollection
    ((s.store.collection.retract name removed.1.triples.toList).assert name
      added.1.triples.toList)

namespace StoreM

variable {s : Session} {name : GraphName} {delete insert : List Pattern} {p : GraphPattern}
  {now : DateTime}

/-! ## Without reasoners -/

/-- Without reasoners a graph comes in as it is. -/
theorem exec_addGraph_unassisted {g : Graph} (hnone : s.store.reasoners = [])
    (hname : g.name ≠ some s.store.inferenceGraph) (merge : Bool) :
    (addGraph g merge).exec s = (enter g merge).exec s := by
  unfold addGraph
  rw [exec_bind_of_ok (exec_get s)]
  dsimp only
  rw [if_neg hname, hnone]
  cases s.store.settings.inferenceMode with
  | inline => rfl
  | externalized => rfl

theorem exec_insertInto_unassisted (hnone : s.store.reasoners = [])
    (hname : name ≠ some s.store.inferenceGraph) (ts : List Triple) :
    (insertInto name ts).exec s =
      (.ok (), s.withCollection (s.store.collection.assert name ts)) := by
  unfold insertInto
  rw [exec_bind_of_ok (exec_requireWritable_of_ne hname), exec_bind_of_ok (exec_collection s)]
  cases hr : s.store.collection.ref? name with
  | none =>
    have hgraph : (Graph.ofTriples name ts).name = name := Graph.name_assertAll
    have hadd : s.store.collection.add (.ofTriples name ts) true =
        .ok (s.store.collection.enter (.ofTriples name ts)) :=
      Collection.add_of_none (by rw [hgraph, hr])
    dsimp only
    rw [exec_bind, exec_addGraph_unassisted hnone (by rwa [hgraph]), exec_enter, hadd,
      Collection.assert_of_none hr]
    rfl
  | some r =>
    rw [Collection.assert_of_some hr]
    rfl

theorem exec_replaceTriples_unassisted (hnone : s.store.reasoners = [])
    (hname : name ≠ some s.store.inferenceGraph) (delete insert : List Pattern)
    (rows : List Row) : (replaceTriples name delete insert rows).exec s =
      (.ok (), s.replaced name delete insert rows) := by
  unfold replaceTriples
  rw [exec_bind_of_ok (exec_constructGraph delete rows s),
    exec_bind_of_ok (exec_constructGraph insert rows _), exec_bind_of_ok (exec_deleteFrom ..)]
  refine (exec_insertInto_unassisted ?_ ?_ _).trans ?_
  · exact hnone
  · exact hname
  · rfl

/-! ## Modifications -/

/-- A modification of the graph of inferred triples is refused. -/
theorem exec_modifyGraph_inferred
    (hthere : s.store.collection.contains (some s.store.inferenceGraph) = true) (t : Session) :
    (modifyGraph (some s.store.inferenceGraph) delete insert p now).exec s ≠ (.ok (), t) := by
  intro h
  by_cases hinsert : insert = []
  · rw [exec_modifyGraph (.inl hinsert), hthere, Bool.or_true, if_pos rfl] at h
    rcases hrows : (modifiedRows (some s.store.inferenceGraph) p now).exec s with ⟨e | rows, u⟩
    · rw [exec_bind_of_error hrows] at h
      exact nomatch h
    · -- The deletions are made, and then the insertion of nothing is refused.
      obtain rfl := (readsOnly_modifiedRows _ p now).eq_of_exec hrows
      obtain ⟨supply, ts, hexec⟩ :=
        exec_replaceTriples (some u.store.inferenceGraph) delete insert rows u
      rw [exec_bind_of_ok hrows, hexec, exec_insertInto_inferred (by rfl)] at h
      exact nomatch h
  · rw [exec_modifyGraph_closed hinsert rfl] at h
    exact nomatch h

/-- A modification of another graph solves its pattern and then replaces triples. -/
theorem exec_modifyGraph_unassisted (hstandard : s.UsesStandard) (hnone : s.store.reasoners = [])
    (hthere : (name.isNone || s.store.collection.contains name) = true)
    (hname : name ≠ some s.store.inferenceGraph) :
    (modifyGraph name delete insert p now).exec s =
      match ((solutions now (p.inGraph name)).exec s).1 with
      | .error e => (.error e, s)
      | .ok rows => (.ok (), s.replaced name delete insert rows) := by
  rw [exec_modifyGraph (.inr hname), if_pos hthere, exec_bind, exec_modifiedRows hstandard]
  rcases hrows : (solutions now (p.inGraph name)).exec s with ⟨e | rows, t⟩
  · obtain rfl := (readsOnly_solutions now _).eq_of_exec hrows
    rfl
  · obtain rfl := (readsOnly_solutions now _).eq_of_exec hrows
    exact exec_replaceTriples_unassisted hnone hname delete insert rows

/-- **A modification computes everything before it changes anything.** In a session without
reasoners and with the standard engine, whatever its scope, a modification of a graph that is
there, or of the default graph, ends if its pattern has solutions in the graph and the graph is not
that of inferred triples. Then both templates were filled from the solutions in the session before;
the graph lacks the triples of the first and has those of the second; and nothing else has changed,
neither another graph, be it of the collection or not, nor the scopes. -/
theorem modification_effect (now : DateTime) (s : Session) (name : GraphName)
    (delete insert : List Pattern) (p : GraphPattern) (hcoherent : s.store.collection.Coherent)
    (hstandard : s.UsesStandard) (hnone : s.store.reasoners = [])
    (hthere : name = none ∨ s.store.collection.contents name ≠ none) :
    ((∃ t, (runCommand now (.modify name delete insert p)).exec s = (.ok (), t)) ↔
      name ≠ some s.store.inferenceGraph ∧
        ∃ rows, (solutions now (p.inGraph name)).exec s = (.ok rows, s)) ∧
    ∀ t, (runCommand now (.modify name delete insert p)).exec s = (.ok (), t) →
      ∃ rows, (solutions now (p.inGraph name)).exec s = (.ok rows, s) ∧
        let removed := construct delete rows s.store.supply
        let added := construct insert rows removed.2
        ∃ c, t = (s.withSupply added.2).withCollection c ∧ t.handle = s.handle ∧
          c.contents = Function.update s.store.collection.contents name
            (some ((s.store.collection.contents name).getD ∅ \ removed.1.members ∪
              added.1.members)) ∧
          s.store.collection.Frame {name} c := by
  have hcontains : (name.isNone || s.store.collection.contains name) = true := by
    rcases hthere with rfl | hthere
    · rfl
    · rw [Ne, Collection.contents_eq_none_iff] at hthere
      exact Bool.or_eq_true_iff.2 (.inr (Option.isSome_iff_ne_none.2 hthere))
  by_cases hname : name = some s.store.inferenceGraph
  · have hrefused : ∀ t, (runCommand now (.modify name delete insert p)).exec s ≠ (.ok (), t) := by
      intro t
      subst hname
      exact exec_modifyGraph_inferred hcontains t
    refine ⟨⟨?_, ?_⟩, fun t ht => absurd ht (hrefused t)⟩
    · rintro ⟨t, ht⟩
      exact absurd ht (hrefused t)
    · rintro ⟨hother, -⟩
      exact absurd hname hother
  · have hexec : (runCommand now (.modify name delete insert p)).exec s = _ :=
      exec_modifyGraph_unassisted hstandard hnone hcontains hname
    rw [hexec]
    rcases hrows : (solutions now (p.inGraph name)).exec s with ⟨e | rows, t⟩
    · refine ⟨⟨?_, ?_⟩, fun t ht => nomatch ht⟩
      · rintro ⟨t, ht⟩
        exact nomatch ht
      · rintro ⟨-, rows, h⟩
        exact nomatch h
    · obtain rfl := (readsOnly_solutions now _).eq_of_exec hrows
      refine ⟨⟨fun _ => ⟨hname, rows, rfl⟩, fun _ => ⟨_, rfl⟩⟩, ?_⟩
      rintro u ⟨⟩
      refine ⟨rows, rfl, _, rfl, rfl, hcoherent.contents_assert_retract name _ _, ?_⟩
      exact (Collection.frame_retract _ name _).trans (Collection.frame_assert _ name _)

/-- Both parents in a family are deleted, and the younger one is inserted again together with an
elder. The triple that is deleted and inserted is there afterwards. -/
theorem modification_effect_family :
    let family : GraphName := some ⟨"urn:family"⟩
    let lineage : List Pattern := [childPattern "x" "y", childPattern "y" "z"]
    let elder : Pattern := ⟨.var "x", .fixed (.iri ⟨"urn:elder"⟩), .var "z"⟩
    let command : Command := .modify family lineage [childPattern "y" "z", elder] (.basic lineage)
    familySession.store.collection.Coherent ∧ familySession.UsesStandard ∧
    familySession.store.reasoners = [] ∧
    familySession.store.collection.contents family ≠ none ∧
    ∃ t, (runCommand noon command).exec familySession = (.ok (), t) ∧
      t.store.collection.contents family =
        some {⟨.iri ⟨"urn:bob"⟩, .iri ⟨"urn:parent"⟩, .iri ⟨"urn:cid"⟩⟩,
          ⟨.iri ⟨"urn:ann"⟩, .iri ⟨"urn:elder"⟩, .iri ⟨"urn:cid"⟩⟩} ∧
      familySession.store.collection.Frame {family} t.store.collection := by
  intro family lineage elder command
  have hcoherent : familySession.store.collection.Coherent :=
    (Collection.coherent_of_ref? (Collection.ref?_of_isEmpty rfl)).enter _
  have hthere : familySession.store.collection.contents family ≠ none := by decide +kernel
  obtain ⟨hends, heffect⟩ := modification_effect noon familySession family lineage
    [childPattern "y" "z", elder] (.basic lineage) hcoherent rfl rfl (.inr hthere)
  obtain ⟨t, ht⟩ := hends.2 ⟨by decide, _, rfl⟩
  have hcontents : ((runCommand noon command).exec familySession).2.store.collection.contents
      family = some {⟨.iri ⟨"urn:bob"⟩, .iri ⟨"urn:parent"⟩, .iri ⟨"urn:cid"⟩⟩,
        ⟨.iri ⟨"urn:ann"⟩, .iri ⟨"urn:elder"⟩, .iri ⟨"urn:cid"⟩⟩} := by decide +kernel
  rw [ht] at hcontents
  obtain ⟨rows, -, c, rfl, -, -, hframe⟩ := heffect t ht
  exact ⟨hcoherent, rfl, rfl, hthere, _, ht, hcontents, hframe⟩

end StoreM

end RdfStore
