import RdfStore.Update.Basic
import RdfStore.Proofs.Store.Contents
import RdfStore.Proofs.Store.Failure

/-!
# What a failing command leaves behind

A command that fails leaves names, triples and scopes as they were, with one exception: a
modification of the graph of inferred triples that has nothing to insert is refused only after
its deletions are made (`StoreM.agrees_of_runCommand_error_iff`).
-/

namespace RdfStore

/-! ## Sessions that agree -/

/-- The collection in which the graph of a name lacks triples. -/
def Collection.retract (c : Collection) (name : GraphName) (ts : List Triple) : Collection :=
  match c.ref? name with
  | some r => c.write r ((c.deref r).retractAll ts).1
  | none => c

namespace Session

/-- The triples of the graph of a name, if there is one. -/
def triples? (s : Session) (name : GraphName) : Option TripleSet :=
  (s.store.collection.graph? name).map Graph.triples

theorem triples?_eq (s : Session) (name : GraphName) : s.triples? name =
    (s.store.collection.ref? name).map fun r => (s.store.collection.deref r).triples :=
  Option.map_map _ _ _

/-- Two sessions have the same names of graphs, the same triples in each graph, and the same
scopes. -/
structure Agrees (s t : Session) : Prop where
  /-- The names are the same. -/
  names : s.store.collection.names = t.store.collection.names
  /-- The triples are the same. -/
  triples : ∀ name, s.triples? name = t.triples? name
  /-- The scopes are the same. -/
  handle : s.handle = t.handle

theorem Agrees.refl (s : Session) : s.Agrees s := ⟨rfl, fun _ => rfl, rfl⟩

/-- Blank nodes that are taken from the supply leave no other trace. -/
theorem agrees_withSupply (s : Session) (u : Supply) : s.Agrees (s.withSupply u) :=
  ⟨rfl, fun _ => rfl, rfl⟩

end Session

namespace Collection

variable {c : Collection} {r : GraphRef} {name : GraphName} {ts : List Triple}

theorem retract_of_none (h : c.ref? name = none) : c.retract name ts = c := by
  unfold retract
  rw [h]

theorem retract_of_some (h : c.ref? name = some r) :
    c.retract name ts = c.write r ((c.deref r).retractAll ts).1 := by
  unfold retract
  rw [h]

/-- No graph comes or goes by removing triples. -/
@[simp] theorem ref?_retract {name' : GraphName} :
    (c.retract name ts).ref? name' = c.ref? name' := by
  unfold retract
  split
  · rfl
  · rfl

end Collection

theorem Graph.mem_retractAll {g : Graph} {ts : List Triple} {t : Triple} :
    t ∈ (g.retractAll ts).1.triples ↔ t ∈ g.triples ∧ t ∉ ts := by
  rw [← mem_members, members_retractAll, Finset.mem_sdiff, mem_members, List.mem_toFinset]

/-- Removing triples that a graph lacks changes nothing. -/
theorem Graph.triples_retractAll_eq {g : Graph} {ts : List Triple} (h : ∀ t ∈ ts, t ∉ g.triples) :
    (g.retractAll ts).1.triples = g.triples :=
  SortedSet.ext_mem fun t => mem_retractAll.trans ⟨And.left, fun ht => ⟨ht, fun hts => h t hts ht⟩⟩

/-- Removing triples from the graph of a name shows just if the graph has one of them. -/
theorem Session.agrees_retract_iff (s : Session) (u : Supply) (name : GraphName)
    (ts : List Triple) :
    s.Agrees ((s.withSupply u).withCollection (s.store.collection.retract name ts)) ↔
      ∀ g, s.store.collection.graph? name = some g → ∀ t ∈ ts, t ∉ g.triples := by
  cases hr : s.store.collection.ref? name with
  | none =>
    have hgraph : s.store.collection.graph? name = none := by simp [Collection.graph?, hr]
    rw [hgraph, Collection.retract_of_none hr]
    exact ⟨fun _ => nofun, fun _ => s.agrees_withSupply u⟩
  | some r =>
    have hgraph : s.store.collection.graph? name = some (s.store.collection.deref r) := by
      simp [Collection.graph?, hr]
    rw [hgraph, Collection.retract_of_some hr]
    constructor
    · rintro h g ⟨⟩ t hts ht
      -- A graph that has a triple is written, so the triple would be gone.
      have hlt := Collection.index_lt_of_mem ht
      have htriples := h.triples name
      rw [triples?_eq, triples?_eq, collection_withCollection, Collection.ref?_write, hr,
        Option.map_some, Option.map_some, Collection.deref_write, if_pos ⟨rfl, hlt⟩] at htriples
      rw [Option.some.inj htriples] at ht
      exact (Graph.mem_retractAll.1 ht).2 hts
    · intro h
      have hgone := Graph.triples_retractAll_eq (h _ rfl)
      refine ⟨rfl, fun name' => ?_, rfl⟩
      rw [triples?_eq, triples?_eq, collection_withCollection, Collection.ref?_write]
      refine congrArg (Option.map · _) (funext fun r' => ?_)
      rw [Collection.deref_write]
      split
      · next hr' => rw [hgone, hr'.1]
      · rfl

namespace StoreM

/-! ## Steps of commands -/

theorem exec_requireWritable (name : GraphName) (s : Session) :
    (requireWritable name).exec s =
      if name = some s.store.inferenceGraph then (.error (.reserved s.store.inferenceGraph), s)
      else (.ok (), s) := by
  unfold requireWritable
  rw [exec_bind_of_ok (exec_get s)]
  dsimp only
  split
  · rfl
  · rfl

theorem exec_requireWritable_of_ne {name : GraphName} {s : Session}
    (h : name ≠ some s.store.inferenceGraph) : (requireWritable name).exec s = (.ok (), s) := by
  rw [exec_requireWritable, if_neg h]

theorem exec_deleteFrom (name : GraphName) (ts : List Triple) (s : Session) :
    (deleteFrom name ts).exec s =
      (.ok (), s.withCollection (s.store.collection.retract name ts)) := by
  unfold deleteFrom Collection.retract
  rw [exec_bind_of_ok (exec_collection s)]
  cases s.store.collection.ref? name with
  | none => rfl
  | some r => rfl

theorem exec_constructGraph (template : List Pattern) (rows : List Row) (s : Session) :
    (constructGraph template rows).exec s =
      (.ok (construct template rows s.store.supply).1,
        s.withSupply (construct template rows s.store.supply).2) := rfl

theorem readsOnly_requireWritable (name : GraphName) : (requireWritable name).ReadsOnly := by
  intro s
  rw [exec_requireWritable]
  split
  · rfl
  · rfl

theorem atomic_insertInto (name : GraphName) (ts : List Triple) : (insertInto name ts).Atomic := by
  refine (readsOnly_requireWritable name).bind_atomic fun _ => ?_
  refine readsOnly_collection.bind_atomic fun c => ?_
  cases c.ref? name with
  | none => exact (atomic_addGraph _ true).bind_infallible fun _ => infallible_pure ()
  | some r =>
    exact readsOnly_collection.bind_atomic fun c => (infallible_writeRef r _).atomic

theorem exec_insertInto_inferred {name : GraphName} {s : Session}
    (h : name = some s.store.inferenceGraph) (ts : List Triple) :
    (insertInto name ts).exec s = (.error (.reserved s.store.inferenceGraph), s) := by
  unfold insertInto
  refine exec_bind_of_error ?_
  rw [exec_requireWritable, if_pos h]

/-- Inserting into a graph that is there and writable cannot fail. -/
theorem exec_insertInto_writable {name : GraphName} {s : Session} {r : GraphRef}
    (h : name ≠ some s.store.inferenceGraph) (hr : s.store.collection.ref? name = some r)
    (ts : List Triple) : ∃ t, (insertInto name ts).exec s = (.ok (), t) := by
  unfold insertInto
  rw [exec_bind_of_ok (exec_requireWritable_of_ne h), exec_bind_of_ok (exec_collection s), hr]
  exact ⟨_, rfl⟩

/-! ## Modifications -/

/-- The rows that a modification is made for are read. -/
theorem readsOnly_modifiedRows (name : GraphName) (p : GraphPattern) (now : DateTime) :
    (modifiedRows name p now).ReadsOnly := by
  unfold modifiedRows
  have hform (template : List Pattern) : QueryForm.select none false ≠ .construct template := nofun
  refine (readsOnly_query _ now hform).bind fun a => ?_
  cases a with
  | table t => exact readsOnly_pure _
  | boolean b => exact readsOnly_throw _
  | graph g => exact readsOnly_throw _

/-- What a modification does with its rows, up to the last step. -/
theorem exec_replaceTriples (name : GraphName) (delete insert : List Pattern) (rows : List Row)
    (s : Session) : ∃ u ts, (replaceTriples name delete insert rows).exec s =
      (insertInto name ts).exec ((s.withSupply u).withCollection (s.store.collection.retract name
        (construct delete rows s.store.supply).1.triples.toList)) := by
  unfold replaceTriples
  rw [exec_bind_of_ok (exec_constructGraph delete rows s),
    exec_bind_of_ok (exec_constructGraph insert rows _), exec_bind_of_ok (exec_deleteFrom ..)]
  exact ⟨_, _, rfl⟩

/-- Where insertion is allowed, replacing triples fails only before it has changed a graph. -/
theorem exec_replaceTriples_error {name : GraphName} {delete insert : List Pattern}
    {rows : List Row} {s t : Session} {e : StoreError} (hname : name ≠ some s.store.inferenceGraph)
    (h : (replaceTriples name delete insert rows).exec s = (.error e, t)) :
    ∃ u, t = s.withSupply u := by
  obtain ⟨u, ts, hexec⟩ := exec_replaceTriples name delete insert rows s
  rw [hexec] at h
  generalize (construct delete rows s.store.supply).1.triples.toList = removed at h
  cases hr : s.store.collection.ref? name with
  | none =>
    -- Without a graph nothing is deleted, and adding one is atomic.
    rw [Collection.retract_of_none hr] at h
    exact ⟨u, atomic_insertInto name ts _ e t h⟩
  | some r =>
    -- Deletion leaves the graph where it was, so insertion finds it.
    have hstill : (s.store.collection.retract name removed).ref? name = some r :=
      Collection.ref?_retract.trans hr
    obtain ⟨t', ht'⟩ := exec_insertInto_writable
      (s := (s.withSupply u).withCollection (s.store.collection.retract name removed))
      hname hstill ts
    rw [ht'] at h
    exact nomatch h

/-- A modification that passes the first check goes on if its graph is there. -/
theorem exec_modifyGraph {name : GraphName} {delete insert : List Pattern} {s : Session}
    (h : insert = [] ∨ name ≠ some s.store.inferenceGraph) (p : GraphPattern) (now : DateTime) :
    (modifyGraph name delete insert p now).exec s =
      if name.isNone || s.store.collection.contains name then
        (modifiedRows name p now >>= replaceTriples name delete insert).exec s
      else (.ok (), s) := by
  have hrest : (do
        if name.isNone || (← collection).contains name then
          replaceTriples name delete insert (← modifiedRows name p now)).exec s =
      if name.isNone || s.store.collection.contains name then
        (modifiedRows name p now >>= replaceTriples name delete insert).exec s
      else (.ok (), s) := by
    rw [exec_bind_of_ok (exec_collection s)]
    split
    · rfl
    · rfl
  unfold modifyGraph
  dsimp only
  split
  · next hi =>
    have hne : insert ≠ [] := by
      rintro rfl
      exact nomatch hi
    rw [exec_bind_of_ok (exec_requireWritable_of_ne (h.resolve_left hne))]
    exact hrest
  · exact hrest

/-- A modification that has something to insert is refused for the graph of inferred triples. -/
theorem exec_modifyGraph_closed {name : GraphName} {delete insert : List Pattern} {s : Session}
    (hinsert : insert ≠ []) (hname : name = some s.store.inferenceGraph) (p : GraphPattern)
    (now : DateTime) : (modifyGraph name delete insert p now).exec s =
      (.error (.reserved s.store.inferenceGraph), s) := by
  have hne : (!insert.isEmpty) = true := by simp [hinsert]
  unfold modifyGraph
  rw [if_pos hne]
  refine exec_bind_of_error ?_
  rw [exec_requireWritable, if_pos hname]

/-! ## Commands -/

/-- A graph that is not there is not removed, and then nothing is written before the failure. -/
theorem atomic_drop (now : DateTime) (name : GraphName) (silent : Bool) :
    (runCommand now (.drop name silent)).Atomic := by
  intro s e t h
  have hremove : (removeGraph name).exec s =
      (.ok (s.store.collection.remove name).1.isSome,
        s.withCollection (s.store.collection.remove name).2) := rfl
  unfold runCommand at h
  rw [exec_bind_of_ok hremove] at h
  unfold Collection.remove at h
  cases hr : s.store.collection.ref? name with
  | none =>
    rw [hr] at h
    cases silent with
    | true => exact nomatch h
    | false =>
      cases h
      rfl
  | some r =>
    rw [hr] at h
    exact nomatch h

/-- Every command but a modification is atomic. -/
theorem atomic_runCommand (now : DateTime) {command : Command}
    (h : ∀ name delete insert p, command ≠ .modify name delete insert p) :
    (runCommand now command).Atomic := by
  cases command with
  | insertData name ts => exact atomic_insertInto name ts
  | deleteData name ts =>
    intro s e t hs
    rw [runCommand, exec_deleteFrom] at hs
    exact nomatch hs
  | modify name delete insert p => exact absurd rfl (h name delete insert p)
  | clear name =>
    refine readsOnly_collection.bind_atomic fun c => ?_
    cases c.ref? name with
    | none => exact (infallible_pure ()).atomic
    | some r => exact readsOnly_collection.bind_atomic fun c => (infallible_writeRef r _).atomic
  | create i silent =>
    refine readsOnly_collection.bind_atomic fun c => ?_
    split
    · split
      · exact (readsOnly_throw _).atomic
      · exact (infallible_pure ()).atomic
    · exact (atomic_addGraph _ false).bind_infallible fun _ => infallible_pure ()
  | drop name silent => exact atomic_drop now name silent

/-- The command is a modification of the graph of inferred triples that has nothing to insert and
deletes a triple that is there. -/
def ErasesInferred (now : DateTime) (s : Session) : Command → Prop
  | .modify name delete insert p =>
    insert = [] ∧ name = some s.store.inferenceGraph ∧
      ∃ g rows, s.store.collection.graph? name = some g ∧
        ((modifiedRows name p now).exec s).1 = .ok rows ∧
        ∃ t ∈ (construct delete rows s.store.supply).1.triples, t ∈ g.triples
  | _ => False

/-- A modification of another graph fails before it has changed a graph. -/
theorem exec_modifyGraph_error {name : GraphName} {delete insert : List Pattern}
    {p : GraphPattern} {now : DateTime} {s t : Session} {e : StoreError}
    (hname : name ≠ some s.store.inferenceGraph)
    (h : (modifyGraph name delete insert p now).exec s = (.error e, t)) :
    ∃ u, t = s.withSupply u := by
  rw [exec_modifyGraph (.inr hname)] at h
  split at h
  · rcases (readsOnly_modifiedRows name p now).bind_error_iff.1 h with ⟨-, rfl⟩ | ⟨rows, -, hfail⟩
    · exact ⟨t.store.supply, rfl⟩
    · exact exec_replaceTriples_error hname hfail
  · exact nomatch h

/-- Without insertions, a modification of the graph of inferred triples fails at its end or has no
rows to be made for. -/
theorem agrees_of_modifyGraph_error_iff {delete : List Pattern} {p : GraphPattern}
    {now : DateTime} {s t : Session} {e : StoreError}
    (h : (modifyGraph (some s.store.inferenceGraph) delete [] p now).exec s = (.error e, t)) :
    s.Agrees t ↔ ¬ ErasesInferred now s (.modify (some s.store.inferenceGraph) delete [] p) := by
  rw [exec_modifyGraph (.inl rfl)] at h
  split at h
  · rcases (readsOnly_modifiedRows _ p now).bind_error_iff.1 h with
      ⟨hfail, rfl⟩ | ⟨rows, hrows, hfail⟩
    · refine ⟨?_, fun _ => .refl t⟩
      rintro - ⟨-, -, g, rows, -, hrows, -⟩
      rw [hfail] at hrows
      exact nomatch hrows
    · -- The deletions are made, and only then is the empty insertion refused.
      obtain ⟨u, ts, hexec⟩ := exec_replaceTriples (some s.store.inferenceGraph) delete [] rows s
      rw [hexec, exec_insertInto_inferred (by rfl)] at hfail
      cases hfail
      rw [Session.agrees_retract_iff]
      constructor
      · rintro hnone ⟨-, -, g, rows', hg, hrows', t, ht, hgt⟩
        rw [hrows] at hrows'
        cases hrows'
        exact hnone g hg t ht hgt
      · intro hnot g hg t ht hgt
        exact hnot ⟨rfl, rfl, g, rows, hg, by rw [hrows], t, ht, hgt⟩
  · exact nomatch h

/-- **Failing commands, exactly.** A command that fails leaves the names, the triples and the
scopes as they were, unless it erases inferred triples; and then it does not. -/
theorem agrees_of_runCommand_error_iff (now : DateTime) (command : Command) (s t : Session)
    (e : StoreError) (h : (runCommand now command).exec s = (.error e, t)) :
    s.Agrees t ↔ ¬ ErasesInferred now s command := by
  by_cases hmodify : ∃ name delete insert p, command = .modify name delete insert p
  · obtain ⟨name, delete, insert, p, rfl⟩ := hmodify
    by_cases hname : name = some s.store.inferenceGraph
    · by_cases hinsert : insert = []
      · subst hinsert hname
        exact agrees_of_modifyGraph_error_iff h
      · rw [runCommand, exec_modifyGraph_closed hinsert hname] at h
        cases h
        exact ⟨fun _ herases => hinsert herases.1, fun _ => .refl s⟩
    · obtain ⟨u, rfl⟩ := exec_modifyGraph_error hname h
      exact ⟨fun _ herases => hname herases.2.1, fun _ => s.agrees_withSupply u⟩
  · have hother : ∀ name delete insert p, command ≠ .modify name delete insert p :=
      fun name delete insert p hc => hmodify ⟨name, delete, insert, p, hc⟩
    obtain rfl := atomic_runCommand now hother s e t h
    refine ⟨fun _ herases => ?_, fun _ => .refl t⟩
    cases command with
    | modify name delete insert p => exact hother name delete insert p rfl
    | _ => exact herases

/-! ## A store that keeps inferred triples apart -/

/-- A reasoner that notes of every triple that it was seen. -/
def seeing : Reasoner := .ofConclusions 0 "seeing" fun g =>
  g.triples.toList.map fun t => ⟨t.subject, .iri ⟨"urn:seen"⟩, t.object⟩

/-- A new store with this reasoner, whose inferred triples have a graph of their own. -/
def seeingStore : Store :=
  { Store.default .new with
    settings := { Settings.default with inferenceMode := .externalized }
    reasoners := [seeing] }

/-- The session after a graph of one triple has been added. -/
def seeingSession : Session :=
  ((addGraph (.ofTriples (some ⟨"urn:facts"⟩)
    [⟨.iri ⟨"urn:a"⟩, .iri ⟨"urn:knows"⟩, .iri ⟨"urn:b"⟩⟩]) false).exec ⟨seeingStore, .new⟩).2

/-- Deletes what was inferred, and inserts nothing. -/
def forgetSeen : Command :=
  let seen : Pattern := ⟨.var "s", .fixed (.iri ⟨"urn:seen"⟩), .var "o"⟩
  .modify (some seeingStore.inferenceGraph) [seen] [] (.basic [seen])

/-- Noon of a day. -/
def noon : DateTime := ⟨2024, 1, 1, 12, 0, 0, 0, 0⟩

/-- Creating a graph that is there fails, and nothing has changed. -/
theorem create_taken_agrees : ∃ e t,
    (runCommand noon (.create ⟨"urn:facts"⟩ false)).exec seeingSession = (.error e, t) ∧
      seeingSession.Agrees t := by
  have hfail : (runCommand noon (.create ⟨"urn:facts"⟩ false)).exec seeingSession =
      (.error (.update "graph <urn:facts> already exists"), seeingSession) := rfl
  exact ⟨_, _, hfail, (agrees_of_runCommand_error_iff _ _ _ _ _ hfail).2 id⟩

/-- Forgetting fails too, but what was inferred is gone. -/
theorem forgetSeen_not_atomic :
    ((runCommand noon forgetSeen).exec seeingSession).1 =
        .error (.reserved seeingStore.inferenceGraph) ∧
      ¬ seeingSession.Agrees ((runCommand noon forgetSeen).exec seeingSession).2 := by
  have hbefore : (seeingSession.triples? (some seeingStore.inferenceGraph)).map SortedSet.size =
      some 1 := by decide +kernel
  have hafter : (((runCommand noon forgetSeen).exec seeingSession).2.triples?
      (some seeingStore.inferenceGraph)).map SortedSet.size = some 0 := by decide +kernel
  refine ⟨rfl, fun h => ?_⟩
  rw [h.triples, hafter] at hbefore
  exact absurd hbefore (by decide)

end StoreM

end RdfStore
