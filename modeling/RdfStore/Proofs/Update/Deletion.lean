import RdfStore.Proofs.Store.Events
import RdfStore.Proofs.Store.Frame

/-!
# Modifications without insertions

A modification that has nothing to insert takes triples out of its graph and creates nothing, if
there is such a graph or if it is asked for by a name. But nobody asks whether there is a default
graph: where there is none, the insertion of nothing adds it, with all that adding a graph entails
(`StoreM.createsNothing_of_deletion_iff`).
-/

namespace RdfStore

/-! ## Templates without patterns -/

theorem fillRows_nil (rows : List Row) (u : Supply) :
    fillRows [] rows u = (rows.map fun _ => [], u) := by
  induction rows with
  | nil => rfl
  | cons row rows ih =>
    show ([] :: (fillRows [] rows u).1, (fillRows [] rows u).2) = _
    rw [ih]
    rfl

theorem construct_nil (rows : List Row) (u : Supply) :
    construct [] rows u = (.empty none, u) := by
  have htriples : (rows.map fun _ => ([] : List (Option Triple))).flatMap
      (fun l => l.filterMap id) = [] := by
    rw [List.flatMap_map]
    exact List.flatMap_eq_nil_iff.2 fun _ _ => rfl
  unfold construct
  rw [fillRows_nil]
  dsimp only
  rw [htriples]
  rfl

namespace Collection

variable {c d : Collection} {r : GraphRef} {g : Graph} {name : GraphName} {merge : Bool}

/-- The second collection has come from the first and nothing was created on the way: each name
leads where it led, no subscriber was told anything, and no shared graph has a triple that it did
not have. -/
structure CreatesNothing (c d : Collection) : Prop where
  names : d.names = c.names
  refs : ∀ name, d.ref? name = c.ref? name
  inboxes : ∀ i, d.inboxes.find? i = c.inboxes.find? i
  triples : ∀ r t, t ∈ (d.deref r).triples → t ∈ (c.deref r).triples

theorem createsNothing_retract (c : Collection) (name : GraphName) (ts : List Triple) :
    c.CreatesNothing (c.retract name ts) := by
  cases hr : c.ref? name with
  | none =>
    rw [retract_of_none hr]
    exact ⟨rfl, fun _ => rfl, fun _ => rfl, fun _ _ => id⟩
  | some r =>
    rw [retract_of_some hr]
    refine ⟨rfl, fun _ => rfl, fun _ => rfl, fun r' t ht => ?_⟩
    rw [deref_write] at ht
    split at ht
    · next hr' =>
      rw [← hr'.1]
      exact (Graph.mem_retractAll.1 ht).1
    · exact ht

/-- A graph that is written as it is has not changed. -/
theorem write_deref (c : Collection) (r : GraphRef) : c.write r (c.deref r) = c := by
  have hshared : c.shared.set r.index (c.deref r) = c.shared := by
    by_cases hr : r.index < c.shared.length
    · have hderef : c.deref r = c.shared[r.index] := by
        unfold deref
        rw [List.getElem?_eq_getElem hr, Option.getD_some]
      rw [hderef, List.set_getElem_self]
    · exact List.set_eq_of_length_le (Nat.not_lt.1 hr)
  unfold write
  rw [hshared]

/-- What a graph of a new name brings is told to every subscriber. -/
theorem inboxes_add (hadd : c.add g merge = .ok (r, d)) (hr : c.ref? g.name = none) (i : Nat) :
    d.inboxes.find? i = (c.inboxes.find? i).map (· ++ [.added g.name]) := by
  rw [add_of_none hr] at hadd
  cases hadd
  exact find?_inboxes_notify _ _ i

theorem inboxes_absorb (c : Collection) (name : GraphName) (g : Graph) (i : Nat) :
    (c.absorb name g).inboxes.find? i = (c.inboxes.find? i).map
      (· ++ ((CollectionOperation.getOrCreate name).event? c.nameSet).toList) :=
  (c.step_run (.getOrCreate name)).1.inboxes i

end Collection

namespace StoreM

variable {s t : Session} {name : GraphName} {delete : List Pattern} {p : GraphPattern}
  {now : DateTime} {g : Graph} {r : GraphRef} {rows : List Row}

/-! ## Adding under a new name -/

/-- A graph that comes in under a new name is told to every subscriber before anything else. -/
theorem inboxes_of_exec_addGraph {merge : Bool} (h : (addGraph g merge).exec s = (.ok r, t))
    (hkeeps : s.KeepsNames) (hr : s.store.collection.ref? g.name = none) (i : Nat) :
    ∃ es, t.store.collection.inboxes.find? i =
      (s.store.collection.inboxes.find? i).map (· ++ .added g.name :: es) := by
  have hname : g.name ≠ some s.store.inferenceGraph := by
    intro hname
    rw [exec_addGraph_reserved hname] at h
    exact nomatch h
  cases hmode : s.store.settings.inferenceMode with
  | inline =>
    rw [exec_addGraph_inline hname hmode] at h
    cases hextend : extendAll s.store.reasoners g with
    | error e =>
      rw [hextend] at h
      exact nomatch h
    | ok g' =>
      have hsame : g'.name = g.name := name_extendAll (hkeeps hmode) hextend
      rw [hextend] at h
      dsimp only at h
      rw [exec_enter] at h
      split at h
      · next r' c hadd =>
        cases h
        refine ⟨[], ?_⟩
        rw [← hsame] at hr ⊢
        exact Collection.inboxes_add hadd hr i
      · exact nomatch h
  | externalized =>
    rw [exec_addGraph_externalized hname hmode] at h
    split at h
    · exact nomatch h
    · next inferred _ =>
      split at h
      · exact nomatch h
      · next r' c hadd =>
        cases h
        have hc := Collection.inboxes_add hadd hr i
        rw [Session.collection_withCollection]
        split
        · exact ⟨[], hc⟩
        · let inference : GraphName := some s.store.inferenceGraph
          refine ⟨((CollectionOperation.getOrCreate inference).event? c.nameSet).toList, ?_⟩
          rw [Collection.inboxes_absorb, hc, Option.map_map]
          exact congrArg (Option.map · _) (funext fun es => List.append_assoc ..)

/-- A graph that comes in is found under its name, unless the reasoners have changed that. -/
theorem ref?_of_exec_addGraph {merge : Bool} (h : (addGraph g merge).exec s = (.ok r, t))
    (hkeeps : s.KeepsNames) : t.store.collection.ref? g.name = some r := by
  rcases exec_addGraph_cases s g merge with
    ⟨e, hexec, -⟩ | ⟨g', r', c, d, hbrings, hadd, hexec, hframe⟩
  · rw [hexec] at h
    exact nomatch h
  · rw [hexec] at h
    cases h
    rw [← hbrings.name_eq hkeeps]
    exact (hframe.refs g'.name fun h => h.2 rfl).trans (Collection.frame_add hadd).2

/-! ## Inserting nothing -/

/-- To insert nothing changes nothing where there is a graph, and adds one where there is none. -/
theorem exec_insertInto_nil (hname : name ≠ some s.store.inferenceGraph) :
    (insertInto name []).exec s =
      match s.store.collection.ref? name with
      | some _ => (.ok (), s)
      | none => ((addGraph (.empty name) true >>= fun _ => pure ()) : StoreM Unit).exec s := by
  unfold insertInto
  rw [exec_bind_of_ok (exec_requireWritable_of_ne hname), exec_bind_of_ok (exec_collection s)]
  cases s.store.collection.ref? name with
  | none => rfl
  | some r =>
    dsimp only
    rw [exec_bind_of_ok (exec_collection s), exec_writeRef]
    show (Except.ok (), s.withCollection
      (s.store.collection.write r (s.store.collection.deref r))) = _
    rw [Collection.write_deref]
    rfl

theorem exec_replaceTriples_nil (name : GraphName) (delete : List Pattern) (rows : List Row)
    (s : Session) :
    let removed := construct delete rows s.store.supply
    (replaceTriples name delete [] rows).exec s = (insertInto name []).exec
      ((s.withSupply removed.2).withCollection
        (s.store.collection.retract name removed.1.triples.toList)) := by
  intro removed
  unfold replaceTriples
  rw [exec_bind_of_ok (exec_constructGraph delete rows s),
    exec_bind_of_ok (exec_constructGraph [] rows _), exec_bind_of_ok (exec_deleteFrom ..),
    construct_nil]
  rfl

/-! ## Modifications -/

/-- All that can come of a modification without insertions, where it does not fail: triples are
taken out under its name, or the default graph, which was not there, is added. -/
theorem exec_deletion_cases (h : (modifyGraph name delete [] p now).exec s = (.ok (), t)) :
    ((name ≠ none ∨ s.store.collection.ref? none ≠ none) ∧
        ∃ u ts, t = (s.withSupply u).withCollection (s.store.collection.retract name ts)) ∨
      name = none ∧ s.store.collection.ref? none = none ∧
        ∃ u r, (addGraph (.empty none) true).exec (s.withSupply u) = (.ok r, t) := by
  rw [exec_modifyGraph (.inl rfl)] at h
  split at h
  · next hthere =>
    rcases hrows : (modifiedRows name p now).exec s with ⟨e | rows, v⟩
    · rw [exec_bind_of_error hrows] at h
      exact nomatch h
    · obtain rfl := (readsOnly_modifiedRows name p now).eq_of_exec hrows
      rw [exec_bind_of_ok hrows, exec_replaceTriples_nil] at h
      by_cases hname : name = some v.store.inferenceGraph
      · rw [exec_insertInto_inferred (by exact hname)] at h
        exact nomatch h
      · rw [exec_insertInto_nil (by exact hname), Session.collection_withCollection,
          Collection.ref?_retract] at h
        cases hr : v.store.collection.ref? name with
        | some r =>
          rw [hr] at h
          cases h
          refine .inl ⟨?_, _, _, rfl⟩
          by_cases hdefault : name = none
          · rw [hdefault] at hr
            exact .inr (Option.ne_none_iff_exists'.2 ⟨r, hr⟩)
          · exact .inl hdefault
        | none =>
          -- Only the default graph may be missing here.
          rw [Collection.contains_of_none hr, Bool.or_false, Option.isNone_iff_eq_none] at hthere
          subst hthere
          rw [hr, Collection.retract_of_none hr] at h
          rcases hadd : (addGraph (.empty none) true).exec
            ((v.withSupply _).withCollection v.store.collection) with ⟨e | r, w⟩
          · dsimp only at h
            rw [exec_bind_of_error hadd] at h
            exact nomatch h
          · dsimp only at h
            rw [exec_bind_of_ok hadd] at h
            cases h
            exact .inr ⟨rfl, hr, _, r, hadd⟩
  · next hmissing =>
    cases h
    obtain ⟨hname, hcontains⟩ := Bool.or_eq_false_iff.1 (Bool.eq_false_of_not_eq_true hmissing)
    have hr : s.store.collection.ref? name = none := by
      cases hr : s.store.collection.ref? name with
      | none => rfl
      | some r =>
        rw [Collection.contains_of_some hr] at hcontains
        exact nomatch hcontains
    refine .inl ⟨.inl fun hnone => ?_, s.store.supply, [], ?_⟩
    · rw [hnone] at hname
      exact nomatch hname
    · rw [Collection.retract_of_none hr]
      rfl

/-- **A pure deletion creates nothing, but for the default graph.** A modification without
insertions that does not fail leaves the names, the subscribers and the triples that it does not
remove as they were, if it is for a named graph or there is a default graph. Where there is none, it
adds one, with what the reasoners make of it, and every subscriber is told. So it creates nothing
only if it is for a named graph or there is a default graph. For the last two, reasoners that infer
into the graphs must leave the name of the one that is added. -/
theorem createsNothing_of_deletion_iff (now : DateTime) (s t : Session) (name : GraphName)
    (delete : List Pattern) (p : GraphPattern)
    (h : (runCommand now (.modify name delete [] p)).exec s = (.ok (), t)) :
    (name ≠ none ∨ s.store.collection.ref? none ≠ none →
        s.store.collection.CreatesNothing t.store.collection) ∧
      (name = none → s.store.collection.ref? none = none →
        ∃ u r, (addGraph (.empty none) true).exec (s.withSupply u) = (.ok r, t) ∧
          (s.KeepsNames → t.store.collection.ref? none = some r ∧
            ∀ i, ∃ es, t.store.collection.inboxes.find? i =
              (s.store.collection.inboxes.find? i).map (· ++ .added none :: es))) ∧
      (s.KeepsNames → (s.store.collection.CreatesNothing t.store.collection ↔
        name ≠ none ∨ s.store.collection.ref? none ≠ none)) := by
  rcases exec_deletion_cases h with ⟨hthere, u, ts, rfl⟩ | ⟨rfl, hnone, u, r, hadd⟩
  · have hcreates := Collection.createsNothing_retract s.store.collection name ts
    refine ⟨fun _ => hcreates, ?_, fun _ => ⟨fun _ => hthere, fun _ => hcreates⟩⟩
    rintro rfl hnone
    exact (hthere.elim (· rfl) (· hnone)).elim
  · have hmissing : ¬((none : GraphName) ≠ none ∨ s.store.collection.ref? none ≠ none) :=
      not_or.2 ⟨not_not.2 rfl, not_not.2 hnone⟩
    have hr (hkeeps : s.KeepsNames) : t.store.collection.ref? none = some r :=
      ref?_of_exec_addGraph hadd hkeeps
    refine ⟨fun hthere => absurd hthere hmissing, fun _ _ => ⟨u, r, hadd, fun hkeeps =>
      ⟨hr hkeeps, inboxes_of_exec_addGraph hadd hkeeps hnone⟩⟩, fun hkeeps => ?_⟩
    refine ⟨fun hcreates => ?_, fun hthere => absurd hthere hmissing⟩
    have hold := hr hkeeps
    rw [hcreates.refs, hnone] at hold
    exact nomatch hold

/-- Deletes whatever anybody knows. -/
def forgetKnown (name : GraphName) : Command :=
  let known : Pattern := ⟨.var "s", .fixed (.iri ⟨"urn:knows"⟩), .var "o"⟩
  .modify name [known] [] (.basic [known])

/-- A session with a graph and a subscriber. -/
def watchedSession : Session :=
  Session.new.withCollection (Collection.empty.enter (knowing "urn:facts" ["urn:b"])).2.subscribe.2

/-- What is known is deleted from the graph of facts, and nothing is created. -/
theorem createsNothing_of_deletion_facts :
    ∃ t, (runCommand noon (forgetKnown (some ⟨"urn:facts"⟩))).exec watchedSession = (.ok (), t) ∧
      t.store.collection.contents (some ⟨"urn:facts"⟩) = some ∅ ∧
      watchedSession.store.collection.CreatesNothing t.store.collection := by
  have hends : ∃ t, (runCommand noon (forgetKnown (some ⟨"urn:facts"⟩))).exec watchedSession =
      (.ok (), t) := ⟨_, rfl⟩
  have hempty : ((runCommand noon (forgetKnown (some ⟨"urn:facts"⟩))).exec
      watchedSession).2.store.collection.contents (some ⟨"urn:facts"⟩) = some ∅ := by
    decide +kernel
  obtain ⟨t, ht⟩ := hends
  rw [ht] at hempty
  exact ⟨t, ht, hempty, (createsNothing_of_deletion_iff _ _ _ _ _ _ ht).1 (.inl nofun)⟩

/-- From the default graph nothing can be deleted, since there is none; but afterwards there is one,
and the subscriber has been told. -/
theorem deletion_creates_default :
    let after := (runCommand noon (forgetKnown none)).exec watchedSession
    after.1 = .ok () ∧ watchedSession.store.collection.names = [some ⟨"urn:facts"⟩] ∧
      after.2.store.collection.names = [none, some ⟨"urn:facts"⟩] ∧
      after.2.store.collection.inboxes.find? 0 = some [.added none] ∧
      ¬watchedSession.store.collection.CreatesNothing after.2.store.collection := by
  intro after
  have hbefore : watchedSession.store.collection.names = [some ⟨"urn:facts"⟩] := by
    decide +kernel
  have hafter : after.2.store.collection.names = [none, some ⟨"urn:facts"⟩] := by decide +kernel
  refine ⟨rfl, hbefore, hafter, by decide +kernel, fun h => ?_⟩
  have hnames := h.names
  rw [hbefore, hafter] at hnames
  exact absurd hnames (by decide)

end StoreM

end RdfStore
