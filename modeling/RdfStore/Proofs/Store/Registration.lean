import RdfStore.Proofs.Store.Arrivals
import RdfStore.Proofs.Store.Inferred
import RdfStore.Proofs.Store.Frame

/-!
# What a failed registration leaves behind

A reasoner is registered first and then runs over the graphs one after the other. If it fails for
one of them, all registrations of this reasoner are taken back, also those from before
(`StoreM.reasoners_of_addReasoner_error`); and what it has written until then stays. So a rule base
that is refused leaves the triples and the names as they were in few cases only
(`StoreM.contents_of_addReasoner_error`).
-/

namespace RdfStore

namespace Collection

variable {c : Collection} {name : GraphName} {r r' : GraphRef} {g : Graph}

/-! ## Writing what is there -/

theorem Coherent.contents_write_same (h : c.Coherent) (hr : c.ref? name = some r)
    (hg : g.members = (c.deref r).members) : (c.write r g).contents = c.contents := by
  rw [h.contents_write hr, hg, ← contents_of_ref? hr, Function.update_eq_self]

theorem members_deref_write_same (hg : g.members = (c.deref r).members) :
    ((c.write r g).deref r').members = (c.deref r').members := by
  rw [deref_write]
  split
  · next h => rw [hg, h.1]
  · rfl

theorem exists_ref?_of_contents {S : Finset Triple} (h : c.contents name = some S) :
    ∃ r, c.ref? name = some r ∧ (c.deref r).members = S := by
  cases hr : c.ref? name with
  | none => exact nomatch (contents_eq_none_iff.2 hr).symm.trans h
  | some r => exact ⟨r, rfl, Option.some.inj ((contents_of_ref? hr).symm.trans h)⟩

theorem fill_of_some (h : c.ref? name = some r) (g : Graph) : c.fill name g = c.write r g := by
  unfold Collection.fill
  rw [getOrCreate_of_some h]

end Collection

namespace StoreM

variable {s t : Session} {e : Reasoner} {cause : StoreError} {r : GraphRef} {rs : List GraphRef}

/-! ## The run of a new reasoner -/

theorem exec_applyReasoner_externalized (hmode : s.store.settings.inferenceMode = .externalized)
    (e : Reasoner) (r : GraphRef) : (applyReasoner e r).exec s =
      let aux := s.store.collection.getOrCreate (some s.store.inferenceGraph)
      let written := e.derive (aux.2.deref r) (aux.2.deref aux.1)
      (written.2.mapError .reasoner,
        s.withCollection (s.store.collection.fill (some s.store.inferenceGraph) written.1)) := by
  unfold applyReasoner
  rw [exec_bind_of_ok (exec_get s), hmode]
  dsimp only
  rw [exec_bind_of_ok (exec_auxiliary s), exec_bind_of_ok (exec_collection _)]
  exact (exec_bind_of_ok (exec_writeRef _ _ _)).trans (exec_lift _ _ _)

/-- A reasoner that runs over a graph changes nothing but the collection. -/
theorem exec_applyReasoner_writes (e : Reasoner) (r : GraphRef) (s : Session) :
    ∃ result c, (applyReasoner e r).exec s = (result, s.withCollection c) := by
  cases hmode : s.store.settings.inferenceMode with
  | inline => exact ⟨_, _, exec_applyReasoner_inline hmode e r⟩
  | externalized => exact ⟨_, _, exec_applyReasoner_externalized hmode e r⟩

/-- Nor does a run over several graphs. -/
theorem exec_forM_writes (e : Reasoner) (rs : List GraphRef) (s : Session) :
    ∃ result c, (rs.forM fun r => applyReasoner e r).exec s = (result, s.withCollection c) := by
  induction rs generalizing s with
  | nil => exact ⟨_, s.store.collection, rfl⟩
  | cons r rs ih =>
    obtain ⟨result, c, hfirst⟩ := exec_applyReasoner_writes e r s
    cases result with
    | error cause => exact ⟨_, c, exec_run_of_error hfirst⟩
    | ok a =>
      obtain ⟨result, d, hrest⟩ := ih (s.withCollection c)
      exact ⟨result, d, (exec_run_of_ok hfirst).trans hrest⟩

/-- A registration that fails is a run that fails. The collection stays as the run left it. -/
theorem exec_addReasoner_error (h : (addReasoner e).exec s = (.error cause, t)) :
    ∃ c, (s.store.collection.refs.forM fun r => applyReasoner e r).exec
        (s.withReasoners (s.store.reasoners ++ [e])) =
          (.error cause, (s.withReasoners (s.store.reasoners ++ [e])).withCollection c) ∧
      t = (s.withReasoners (s.store.reasoners.filter fun f => f.id ≠ e.id)).withCollection c := by
  have hmodify : (modifyStore fun s => { s with reasoners := s.reasoners ++ [e] }).exec s =
      (.ok (), s.withReasoners (s.store.reasoners ++ [e])) := rfl
  have hremove (u : Session) : ∃ b, (removeReasoner e.id).exec u =
      (.ok b, u.withReasoners (u.store.reasoners.filter fun f => f.id ≠ e.id)) := ⟨_, rfl⟩
  have hfilter : (s.store.reasoners ++ [e]).filter (fun f => f.id ≠ e.id) =
      s.store.reasoners.filter fun f => f.id ≠ e.id := by
    rw [List.filter_append, List.filter_singleton]
    simp
  obtain ⟨result, c, hrun⟩ := exec_forM_writes e
    (s.withReasoners (s.store.reasoners ++ [e])).store.collection.refs
    (s.withReasoners (s.store.reasoners ++ [e]))
  unfold addReasoner at h
  rw [exec_bind_of_ok hmodify, exec_tryCatch, exec_bind_of_ok (exec_collection _), hrun] at h
  cases result with
  | ok a => exact nomatch h
  | error cause' =>
    dsimp only at h
    obtain ⟨b, hb⟩ := hremove ((s.withReasoners (s.store.reasoners ++ [e])).withCollection c)
    rw [exec_bind_of_ok hb] at h
    cases h
    refine ⟨c, hrun, ?_⟩
    rw [← hfilter]
    rfl

/-! ## The list of reasoners -/

/-- **A failed registration takes back all registrations.** The reasoner is not registered
afterwards, not even as often as before; all others are, in their order. So the list is as before
just if the reasoner was new to it. -/
theorem reasoners_of_addReasoner_error (h : (addReasoner e).exec s = (.error cause, t)) :
    t.store.reasoners = (s.store.reasoners.filter fun f => f.id ≠ e.id) ∧
      (t.store.reasoners = s.store.reasoners ↔ ∀ f ∈ s.store.reasoners, f.id ≠ e.id) := by
  obtain ⟨c, -, rfl⟩ := exec_addReasoner_error h
  refine ⟨rfl, ?_⟩
  show (s.store.reasoners.filter fun f => f.id ≠ e.id) = s.store.reasoners ↔ _
  rw [List.filter_eq_self]
  simp only [decide_eq_true_eq]

/-- A graph of three triples, which are too many for one of two reasoners. -/
def overfedSession : Session :=
  (Session.new.withCollection
    (Collection.empty.enter (knowing "urn:facts" ["urn:b", "urn:c", "urn:d"])).2).withReasoners
      [seeing]

/-- The reasoner that fails is new, and the other one stays. -/
theorem reasoners_of_addReasoner_error_new :
    ∃ cause t, (addReasoner fussy).exec overfedSession = (.error cause, t) ∧
      t.store.reasoners = overfedSession.store.reasoners := by
  have hfail : ∃ cause t, (addReasoner fussy).exec overfedSession = (.error cause, t) :=
    ⟨_, _, rfl⟩
  obtain ⟨cause, t, hfail⟩ := hfail
  refine ⟨cause, t, hfail, (reasoners_of_addReasoner_error hfail).2.2 ?_⟩
  intro f hf
  obtain rfl := List.mem_singleton.1 hf
  decide

/-- A reasoner is registered, a graph comes in that it is content with, and more triples are
inserted than it can bear. -/
def overfeeding : List Operation :=
  [.addReasoner fussy, .addGraph (knowing "urn:facts" ["urn:b"]) false,
    .update noon [.insertData (some ⟨"urn:facts"⟩)
      (knowing "urn:facts" ["urn:c", "urn:d"]).triples.toList]]

/-- To register it once more fails, and then it is not registered at all. -/
theorem registration_lost_overfeeding :
    (Session.new.after overfeeding).store.reasoners = [fussy] ∧
      ∃ cause t, (addReasoner fussy).exec (Session.new.after overfeeding) = (.error cause, t) ∧
        t.store.reasoners = [] := ⟨rfl, _, _, rfl, rfl⟩

end StoreM

/-! ## What a rule base leaves behind -/

/-- Together with inferred triples, the first of some sets that is not closed does not become closed
in the rounds allowed. -/
def RuleBase.Stalls (b : RuleBase) (A : Finset Triple) : List (Finset Triple) → Prop
  | [] => False
  | G :: Gs => (b.Closed ↑(G ∪ A) ∧ b.Stalls A Gs) ∨
      ¬ b.Closed (b.consequences^[b.maxRounds] ↑(G ∪ A))

/-- Where triples are inferred into the graphs, no round is allowed. Where they are kept apart,
there is a graph for them already, and the run stalls at the first graph that would give it more. -/
def RuleBase.LeavesNoTrace (b : RuleBase) (s : Session) : Prop :=
  match s.store.settings.inferenceMode with
  | .inline => b.maxRounds = 0
  | .externalized =>
    ∃ A, s.store.collection.contents (some s.store.inferenceGraph) = some A ∧
      b.Stalls A ((Scope.everything.graphs s.store.collection).map Graph.members)

namespace StoreM

variable {b : RuleBase} {id : ℕ} {s t : Session} {cause : StoreError} {r aux : GraphRef}
  {rs : List GraphRef} {result : Except StoreError Unit}

/-! ## Inferred triples within the graphs -/

/-- The graph that the rules run over gets more triples if they fail, unless no round is allowed. -/
theorem exec_ruleBase_inline (hb : b.Admissible)
    (hmode : s.store.settings.inferenceMode = .inline) (id : ℕ) (r : GraphRef) :
    ∃ result g, (applyReasoner (b.reasoner id) r).exec s =
        (result, s.withCollection (s.store.collection.write r g)) ∧
      (s.store.collection.deref r).members ⊆ g.members ∧
      (b.maxRounds = 0 → g.members = (s.store.collection.deref r).members) ∧
      (b.maxRounds ≠ 0 → ∀ cause, result = .error cause →
        (s.store.collection.deref r).members ⊂ g.members) := by
  refine ⟨_, _, exec_applyReasoner_inline hmode (b.reasoner id) r, ?_, ?_, ?_⟩
  · show _ ⊆ (b.extend _).1.members
    rw [b.extend_eq]
    exact b.members_subset_saturate _ _
  · intro hrounds
    apply Finset.coe_injective
    show ((b.extend _).1.members : Set Triple) = _
    rw [b.members_extend hb, hrounds]
    rfl
  · intro hrounds cause hcause
    refine b.members_ssubset_extend hb hrounds fun hclosed => ?_
    change (b.extend _).2.mapError StoreError.reasoner = _ at hcause
    rw [(b.extend_eq_ok_iff hb _).2 hclosed] at hcause
    exact nomatch hcause

/-- Without rounds, the graphs are written with what they have. -/
theorem contents_of_run_of_zero (hb : b.Admissible) (hrounds : b.maxRounds = 0)
    (hmode : s.store.settings.inferenceMode = .inline) (hc : s.store.collection.Coherent)
    (hrs : ∀ r ∈ rs, ∃ name, s.store.collection.ref? name = some r)
    (h : (rs.forM fun r => applyReasoner (b.reasoner id) r).exec s = (result, t)) :
    t.store.collection.contents = s.store.collection.contents := by
  induction rs generalizing s with
  | nil =>
    cases h
    rfl
  | cons r rs ih =>
    obtain ⟨name, hr⟩ := hrs r List.mem_cons_self
    obtain ⟨first, g, hfirst, -, hsame, -⟩ := exec_ruleBase_inline hb hmode id r
    have hcontents := hc.contents_write_same hr (hsame hrounds)
    cases first with
    | error cause =>
      rw [exec_run_of_error hfirst] at h
      cases h
      exact hcontents
    | ok a =>
      rw [exec_run_of_ok hfirst] at h
      have hrest := ih (s := s.withCollection (s.store.collection.write r g)) hmode
        (hc.write r g) (fun r' hr' => hrs r' (List.mem_cons_of_mem r hr')) h
      exact hrest.trans hcontents

/-- With rounds, the graph that the rules fail for has grown, and no graph has lost a triple. -/
theorem grows_of_run_error (hb : b.Admissible) (hrounds : b.maxRounds ≠ 0)
    (hmode : s.store.settings.inferenceMode = .inline) (hc : s.store.collection.Coherent)
    (hrs : ∀ r ∈ rs, ∃ name, s.store.collection.ref? name = some r)
    (h : (rs.forM fun r => applyReasoner (b.reasoner id) r).exec s = (.error cause, t)) :
    ∃ name S T, s.store.collection.contents name = some S ∧
      t.store.collection.contents name = some T ∧ S ⊂ T := by
  induction rs generalizing s with
  | nil => exact nomatch h
  | cons r rs ih =>
    obtain ⟨name, hr⟩ := hrs r List.mem_cons_self
    have hbefore := Collection.contents_of_ref? hr
    obtain ⟨first, g, hfirst, hsub, -, hgrown⟩ := exec_ruleBase_inline hb hmode id r
    cases first with
    | error cause' =>
      rw [exec_run_of_error hfirst] at h
      cases h
      refine ⟨name, _, _, hbefore, ?_, hgrown hrounds cause rfl⟩
      rw [Session.collection_withCollection, hc.contents_write hr, Function.update_self]
    | ok a =>
      rw [exec_run_of_ok hfirst] at h
      obtain ⟨name', S, T, hS, hT, hST⟩ :=
        ih (s := s.withCollection (s.store.collection.write r g)) hmode (hc.write r g)
          (fun r' hr' => hrs r' (List.mem_cons_of_mem r hr')) h
      rw [Session.collection_withCollection, hc.contents_write hr] at hS
      by_cases hname : name' = name
      · -- The graph that was written first had no more triples before.
        rw [hname, Function.update_self, Option.some.injEq] at hS
        rw [← hS] at hST
        exact ⟨name, _, T, hbefore, hname ▸ hT, hsub.trans_ssubset hST⟩
      · rw [Function.update_of_ne hname] at hS
        exact ⟨name', S, T, hS, hT, hST⟩

/-! ## Inferred triples kept apart -/

/-- Where there is a graph of inferred triples, the rules write into it. It stays the same if the
graph has no consequences together with it, or too many; else it grows. -/
theorem exec_ruleBase_apart (hb : b.Admissible)
    (hmode : s.store.settings.inferenceMode = .externalized)
    (haux : s.store.collection.ref? (some s.store.inferenceGraph) = some aux) (id : ℕ)
    (r : GraphRef) :
    let G := (s.store.collection.deref r).members
    let A := (s.store.collection.deref aux).members
    ∃ result g, (applyReasoner (b.reasoner id) r).exec s =
        (result, s.withCollection (s.store.collection.write aux g)) ∧
      ((result = .ok () ∧ b.Closed ↑(G ∪ A) ∧ g.members = A) ∨
        (result = .ok () ∧ ¬ b.Closed ↑(G ∪ A) ∧
          b.Closed (b.consequences^[b.maxRounds] ↑(G ∪ A)) ∧ A ⊂ g.members) ∨
        (result = .error (.reasoner b.noFixpoint) ∧
          ¬ b.Closed (b.consequences^[b.maxRounds] ↑(G ∪ A)) ∧ g.members = A)) := by
  intro G A
  have hexec : (applyReasoner (b.reasoner id) r).exec s =
      ((b.derive (s.store.collection.deref r) (s.store.collection.deref aux)).2.mapError .reasoner,
        s.withCollection (s.store.collection.write aux
          (b.derive (s.store.collection.deref r) (s.store.collection.deref aux)).1)) := by
    rw [exec_applyReasoner_externalized hmode, Collection.getOrCreate_of_some haux]
    dsimp only
    rw [Collection.fill_of_some haux]
    rfl
  by_cases hdone : b.Closed (b.consequences^[b.maxRounds] ↑(G ∪ A))
  · rw [(b.derive_eq_ok_iff hb).2 hdone] at hexec
    by_cases hclosed : b.Closed ↑(G ∪ A)
    · exact ⟨_, _, hexec, .inl ⟨rfl, hclosed, b.members_derive_eq hb (.inl hclosed)⟩⟩
    · have hgrown := b.members_ssubset_derive hb hclosed hdone
      exact ⟨_, _, hexec, .inr (.inl ⟨rfl, hclosed, hdone, hgrown⟩)⟩
  · rw [(b.derive_eq_error_iff hb).2 hdone] at hexec
    exact ⟨_, _, hexec, .inr (.inr ⟨rfl, hdone, b.members_derive_eq hb (.inr hdone)⟩)⟩

/-- The graph of inferred triples loses nothing. -/
theorem inferred_subset_of_run (hb : b.Admissible)
    (hmode : s.store.settings.inferenceMode = .externalized) (hc : s.store.collection.Coherent)
    (haux : s.store.collection.ref? (some s.store.inferenceGraph) = some aux)
    (h : (rs.forM fun r => applyReasoner (b.reasoner id) r).exec s = (result, t)) :
    ∃ A, (s.store.collection.deref aux).members ⊆ A ∧
      t.store.collection.contents (some s.store.inferenceGraph) = some A := by
  induction rs generalizing s with
  | nil =>
    cases h
    exact ⟨_, subset_rfl, Collection.contents_of_ref? haux⟩
  | cons r rs ih =>
    obtain ⟨first, g, hfirst, hstep⟩ := exec_ruleBase_apart hb hmode haux id r
    have hsub : (s.store.collection.deref aux).members ⊆ g.members := by
      rcases hstep with ⟨-, -, hsame⟩ | ⟨-, -, -, hgrown⟩ | ⟨-, -, hsame⟩
      · exact hsame.superset
      · exact hgrown.subset
      · exact hsame.superset
    cases first with
    | error cause =>
      rw [exec_run_of_error hfirst] at h
      cases h
      refine ⟨_, hsub, ?_⟩
      rw [Session.collection_withCollection, hc.contents_write haux, Function.update_self]
    | ok a =>
      rw [exec_run_of_ok hfirst] at h
      obtain ⟨A, hA, ht⟩ := ih (s := s.withCollection (s.store.collection.write aux g)) hmode
        (hc.write aux g) haux h
      rw [Session.collection_withCollection, Collection.deref_write,
        if_pos ⟨rfl, hc.bounded _ aux haux⟩] at hA
      exact ⟨A, hsub.trans hA, ht⟩

/-- A run that fails leaves the contents as they were just if it stalls. By induction on the graphs:
as long as they have no consequences, nothing is written. -/
theorem contents_of_run_error_iff (hb : b.Admissible)
    (hmode : s.store.settings.inferenceMode = .externalized) (hc : s.store.collection.Coherent)
    (haux : s.store.collection.ref? (some s.store.inferenceGraph) = some aux)
    (h : (rs.forM fun r => applyReasoner (b.reasoner id) r).exec s = (.error cause, t)) :
    t.store.collection.contents = s.store.collection.contents ↔
      b.Stalls (s.store.collection.deref aux).members
        (rs.map fun r => (s.store.collection.deref r).members) := by
  induction rs generalizing s with
  | nil => exact nomatch h
  | cons r rs ih =>
    obtain ⟨first, g, hfirst, hstep⟩ := exec_ruleBase_apart hb hmode haux id r
    rcases hstep with ⟨rfl, hclosed, hsame⟩ | ⟨rfl, hopen, hdone, hgrown⟩ | ⟨rfl, hopen, hsame⟩
    · -- The graph has no consequences, and the run goes on in the same contents.
      rw [exec_run_of_ok hfirst] at h
      have hrest := ih (s := s.withCollection (s.store.collection.write aux g)) hmode
        (hc.write aux g) haux h
      rw [Session.collection_withCollection, hc.contents_write_same haux hsame] at hrest
      simp only [Collection.members_deref_write_same hsame] at hrest
      rw [hrest]
      constructor
      · exact fun hstalls => .inl ⟨hclosed, hstalls⟩
      · rintro (⟨-, hstalls⟩ | hopen)
        · exact hstalls
        · rw [hclosed.iterate_eq] at hopen
          exact absurd hclosed hopen
    · -- Something is inferred, and it stays.
      rw [exec_run_of_ok hfirst] at h
      obtain ⟨A, hA, ht⟩ := inferred_subset_of_run
        (s := s.withCollection (s.store.collection.write aux g)) hb hmode (hc.write aux g) haux h
      rw [Session.collection_withCollection, Collection.deref_write,
        if_pos ⟨rfl, hc.bounded _ aux haux⟩] at hA
      change t.store.collection.contents (some s.store.inferenceGraph) = some A at ht
      constructor
      · intro hsame
        rw [hsame, Collection.contents_of_ref? haux, Option.some.injEq] at ht
        rw [ht] at hgrown
        exact absurd hA hgrown.2
      · rintro (⟨hclosed, -⟩ | hopen')
        · exact absurd hclosed hopen
        · exact absurd hdone hopen'
    · -- The run ends here, and nothing is written.
      rw [exec_run_of_error hfirst] at h
      cases h
      exact ⟨fun _ => .inr hopen, fun _ => hc.contents_write_same haux hsame⟩

/-- Where there is no graph of inferred triples, a run that fails leaves one. -/
theorem inferred_of_run_error (hb : b.Admissible)
    (hmode : s.store.settings.inferenceMode = .externalized) (hc : s.store.collection.Coherent)
    (h : (rs.forM fun r => applyReasoner (b.reasoner id) r).exec s = (.error cause, t)) :
    t.store.collection.contents (some s.store.inferenceGraph) ≠ none := by
  cases rs with
  | nil => exact nomatch h
  | cons r rs =>
    have hfirst := exec_applyReasoner_externalized hmode (b.reasoner id) r
    dsimp only at hfirst
    generalize (b.reasoner id).derive _ _ = written at hfirst
    have hfilled := congrFun (hc.contents_fill (some s.store.inferenceGraph) written.1)
      (some s.store.inferenceGraph)
    rw [Function.update_self] at hfilled
    rcases hresult : written.2 with cause' | a
    · rw [hresult] at hfirst
      rw [exec_run_of_error hfirst] at h
      cases h
      rw [Session.collection_withCollection, hfilled]
      exact Option.some_ne_none _
    · rw [hresult] at hfirst
      rw [exec_run_of_ok hfirst] at h
      obtain ⟨aux, haux, -⟩ := Collection.exists_ref?_of_contents hfilled
      obtain ⟨A, -, ht⟩ := inferred_subset_of_run (s := s.withCollection
        (s.store.collection.fill (some s.store.inferenceGraph) written.1)) hb hmode
          (hc.fill _ written.1) haux h
      rw [show t.store.collection.contents (some s.store.inferenceGraph) = some A from ht]
      exact Option.some_ne_none A

/-- **What a refused rule base leaves behind, exactly.** If the registration of a rule base fails,
names and triples are as before just if the rule base leaves no trace: because it writes nothing
into the graphs where no round is allowed, or because nothing was inferred before it failed and
the graph for that was there already. -/
theorem contents_of_addReasoner_error (hb : b.Admissible) (hc : s.store.collection.Coherent)
    (h : (addReasoner (b.reasoner id)).exec s = (.error cause, t)) :
    t.store.collection.contents = s.store.collection.contents ↔ b.LeavesNoTrace s := by
  obtain ⟨c, hrun, rfl⟩ := exec_addReasoner_error h
  change c.contents = s.store.collection.contents ↔ _
  unfold RuleBase.LeavesNoTrace
  cases hmode : s.store.settings.inferenceMode with
  | inline =>
    have hrefs : ∀ r ∈ s.store.collection.refs, ∃ name, s.store.collection.ref? name = some r :=
      fun r hr => Collection.mem_refs.1 hr
    dsimp only
    constructor
    · intro hsame
      by_contra hrounds
      obtain ⟨name, S, T, hS, hT, hST⟩ := grows_of_run_error
        (s := s.withReasoners (s.store.reasoners ++ [b.reasoner id])) hb hrounds hmode hc hrefs hrun
      change s.store.collection.contents name = some S at hS
      change c.contents name = some T at hT
      rw [hsame, hS, Option.some.injEq] at hT
      exact hST.ne hT
    · intro hrounds
      exact contents_of_run_of_zero
        (s := s.withReasoners (s.store.reasoners ++ [b.reasoner id])) hb hrounds hmode hc hrefs hrun
  | externalized =>
    dsimp only
    cases hA : s.store.collection.contents (some s.store.inferenceGraph) with
    | none =>
      have hleft := inferred_of_run_error
        (s := s.withReasoners (s.store.reasoners ++ [b.reasoner id])) hb hmode hc hrun
      constructor
      · intro hsame
        exact absurd ((congrFun hsame _).trans hA) hleft
      · rintro ⟨A, hnone, -⟩
        exact nomatch hnone
    | some A =>
      obtain ⟨aux, haux, hmembers⟩ := Collection.exists_ref?_of_contents hA
      have hstalls := contents_of_run_error_iff
        (s := s.withReasoners (s.store.reasoners ++ [b.reasoner id])) hb hmode hc haux hrun
      change c.contents = s.store.collection.contents ↔ b.Stalls
        (s.store.collection.deref aux).members _ at hstalls
      rw [hstalls, hmembers]
      have hgraphs : (Scope.everything.graphs s.store.collection).map Graph.members =
          s.store.collection.refs.map fun r => (s.store.collection.deref r).members :=
        List.map_map ..
      rw [hgraphs]
      constructor
      · exact fun hstalls => ⟨A, rfl, hstalls⟩
      · rintro ⟨A', hA', hstalls⟩
        cases hA'
        exact hstalls

/-- An action that is run fails, and leaves a number of triples under a name. -/
theorem exists_error_of_run {m : StoreM Unit} {name : GraphName} {n : ℕ}
    (h : (match m.exec s with
      | (.error _, t) => (t.store.collection.contents name).map Finset.card
      | (.ok _, _) => none) = some n) :
    ∃ cause t, m.exec s = (.error cause, t) ∧
      (t.store.collection.contents name).map Finset.card = some n := by
  rcases hexec : m.exec s with ⟨cause | a, t⟩
  · rw [hexec] at h
    exact ⟨cause, t, rfl, h⟩
  · rw [hexec] at h
    exact nomatch h

/-- Four classes, each more general than the one before. -/
def longChain : Graph :=
  let below (x y : String) : Triple := ⟨.iri ⟨x⟩, .iri Vocabulary.subClassOf, .iri ⟨y⟩⟩
  .ofTriples (some ⟨"urn:zoo"⟩) [below "urn:cat" "urn:mammal", below "urn:mammal" "urn:animal",
    below "urn:animal" "urn:being"]

/-- A store with these classes. -/
def chainSession (mode : InferenceMode) : Session :=
  (Session.new.inMode mode).after [.addGraph longChain false]

/-- Rules without a round fail, and leave nothing. -/
theorem contents_of_addReasoner_error_chain : (RuleBase.schemaWithin 0).Admissible ∧
    (chainSession .inline).store.collection.Coherent ∧
    ∃ cause t, (addReasoner ((RuleBase.schemaWithin 0).reasoner 0)).exec (chainSession .inline) =
        (.error cause, t) ∧
      t.store.collection.contents = (chainSession .inline).store.collection.contents := by
  have hadmissible := RuleBase.admissible_schemaWithin 0
  have hcoherent : (chainSession .inline).store.collection.Coherent :=
    (Session.new.inMode .inline).coherent_after rfl [.addGraph longChain false]
  obtain ⟨cause, t, hfail, -⟩ : ∃ cause t,
      (addReasoner ((RuleBase.schemaWithin 0).reasoner 0)).exec (chainSession .inline) =
        (.error cause, t) ∧
          (t.store.collection.contents (some ⟨"urn:zoo"⟩)).map Finset.card = some 3 :=
    exists_error_of_run (by decide +kernel)
  have hleaves : (RuleBase.schemaWithin 0).LeavesNoTrace (chainSession .inline) := rfl
  exact ⟨hadmissible, hcoherent, cause, t, hfail,
    (contents_of_addReasoner_error hadmissible hcoherent hfail).2 hleaves⟩

/-- The rules of RDF Schema as a reasoner that has one round. -/
def hastyRules : Reasoner := (RuleBase.schemaWithin 1).reasoner 0

/-- Rules with one round fail too, since a chain of four classes takes two. What they have inferred
until then stays in the graph, or else an empty graph for it stays. -/
theorem refusal_leaves_inferences :
    (∃ cause t, (addReasoner hastyRules).exec (chainSession .inline) = (.error cause, t) ∧
      t.store.collection.contents ≠ (chainSession .inline).store.collection.contents) ∧
    ∃ cause t, (addReasoner hastyRules).exec (chainSession .externalized) = (.error cause, t) ∧
      t.store.collection.contents ≠ (chainSession .externalized).store.collection.contents := by
  constructor
  · have hbefore : ((chainSession .inline).store.collection.contents (some ⟨"urn:zoo"⟩)).map
        Finset.card = some 3 := by decide +kernel
    obtain ⟨cause, t, hfail, hafter⟩ : ∃ cause t, (addReasoner hastyRules).exec
        (chainSession .inline) = (.error cause, t) ∧
          (t.store.collection.contents (some ⟨"urn:zoo"⟩)).map Finset.card = some 5 :=
      exists_error_of_run (by decide +kernel)
    refine ⟨cause, t, hfail, fun hsame => ?_⟩
    rw [hsame, hbefore] at hafter
    exact absurd hafter (by decide)
  · have hbefore : (chainSession .externalized).store.collection.contents
        (some ⟨defaultInferenceGraph⟩) = none := by decide +kernel
    obtain ⟨cause, t, hfail, hafter⟩ : ∃ cause t, (addReasoner hastyRules).exec
        (chainSession .externalized) = (.error cause, t) ∧
          (t.store.collection.contents (some ⟨defaultInferenceGraph⟩)).map Finset.card = some 0 :=
      exists_error_of_run (by decide +kernel)
    refine ⟨cause, t, hfail, fun hsame => ?_⟩
    rw [hsame, hbefore] at hafter
    exact nomatch hafter

end StoreM

end RdfStore
