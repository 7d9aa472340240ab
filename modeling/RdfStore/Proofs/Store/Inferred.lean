import RdfStore.Proofs.Store.Trace
import RdfStore.Proofs.Store.Frame

/-!
# Where inferred triples come from

Whatever is done with a store that was empty at first, each triple under the reserved name was
brought in by a run of a reasoner, and where triples are inferred into the graphs the reserved name
is never used (`Session.inferred_from_calls`). Each operation keeps this, if the calls that it makes
are counted in. Where triples are inferred into the graphs, it matters that reasoners leave the
names of these: the name of a graph is compared with the reserved one before the reasoners run.
-/

namespace RdfStore

/-! ## Accounts of a session -/

namespace Session

/-- The triples under the reserved name. -/
def inferred (s : Session) : Finset Triple :=
  (s.store.collection.contents (some s.store.inferenceGraph)).getD ∅

/-- The session has the settings of a store, and calls account for its inferred triples, provided
that reasoners keep names. This is one assumption about a whole run, so it comes in from outside. -/
structure Accounted (kept : Prop) (start : Store) (calls : List ReasonerCall) (s : Session) :
    Prop where
  settings : s.store.settings = start.settings
  inferenceGraph : s.store.inferenceGraph = start.inferenceGraph
  coherent : s.store.collection.Coherent
  keepsNames : kept → s.KeepsNames
  /-- A call has produced each inferred triple. -/
  produced : kept → ∀ t ∈ s.inferred, ∃ call ∈ calls, call.Produces t
  /-- The reserved name is not used where triples are inferred into the graphs. -/
  unused : kept → s.store.settings.inferenceMode = .inline →
    s.store.collection.contents (some s.store.inferenceGraph) = none

namespace Accounted

variable {kept : Prop} {start : Store} {calls more : List ReasonerCall} {s : Session}
  {c : Collection}

theorem mono (h : s.Accounted kept start calls) (hsub : calls ⊆ more) :
    s.Accounted kept start more where
  settings := h.settings
  inferenceGraph := h.inferenceGraph
  coherent := h.coherent
  keepsNames := h.keepsNames
  produced hkept t ht := by
    obtain ⟨call, hcall, hproduces⟩ := h.produced hkept t ht
    exact ⟨call, hsub hcall, hproduces⟩
  unused := h.unused

theorem withSupply (h : s.Accounted kept start calls) (u : Supply) :
    (s.withSupply u).Accounted kept start calls :=
  ⟨h.settings, h.inferenceGraph, h.coherent, h.keepsNames, h.produced, h.unused⟩

theorem withReasoners (h : s.Accounted kept start calls) {es : List Reasoner}
    (hes : kept → start.settings.inferenceMode = .inline → ∀ e ∈ es, e.KeepsName) :
    (s.withReasoners es).Accounted kept start calls where
  settings := h.settings
  inferenceGraph := h.inferenceGraph
  coherent := h.coherent
  keepsNames hkept hmode := by
    refine hes hkept ?_
    rw [← h.settings]
    exact hmode
  produced := h.produced
  unused := h.unused

/-- Reasoners may go. -/
theorem filterReasoners (h : s.Accounted kept start calls) (keep : Reasoner → Bool) :
    (s.withReasoners (s.store.reasoners.filter keep)).Accounted kept start calls := by
  refine h.withReasoners fun hkept hmode e he =>
    h.keepsNames hkept ?_ e (List.mem_of_mem_filter he)
  rw [h.settings]
  exact hmode

/-- Nothing has to be accounted for if nothing comes in under the reserved name. -/
theorem withCollection (h : s.Accounted kept start calls) (hc : c.Coherent)
    (hsub : kept → ∀ S, c.contents (some s.store.inferenceGraph) = some S →
      ∃ T, s.store.collection.contents (some s.store.inferenceGraph) = some T ∧ S ⊆ T) :
    (s.withCollection c).Accounted kept start calls where
  settings := h.settings
  inferenceGraph := h.inferenceGraph
  coherent := hc
  keepsNames := h.keepsNames
  produced hkept t ht := by
    change t ∈ (c.contents (some s.store.inferenceGraph)).getD ∅ at ht
    cases hS : c.contents (some s.store.inferenceGraph) with
    | none =>
      rw [hS] at ht
      exact absurd ht (Finset.notMem_empty t)
    | some S =>
      obtain ⟨T, hT, hST⟩ := hsub hkept S hS
      rw [hS] at ht
      refine h.produced hkept t ?_
      unfold inferred
      rw [hT]
      exact hST ht
  unused hkept hmode := by
    show c.contents (some s.store.inferenceGraph) = none
    cases hS : c.contents (some s.store.inferenceGraph) with
    | none => rfl
    | some S =>
      obtain ⟨T, hT, -⟩ := hsub hkept S hS
      exact nomatch (h.unused hkept hmode).symm.trans hT

/-- A change under another name need not be accounted for. -/
theorem update_other (h : s.Accounted kept start calls) (hc : c.Coherent) {name : GraphName}
    {S : Option (Finset Triple)} (hname : kept → name ≠ some s.store.inferenceGraph)
    (hcontents : c.contents = Function.update s.store.collection.contents name S) :
    (s.withCollection c).Accounted kept start calls := by
  refine h.withCollection hc fun hkept T hT => ⟨T, ?_, subset_rfl⟩
  rwa [hcontents, Function.update_of_ne (hname hkept).symm] at hT

/-- The graph of inferred triples may be written with what is accounted for. -/
theorem fill (h : s.Accounted kept start calls)
    (hmode : s.store.settings.inferenceMode = .externalized) {g : Graph}
    (hg : ∀ t ∈ g.members, t ∈ s.inferred ∨ ∃ call ∈ calls, call.Produces t) :
    (s.withCollection (s.store.collection.fill (some s.store.inferenceGraph) g)).Accounted
      kept start calls where
  settings := h.settings
  inferenceGraph := h.inferenceGraph
  coherent := h.coherent.fill _ g
  keepsNames := h.keepsNames
  produced hkept t ht := by
    change t ∈ ((s.store.collection.fill (some s.store.inferenceGraph) g).contents
      (some s.store.inferenceGraph)).getD ∅ at ht
    rw [h.coherent.contents_fill, Function.update_self] at ht
    exact (hg t ht).elim (h.produced hkept t) id
  unused _ hinline := nomatch hinline.symm.trans hmode

/-- Triples that are accounted for may be added to the inferred ones. -/
theorem absorb (h : s.Accounted kept start calls)
    (hmode : s.store.settings.inferenceMode = .externalized) {g : Graph}
    (hg : ∀ t ∈ g.members, ∃ call ∈ calls, call.Produces t) :
    (s.withCollection (s.store.collection.absorb (some s.store.inferenceGraph) g)).Accounted
      kept start calls := by
  refine h.fill hmode fun t ht => ?_
  rw [Graph.merge, Graph.members_assertAll, Collection.members_getOrCreate,
    Finset.mem_union] at ht
  exact ht.imp id (hg t)

/-- A graph may be written if nothing comes into it or it is not the graph of inferred triples. -/
theorem write (h : s.Accounted kept start calls) {name : GraphName} {r : GraphRef}
    (hr : s.store.collection.ref? name = some r) {g : Graph}
    (hg : name = some s.store.inferenceGraph → g.members ⊆ (s.store.collection.deref r).members) :
    (s.withCollection (s.store.collection.write r g)).Accounted kept start calls := by
  have hcontents := h.coherent.contents_write hr g
  by_cases hname : name = some s.store.inferenceGraph
  · refine h.withCollection (h.coherent.write r g) fun _ S hS => ?_
    rw [hcontents, hname, Function.update_self] at hS
    cases hS
    exact ⟨_, Collection.contents_of_ref? (hname ▸ hr), hg hname⟩
  · exact h.update_other (h.coherent.write r g) (fun _ => hname) hcontents

/-- Whatever is removed, nothing comes in. -/
theorem retract (h : s.Accounted kept start calls) (name : GraphName)
    (ts : List Triple) :
    (s.withCollection (s.store.collection.retract name ts)).Accounted kept start calls := by
  cases hr : s.store.collection.ref? name with
  | none =>
    rw [Collection.retract_of_none hr]
    exact h
  | some r =>
    rw [Collection.retract_of_some hr]
    refine h.write hr fun _ => ?_
    rw [Graph.members_retractAll]
    exact Finset.sdiff_subset

theorem remove (h : s.Accounted kept start calls) (name : GraphName) :
    (s.withCollection (s.store.collection.remove name).2).Accounted kept start calls := by
  refine h.withCollection (h.coherent.remove name) fun _ S hS => ⟨S, ?_, subset_rfl⟩
  rw [Collection.contents_remove] at hS
  by_cases hname : some s.store.inferenceGraph = name
  · rw [hname, Function.update_self] at hS
    exact nomatch hS
  · rwa [Function.update_of_ne hname] at hS

end Accounted

end Session

/-! ## Traced actions -/

namespace Traced

open StoreM

variable {α β : Type} {kept : Prop} {start : Store} {calls : List ReasonerCall} {s t : Session}

/-- The calls so far and those of the action account for the session that it leaves. -/
def Accounts (kept : Prop) (start : Store) (calls : List ReasonerCall) (s : Session)
    (m : Traced α) : Prop :=
  (m.action.exec s).2.Accounted kept start (calls ++ m.calls s)

theorem accounts_lift {m : StoreM α} (h : (m.exec s).2.Accounted kept start calls) :
    (liftM m : Traced α).Accounts kept start calls s :=
  h.mono (List.subset_append_left calls _)

/-- An action that only computes may call reasoners as it likes. -/
theorem accounts_of_lift {ε : Type} {m : Traced α} {wrap : ε → StoreError} {r : Except ε α}
    (hm : m.action = StoreM.lift wrap r) (h : s.Accounted kept start calls) :
    m.Accounts kept start calls s := by
  unfold Accounts
  rw [hm, exec_lift]
  exact h.mono (List.subset_append_left calls _)

/-- An action goes on with the calls that were made before. -/
theorem Accounts.bind {m : Traced α} {f : α → Traced β} (hm : m.Accounts kept start calls s)
    (hf : ∀ a t, m.action.exec s = (.ok a, t) → t.Accounted kept start (calls ++ m.calls s) →
      (f a).Accounts kept start (calls ++ m.calls s) t) : (m >>= f).Accounts kept start calls s := by
  unfold Accounts at hm ⊢
  show ((m.action >>= fun a => (f a).action).exec s).2.Accounted kept start _
  rcases hexec : m.action.exec s with ⟨e | a, t⟩
  · rw [hexec] at hm
    rw [exec_bind_of_error hexec, calls_bind_of_error hexec]
    exact hm
  · rw [hexec] at hm
    have hrest := hf a t hexec hm
    unfold Accounts at hrest
    rwa [exec_bind_of_ok hexec, calls_bind_of_ok hexec, ← List.append_assoc]

/-- An action that calls no reasoner only takes the session further. -/
theorem accounts_lift_bind {m : StoreM α} {f : α → Traced β} {a : α} (hm : m.exec s = (.ok a, t))
    (hf : (f a).Accounts kept start calls t) :
    ((liftM m : Traced α) >>= f).Accounts kept start calls s := by
  have hcalls : ((liftM m : Traced α) >>= f).calls s = (f a).calls t := calls_bind_of_ok hm
  unfold Accounts at hf ⊢
  show ((m >>= fun a => (f a).action).exec s).2.Accounted kept start _
  rwa [exec_bind_of_ok hm, hcalls]

theorem accounts_lift_bind_of_error {m : StoreM α} {f : α → Traced β} {e : StoreError}
    (hm : m.exec s = (.error e, t)) (ht : t.Accounted kept start calls) :
    ((liftM m : Traced α) >>= f).Accounts kept start calls s := by
  unfold Accounts
  show ((m >>= fun a => (f a).action).exec s).2.Accounted kept start _
  rw [exec_bind_of_error hm]
  exact ht.mono (List.subset_append_left calls _)

theorem accounts_reading_bind {m : StoreM α} {f : α → Traced β} (hm : m.ReadsOnly)
    (h : s.Accounted kept start calls) (hf : ∀ a, (f a).Accounts kept start calls s) :
    ((liftM m : Traced α) >>= f).Accounts kept start calls s := by
  rcases hexec : m.exec s with ⟨e | a, t⟩
  · obtain rfl := hm.eq_of_exec hexec
    exact accounts_lift_bind_of_error hexec h
  · obtain rfl := hm.eq_of_exec hexec
    exact accounts_lift_bind hexec (hf a)

theorem accounts_extend_bind {e : Reasoner} {g : Graph}
    {f : Graph × Except ReasonerError Unit → Traced β}
    (hf : (f (e.extend g)).Accounts kept start (calls ++ [.extend e g]) s) :
    (extend e g >>= f).Accounts kept start calls s := by
  unfold Accounts at hf ⊢
  rw [action_extend_bind]
  rwa [List.append_assoc] at hf

theorem calls_derive_bind {e : Reasoner} {input output : Graph}
    {f : Graph × Except ReasonerError Unit → Traced β} : (derive e input output >>= f).calls s =
      .derive e input output :: (f (e.derive input output)).calls s := rfl

theorem accounts_derive_bind {e : Reasoner} {input output : Graph}
    {f : Graph × Except ReasonerError Unit → Traced β}
    (hf : (f (e.derive input output)).Accounts kept start (calls ++ [.derive e input output]) s) :
    (derive e input output >>= f).Accounts kept start calls s := by
  unfold Accounts at hf ⊢
  rw [action_derive_bind]
  rwa [List.append_assoc] at hf

theorem accounts_forM {f : α → Traced Unit}
    (hf : ∀ x calls s, s.Accounted kept start calls → (f x).Accounts kept start calls s) (xs : List α)
    (h : s.Accounted kept start calls) : (xs.forM f).Accounts kept start calls s := by
  induction xs generalizing calls s with
  | nil => exact accounts_lift h
  | cons x xs ih => exact (hf x calls s h).bind fun _ t _ ht => ih ht

theorem Accounts.handle {m : Traced α} {f : StoreError → Traced α}
    (hm : m.Accounts kept start calls s)
    (hf : ∀ e t, t.Accounted kept start (calls ++ m.calls s) →
      (f e).Accounts kept start (calls ++ m.calls s) t) :
    (tryCatch m f).Accounts kept start calls s := by
  unfold Accounts at hm ⊢
  show ((tryCatch m.action fun e => (f e).action).exec s).2.Accounted kept start _
  rw [exec_tryCatch]
  rcases hexec : m.action.exec s with ⟨e | a, t⟩
  · rw [hexec] at hm
    have hrest := hf e t hm
    unfold Accounts at hrest
    rwa [calls_tryCatch_of_error hexec, ← List.append_assoc]
  · rw [hexec] at hm
    rwa [calls_tryCatch_of_ok hexec]

/-! ## Reasoners -/

/-- What reasoners infer one after the other is produced by one of them. -/
theorem produced_deriveAll {input output g : Graph} {es : List Reasoner} (s : Session)
    (h : StoreM.deriveAll input es output = .ok g) {t : Triple} (ht : t ∈ g.members) :
    t ∈ output.members ∨ ∃ call ∈ (deriveAll input es output).calls s, call.Produces t := by
  induction es generalizing output with
  | nil =>
    cases h
    exact .inl ht
  | cons e es ih =>
    rcases hd : e.derive input output with ⟨output', cause | _⟩
    · simp only [StoreM.deriveAll, hd, reduceCtorEq] at h
    · simp only [StoreM.deriveAll, hd] at h
      have hcalls : (deriveAll input (e :: es) output).calls s =
          .derive e input output :: (deriveAll input es output').calls s := by
        simp only [deriveAll, calls_derive_bind, hd]
      rw [hcalls]
      rcases ih h with hfirst | ⟨call, hcall, hproduces⟩
      · by_cases hold : t ∈ output.members
        · exact .inl hold
        · refine .inr ⟨_, List.mem_cons_self, ?_, mt Graph.mem_members.2 hold⟩
          rw [hd]
          exact Graph.mem_members.1 hfirst
      · exact .inr ⟨call, List.mem_cons_of_mem _ hcall, hproduces⟩

theorem accounts_enter {g : Graph} (h : s.Accounted kept start calls)
    (hname : kept → g.name ≠ some s.store.inferenceGraph) (merge : Bool) :
    (liftM (enter g merge) : Traced GraphRef).Accounts kept start calls s := by
  refine accounts_lift ?_
  rw [exec_enter]
  cases hadd : s.store.collection.add g merge with
  | error e => exact h
  | ok a =>
    obtain ⟨hc, hcontents⟩ := h.coherent.add hadd
    exact h.update_other hc hname hcontents

theorem accounts_addGraph (g : Graph) (merge : Bool) (h : s.Accounted kept start calls) :
    (addGraph g merge).Accounts kept start calls s := by
  refine accounts_lift_bind (exec_get s) ?_
  dsimp only
  split
  · exact accounts_lift h
  next hname =>
  cases hmode : s.store.settings.inferenceMode with
  | inline =>
    refine (accounts_of_lift (action_extendAll _ g) h).bind fun g' t hexec ht => ?_
    rw [action_extendAll, exec_lift_eq_ok_iff] at hexec
    obtain ⟨hextend, rfl⟩ := hexec
    refine accounts_enter ht (fun hkept => ?_) merge
    rwa [name_extendAll (h.keepsNames hkept hmode) hextend]
  | externalized =>
    dsimp only
    split
    · exact accounts_enter h (fun _ => hname) merge
    refine (accounts_of_lift (action_deriveAll g _ _) h).bind fun inferred t hexec ht => ?_
    rw [action_deriveAll, exec_lift_eq_ok_iff] at hexec
    obtain ⟨hderive, rfl⟩ := hexec
    refine (accounts_enter ht (fun _ => hname) merge).bind fun r u _ hu => ?_
    -- The graph is in, and the settings are what they were.
    have hmode' : u.store.settings.inferenceMode = .externalized := by
      rw [hu.settings, ← h.settings, hmode]
    refine accounts_lift_bind (exec_auxiliary u) (accounts_lift_bind (exec_collection _) ?_)
    refine accounts_lift_bind (exec_writeRef _ _ _) (accounts_lift (hu.absorb hmode' ?_))
    intro x hx
    rcases produced_deriveAll s hderive hx with hnone | ⟨call, hcall, hproduces⟩
    · exact absurd hnone (Finset.notMem_empty x)
    · exact ⟨call, List.mem_append_left _ (List.mem_append_right calls hcall), hproduces⟩

/-- A reasoner accounts for what it writes. -/
theorem accounts_applyReasoner (e : Reasoner) (r : GraphRef) (h : s.Accounted kept start calls) :
    (applyReasoner e r).Accounts kept start calls s := by
  refine accounts_lift_bind (exec_get s) ?_
  cases hmode : s.store.settings.inferenceMode with
  | inline =>
    refine accounts_lift_bind (exec_collection s) (accounts_extend_bind ?_)
    refine accounts_lift_bind (exec_writeRef _ _ s) (accounts_lift ?_)
    rw [exec_lift]
    -- A graph that is written stays where it is, and nothing is under the reserved name.
    refine (h.mono (List.subset_append_left calls _)).withCollection (h.coherent.write r _) ?_
    intro hkept S hS
    rw [Collection.contents_write_eq_none_iff.2 (h.unused hkept hmode)] at hS
    exact nomatch hS
  | externalized =>
    refine accounts_lift_bind (exec_auxiliary s) ?_
    refine accounts_lift_bind (exec_collection _) (accounts_derive_bind ?_)
    refine accounts_lift_bind (exec_writeRef _ _ _) (accounts_lift ?_)
    rw [exec_lift]
    refine (h.mono (List.subset_append_left calls _)).fill hmode fun t ht => ?_
    unfold Session.inferred
    rw [← Collection.members_getOrCreate]
    refine or_iff_not_imp_left.2 fun hold => ⟨_, List.mem_append_right calls List.mem_cons_self, ?_⟩
    exact ⟨Graph.mem_members.1 ht, mt Graph.mem_members.2 hold⟩

theorem accounts_applyInference (r : GraphRef) (h : s.Accounted kept start calls) :
    (applyInference r).Accounts kept start calls s :=
  accounts_lift_bind (exec_get s) (accounts_forM (fun e _ _ => accounts_applyReasoner e r) _ h)

theorem accounts_addReasoner {e : Reasoner}
    (he : kept → start.settings.inferenceMode = .inline → e.KeepsName)
    (h : s.Accounted kept start calls) : (addReasoner e).Accounts kept start calls s := by
  have hmodify : (modifyStore fun s => { s with reasoners := s.reasoners ++ [e] }).exec s =
      (.ok (), s.withReasoners (s.store.reasoners ++ [e])) := rfl
  refine accounts_lift_bind hmodify (Accounts.handle ?_ fun error t ht => ?_)
  · refine accounts_lift_bind (exec_collection _) ?_
    refine accounts_forM (fun r _ _ => accounts_applyReasoner e r) _ (h.withReasoners ?_)
    intro hkept hmode
    refine List.forall_mem_append.2 ⟨h.keepsNames hkept ?_, ?_⟩
    · rwa [h.settings]
    · exact List.forall_mem_singleton.2 (he hkept hmode)
  · -- The reasoner goes, and what it wrote before it failed stays.
    have hremove : (removeReasoner e.id).exec t = (.ok _, t.withReasoners _) := rfl
    exact accounts_lift_bind hremove (accounts_lift (ht.filterReasoners _))

/-! ## Commands -/

theorem accounts_insertInto (name : GraphName) (ts : List Triple)
    (h : s.Accounted kept start calls) : (insertInto name ts).Accounts kept start calls s := by
  by_cases hname : name = some s.store.inferenceGraph
  · exact accounts_lift_bind_of_error ((exec_requireWritable name s).trans (if_pos hname)) h
  refine accounts_lift_bind (exec_requireWritable_of_ne hname) ?_
  refine accounts_lift_bind (exec_collection s) ?_
  cases hr : s.store.collection.ref? name with
  | none => exact (accounts_addGraph _ true h).bind fun _ _ _ ht => accounts_lift ht
  | some r =>
    refine accounts_lift_bind (exec_collection s) (accounts_lift ?_)
    exact h.write hr fun he => absurd he hname

theorem accounts_modifyGraph (name : GraphName) (delete insert : List Pattern) (p : GraphPattern)
    (now : DateTime) (h : s.Accounted kept start calls) :
    (modifyGraph name delete insert p now).Accounts kept start calls s := by
  have hreplace (rows : List Row) :
      (replaceTriples name delete insert rows).Accounts kept start calls s := by
    refine accounts_lift_bind (exec_constructGraph delete rows s) ?_
    refine accounts_lift_bind (exec_constructGraph insert rows _) ?_
    refine accounts_lift_bind (exec_deleteFrom name _ _) ?_
    exact accounts_insertInto name _ (((h.withSupply _).withSupply _).retract name _)
  have hrest : (if name.isNone || s.store.collection.contains name then
        (modifiedRows name p now : Traced (List Row)) >>= replaceTriples name delete insert
      else pure ()).Accounts kept start calls s := by
    split
    · exact accounts_reading_bind (readsOnly_modifiedRows name p now) h hreplace
    · exact accounts_lift h
  unfold modifyGraph
  dsimp only
  split
  · exact accounts_reading_bind (readsOnly_requireWritable name) h fun _ =>
      accounts_lift_bind (exec_collection s) hrest
  · exact accounts_lift_bind (exec_collection s) hrest

/-- **Commands let nothing in.** -/
theorem accounts_runCommand (now : DateTime) (command : Command)
    (h : s.Accounted kept start calls) : (runCommand now command).Accounts kept start calls s := by
  cases command with
  | insertData name ts => exact accounts_insertInto name ts h
  | deleteData name ts =>
    refine accounts_lift (m := StoreM.runCommand now (.deleteData name ts)) ?_
    rw [StoreM.runCommand, exec_deleteFrom]
    exact h.retract name ts
  | modify name delete insert p => exact accounts_modifyGraph name delete insert p now h
  | clear name =>
    refine accounts_lift (m := StoreM.runCommand now (.clear name)) ?_
    unfold StoreM.runCommand
    rw [exec_bind_of_ok (exec_collection s)]
    cases hr : s.store.collection.ref? name with
    | none => exact h
    | some r => exact h.write hr fun _ => Finset.empty_subset _
  | create i silent =>
    refine accounts_lift_bind (exec_collection s) ?_
    split
    · split
      · exact accounts_lift h
      · exact accounts_lift h
    · exact (accounts_addGraph _ false h).bind fun _ _ _ ht => accounts_lift ht
  | drop name silent =>
    refine accounts_lift (m := StoreM.runCommand now (.drop name silent)) ?_
    have hremove : (removeGraph name).exec s =
        (.ok (s.store.collection.remove name).1.isSome,
          s.withCollection (s.store.collection.remove name).2) := rfl
    unfold StoreM.runCommand
    rw [exec_bind_of_ok hremove]
    split
    · exact h.remove name
    · exact h.remove name

end Traced

/-! ## Runs -/

/-- **Every operation accounts for what is inferred.** -/
theorem Operation.accounts_traced {kept : Prop} {start : Store} {calls : List ReasonerCall}
    {s : Session} {o : Operation}
    (ho : kept → start.settings.inferenceMode = .inline → ∀ e, o = .addReasoner e → e.KeepsName)
    (h : s.Accounted kept start calls) : o.traced.Accounts kept start calls s := by
  cases o with
  | addGraph g merge =>
    exact (Traced.accounts_addGraph g merge h).bind fun _ _ _ ht => Traced.accounts_lift ht
  | removeGraph name => exact Traced.accounts_lift (m := run (.removeGraph name)) (h.remove name)
  | query q now =>
    refine Traced.accounts_lift (m := run (.query q now)) ?_
    obtain ⟨u, hu⟩ := (StoreM.takesBlanks_query q now).bind
      (fun _ => (StoreM.readsOnly_pure ()).takesBlanks) s
    show (StoreM.exec (StoreM.query q now >>= fun _ => pure ()) s).2.Accounted kept start calls
    rw [hu]
    exact h.withSupply u
  | update now commands =>
    exact Traced.accounts_forM (fun command _ _ => Traced.accounts_runCommand now command) _ h
  | addReasoner e => exact Traced.accounts_addReasoner (fun hkept hmode => ho hkept hmode e rfl) h
  | removeReasoner id =>
    exact Traced.accounts_lift (m := run (.removeReasoner id)) (h.filterReasoners _)
  | clearReasoners =>
    exact Traced.accounts_lift (m := run .clearReasoners) (h.withReasoners fun _ _ => nofun)
  | applyInference r => exact Traced.accounts_applyInference r h

namespace Session

/-- The session after operations one after the other, whatever comes of each. -/
def after (s : Session) : List Operation → Session
  | [] => s
  | o :: os => (o.run.exec s).2.after os

/-- The calls of reasoners on the way, in order. -/
def callsDuring (s : Session) : List Operation → List ReasonerCall
  | [] => []
  | o :: os => o.traced.calls s ++ (o.run.exec s).2.callsDuring os

theorem Accounted.after {kept : Prop} {start : Store} {calls : List ReasonerCall} {s : Session}
    (h : s.Accounted kept start calls) {os : List Operation}
    (hos : kept → start.settings.inferenceMode = .inline →
      ∀ e, .addReasoner e ∈ os → e.KeepsName) :
    (s.after os).Accounted kept start (calls ++ s.callsDuring os) := by
  -- By induction on the operations; the account grows by the calls of each.
  induction os generalizing calls s with
  | nil => exact h.mono (List.subset_append_left calls _)
  | cons o os ih =>
    have hstep := o.accounts_traced
      (fun hkept hmode e he => hos hkept hmode e (he ▸ List.mem_cons_self)) h
    unfold Traced.Accounts at hstep
    rw [o.action_traced] at hstep
    have hrest := ih hstep fun hkept hmode e he => hos hkept hmode e (List.mem_cons_of_mem o he)
    rwa [List.append_assoc] at hrest

/-- Where there are no graphs there is nothing to account for. -/
theorem accounted_of_isEmpty {kept : Prop} {s : Session}
    (hgraphs : s.store.collection.isEmpty = true) (hkeeps : kept → s.KeepsNames) :
    s.Accounted kept s.store [] := by
  have hunused : s.store.collection.contents (some s.store.inferenceGraph) = none :=
    Collection.contents_eq_none_iff.2 (Collection.ref?_of_isEmpty hgraphs _)
  refine ⟨rfl, rfl, Collection.coherent_of_ref? (Collection.ref?_of_isEmpty hgraphs), hkeeps, ?_,
    fun _ _ => hunused⟩
  intro _ t ht
  unfold inferred at ht
  rw [hunused] at ht
  exact absurd ht (Finset.notMem_empty t)

/-- Whatever operations follow on a store without graphs, names do not share graphs. Nothing is
assumed of the reasoners. -/
theorem coherent_after (s : Session) (hgraphs : s.store.collection.isEmpty = true)
    (os : List Operation) : (s.after os).store.collection.Coherent := by
  have hstart : s.Accounted False s.store [] := accounted_of_isEmpty hgraphs nofun
  exact (hstart.after nofun).coherent

/-- **Inferred triples come from reasoners.** Start from a store without graphs and let any
operations follow. Each triple under the reserved name was produced by a call of a reasoner
that one of them made, and if triples are inferred into the graphs there is no graph of this name.
The calls are those of the operations themselves, and the settings do not change on the way. As the
operations are any, this is so after each of them. In that mode the reasoners, those that are there
and those that are registered, must leave the names of the graphs into which they write; in the
other one they may do anything. -/
theorem inferred_from_calls (s : Session) (hgraphs : s.store.collection.isEmpty = true)
    (os : List Operation) (hkeeps : s.store.settings.inferenceMode = .inline →
      ∀ e, e ∈ s.store.reasoners ∨ .addReasoner e ∈ os → e.KeepsName) :
    (∀ o : Operation, o.traced.action = o.run) ∧
      (s.after os).store.settings = s.store.settings ∧
      (s.after os).store.inferenceGraph = s.store.inferenceGraph ∧
      (∀ t ∈ ((s.after os).store.collection.contents (some s.store.inferenceGraph)).getD ∅,
        ∃ call ∈ s.callsDuring os, call.Produces t) ∧
      (s.store.settings.inferenceMode = .inline →
        (s.after os).store.collection.contents (some s.store.inferenceGraph) = none) := by
  have hstart : s.Accounted True s.store [] :=
    accounted_of_isEmpty hgraphs fun _ hmode e he => hkeeps hmode e (.inl he)
  have hend := hstart.after fun _ hmode e he => hkeeps hmode e (.inr he)
  refine ⟨Operation.action_traced, hend.settings, hend.inferenceGraph, ?_, ?_⟩
  · rw [← hend.inferenceGraph]
    exact hend.produced trivial
  · rw [← hend.inferenceGraph, ← hend.settings]
    exact hend.unused trivial

/-- A triple that a reasoner notes for the one that is added. -/
def seenTriple : Triple := ⟨.iri ⟨"urn:a"⟩, .iri ⟨"urn:seen"⟩, .iri ⟨"urn:b"⟩⟩

/-- A reasoner comes, a graph comes in, and the reasoner goes again. -/
def seenOperations : List Operation :=
  let known : Triple := ⟨.iri ⟨"urn:a"⟩, .iri ⟨"urn:knows"⟩, .iri ⟨"urn:b"⟩⟩
  [.addReasoner StoreM.seeing, .addGraph (.ofTriples (some ⟨"urn:facts"⟩) [known]) false,
    .clearReasoners]

/-- The note stays, and a call accounts for it. Where it is taken into the graph of facts, nothing
comes under the reserved name. -/
theorem inferred_from_calls_seen :
    (new.inMode .externalized).store.collection.isEmpty = true ∧
      (∀ e, .addReasoner e ∈ seenOperations → e.KeepsName) ∧
      seenTriple ∈ (((new.inMode .externalized).after seenOperations).store.collection.contents
        (some (new.inMode .externalized).store.inferenceGraph)).getD ∅ ∧
      (∃ call ∈ (new.inMode .externalized).callsDuring seenOperations,
        call.Produces seenTriple) ∧
      ((new.inMode .inline).after seenOperations).store.collection.contents
        (some (new.inMode .inline).store.inferenceGraph) = none := by
  have hseen : seenTriple ∈ (((new.inMode .externalized).after
      seenOperations).store.collection.contents
        (some (new.inMode .externalized).store.inferenceGraph)).getD ∅ := by decide +kernel
  have hkeeps : ∀ e, .addReasoner e ∈ seenOperations → e.KeepsName := by
    intro e he
    obtain rfl : e = StoreM.seeing := by simpa [seenOperations] using he
    exact Reasoner.keepsName_ofConclusions _ _ _
  have hcalls := inferred_from_calls (new.inMode .externalized) rfl seenOperations nofun
  have hinline := inferred_from_calls (new.inMode .inline) rfl seenOperations fun _ e he =>
    hkeeps e (he.resolve_left nofun)
  exact ⟨rfl, hkeeps, hseen, hcalls.2.2.2.1 seenTriple hseen, hinline.2.2.2.2 rfl⟩

end Session

end RdfStore
