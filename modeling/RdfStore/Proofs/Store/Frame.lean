import RdfStore.Proofs.Reasoning.Deriving
import RdfStore.Proofs.Store.Adding
import RdfStore.Proofs.Update.Atomicity

/-!
# What adding a graph leaves alone

Adding a graph happens as a whole or not at all. If it fails, be it after some reasoners have
written into the graph, the session is what it was; and if it does not, only the graph of that name
and the graph of inferred triples are others than before (`StoreM.addGraph_all_or_nothing`).
-/

namespace RdfStore

namespace Collection

variable {X Y : Set GraphName} {c d e : Collection} {g : Graph} {name : GraphName} {r : GraphRef}
  {merge : Bool}

/-! ## Frames -/

/-- The second collection has come from the first by changes under some names only. What was shared
is still shared, other names lead where they led, and graphs that were not under one of the names
are as they were. -/
structure Frame (X : Set GraphName) (c d : Collection) : Prop where
  longer : c.shared.length ≤ d.shared.length
  refs : ∀ name ∉ X, d.ref? name = c.ref? name
  /-- One of the names leads where it led, or to a graph that was not shared before. -/
  fresh : ∀ name ∈ X, ∀ r, d.ref? name = some r → c.ref? name = some r ∨ c.shared.length ≤ r.index
  graphs : ∀ r, r.index < c.shared.length → (∀ name ∈ X, c.ref? name ≠ some r) →
    d.deref r = c.deref r

namespace Frame

theorem refl (X : Set GraphName) (c : Collection) : Frame X c c :=
  ⟨le_rfl, fun _ _ => rfl, fun _ _ _ h => .inl h, fun _ _ _ => rfl⟩

theorem mono (h : Frame X c d) (hsub : X ⊆ Y) : Frame Y c d where
  longer := h.longer
  refs name hname := h.refs name fun hX => hname (hsub hX)
  fresh name hname r hr := by
    by_cases hX : name ∈ X
    · exact h.fresh name hX r hr
    · rw [h.refs name hX] at hr
      exact .inl hr
  graphs r hr hother := h.graphs r hr fun name hX => hother name (hsub hX)

theorem trans (h : Frame X c d) (h' : Frame X d e) : Frame X c e where
  longer := h.longer.trans h'.longer
  refs name hname := (h'.refs name hname).trans (h.refs name hname)
  fresh name hname r hr := by
    rcases h'.fresh name hname r hr with hr | hr
    · exact h.fresh name hname r hr
    · exact .inr (h.longer.trans hr)
  graphs r hr hother := by
    have hlonger : r.index < d.shared.length := Nat.lt_of_lt_of_le hr h.longer
    rw [h'.graphs r hlonger, h.graphs r hr hother]
    intro name hname hd
    rcases h.fresh name hname r hd with hc | hle
    · exact hother name hname hc
    · exact absurd hr (Nat.not_lt.2 hle)

/-- Where names do not share graphs, the graphs of all other names are as they were. -/
theorem graph?_eq (h : Frame X c d) (hc : c.Coherent) (hname : name ∉ X) :
    d.graph? name = c.graph? name := by
  unfold graph?
  rw [h.refs name hname]
  cases hr : c.ref? name with
  | none => rfl
  | some r =>
    refine congrArg some (h.graphs r (hc.bounded name r hr) fun name' hname' hr' => ?_)
    exact hname (hc.separate name name' r hr hr' ▸ hname')

end Frame

theorem frame_notify (X : Set GraphName) (c : Collection) (event : GraphEvent) :
    Frame X c (c.notify event) :=
  ⟨le_rfl, fun _ _ => rfl, fun _ _ _ h => .inl h, fun _ _ _ => rfl⟩

theorem frame_write (hr : c.ref? name = some r) (g : Graph) : Frame {name} c (c.write r g) where
  longer := by
    show c.shared.length ≤ (c.shared.set r.index g).length
    rw [List.length_set]
  refs _ _ := rfl
  fresh _ _ _ h := .inl h
  graphs r' hr' hother := by
    have hne : ¬(r = r' ∧ r.index < c.shared.length) := by
      rintro ⟨rfl, -⟩
      exact hother name rfl hr
    rw [deref_write, if_neg hne]

theorem frame_enter (c : Collection) (g : Graph) : Frame {g.name} c (c.enter g).2 where
  longer := by
    show c.shared.length ≤ (c.shared ++ [g]).length
    rw [List.length_append]
    exact Nat.le_add_right _ _
  refs name hname := ref?_enter.trans (if_neg hname)
  fresh name hname r hr := by
    rw [ref?_enter, if_pos (Set.mem_singleton_iff.1 hname)] at hr
    cases hr
    exact .inr le_rfl
  graphs r hr _ := by
    have hne : r ≠ (c.enter g).1 := by
      rintro rfl
      exact absurd hr (Nat.lt_irrefl _)
    rw [deref_enter, if_neg hne]

/-- A graph that is added is found under its name. -/
theorem frame_add (hadd : c.add g merge = .ok (r, d)) :
    Frame {g.name} c d ∧ d.ref? g.name = some r := by
  cases hr : c.ref? g.name with
  | none =>
    rw [add_of_none hr] at hadd
    cases hadd
    exact ⟨frame_enter c g, ref?_enter.trans (if_pos rfl)⟩
  | some r' =>
    rw [add_of_some hr] at hadd
    split at hadd
    · cases hadd
      exact ⟨(frame_write hr _).trans (frame_notify _ _ _), hr⟩
    · exact nomatch hadd

theorem frame_getOrCreate (c : Collection) (name : GraphName) :
    Frame {name} c (c.getOrCreate name).2 ∧
      (c.getOrCreate name).2.ref? name = some (c.getOrCreate name).1 := by
  cases hr : c.ref? name with
  | none =>
    rw [getOrCreate_of_none hr]
    exact ⟨frame_enter c (.empty name), ref?_enter.trans (if_pos rfl)⟩
  | some r =>
    rw [getOrCreate_of_some hr]
    exact ⟨.refl _ c, hr⟩

theorem frame_absorb (c : Collection) (name : GraphName) (g : Graph) :
    Frame {name} c (c.absorb name g) := by
  obtain ⟨hframe, hr⟩ := frame_getOrCreate c name
  exact hframe.trans (frame_write hr _)

end Collection

/-- Where triples are inferred into the graphs, the reasoners leave the names of the graphs. -/
def Session.KeepsNames (s : Session) : Prop :=
  s.store.settings.inferenceMode = .inline → ∀ e ∈ s.store.reasoners, e.KeepsName

namespace StoreM

variable {s t : Session} {g h : Graph} {merge : Bool} {e : StoreError} {r : GraphRef}

/-! ## Reasoners that fail -/

/-- A reasoner of a list fails for some graphs that it is given. -/
def FailsWith (es : List Reasoner) (cause : ReasonerError) : Prop :=
  ∃ e ∈ es, (∃ g, (e.extend g).2 = .error cause) ∨
    ∃ input output, (e.derive input output).2 = .error cause

theorem FailsWith.cons {es : List Reasoner} {cause : ReasonerError} (hfails : FailsWith es cause)
    (e : Reasoner) : FailsWith (e :: es) cause := by
  obtain ⟨e', he', hcause⟩ := hfails
  exact ⟨e', List.mem_cons_of_mem e he', hcause⟩

theorem failsWith_of_extendAll {es : List Reasoner} {cause : ReasonerError}
    (hfails : extendAll es g = .error cause) : FailsWith es cause := by
  induction es generalizing g with
  | nil => exact nomatch hfails
  | cons e es ih =>
    unfold extendAll at hfails
    split at hfails
    · exact (ih hfails).cons e
    · next heq =>
      cases hfails
      exact ⟨e, List.mem_cons_self, .inl ⟨g, congrArg Prod.snd heq⟩⟩

theorem failsWith_of_deriveAll {es : List Reasoner} {cause : ReasonerError}
    (hfails : deriveAll g es h = .error cause) : FailsWith es cause := by
  induction es generalizing h with
  | nil => exact nomatch hfails
  | cons e es ih =>
    unfold deriveAll at hfails
    split at hfails
    · exact (ih hfails).cons e
    · next heq =>
      cases hfails
      exact ⟨e, List.mem_cons_self, .inr ⟨g, h, congrArg Prod.snd heq⟩⟩

/-! ## Adding -/

/-- What comes in for a graph: the graph as it is, or what the reasoners make of it. -/
def Brings (s : Session) (g g' : Graph) : Prop :=
  match s.store.settings.inferenceMode with
  | .inline => extendAll s.store.reasoners g = .ok g'
  | .externalized => g' = g

theorem brings_inline (hmode : s.store.settings.inferenceMode = .inline) {g' : Graph} :
    Brings s g g' ↔ extendAll s.store.reasoners g = .ok g' := by
  unfold Brings
  rw [hmode]

theorem brings_externalized (hmode : s.store.settings.inferenceMode = .externalized) {g' : Graph} :
    Brings s g g' ↔ g' = g := by
  unfold Brings
  rw [hmode]

theorem Brings.name_eq {g' : Graph} (h : Brings s g g') (hkeeps : s.KeepsNames) :
    g'.name = g.name := by
  cases hmode : s.store.settings.inferenceMode with
  | inline => exact name_extendAll (hkeeps hmode) ((brings_inline hmode).1 h)
  | externalized => rw [(brings_externalized hmode).1 h]

/-- Why a graph is not added: its name is reserved, a reasoner fails, or there is a graph of the name
under which it would come in, and it may not be merged into that one. -/
def Refuses (s : Session) (g : Graph) (merge : Bool) (e : StoreError) : Prop :=
  (g.name = some s.store.inferenceGraph ∧ e = .reserved s.store.inferenceGraph) ∨
    (∃ cause, FailsWith s.store.reasoners cause ∧ e = .reasoner cause) ∨
    ∃ g', Brings s g g' ∧ (s.store.collection.ref? g'.name).isSome ∧ merge = false ∧
      e = .graphExists ⟨g'.name⟩

theorem Brings.refuses_of_add {g' : Graph} {cause : GraphExists} (hbrings : Brings s g g')
    (h : s.store.collection.add g' merge = .error cause) :
    Refuses s g merge (.graphExists cause) := by
  obtain ⟨hcontents, hmerge, rfl⟩ := Collection.add_eq_error_iff.1 h
  rw [Ne, Collection.contents_eq_none_iff] at hcontents
  exact .inr (.inr ⟨g', hbrings, Option.isSome_iff_ne_none.2 hcontents, hmerge, rfl⟩)

/-- All that can become of a graph: it is refused, and the session is as before, or it comes in, and
after it nothing but inferred triples, under another name. -/
theorem exec_addGraph_cases (s : Session) (g : Graph) (merge : Bool) :
    (∃ e, (addGraph g merge).exec s = (.error e, s) ∧ Refuses s g merge e) ∨
      ∃ g' r c d, Brings s g g' ∧ s.store.collection.add g' merge = .ok (r, c) ∧
        (addGraph g merge).exec s = (.ok r, s.withCollection d) ∧
        c.Frame ({some s.store.inferenceGraph} \ {g'.name}) d := by
  by_cases hname : g.name = some s.store.inferenceGraph
  · exact .inl ⟨_, exec_addGraph_reserved hname merge, .inl ⟨hname, rfl⟩⟩
  cases hmode : s.store.settings.inferenceMode with
  | inline =>
    rw [exec_addGraph_inline hname hmode]
    cases hextend : extendAll s.store.reasoners g with
    | error cause => exact .inl ⟨_, rfl, .inr (.inl ⟨cause, failsWith_of_extendAll hextend, rfl⟩)⟩
    | ok g' =>
      have hbrings : Brings s g g' := (brings_inline hmode).2 hextend
      dsimp only
      rw [exec_enter]
      cases hadd : s.store.collection.add g' merge with
      | error cause => exact .inl ⟨_, rfl, hbrings.refuses_of_add hadd⟩
      | ok rc => exact .inr ⟨g', rc.1, rc.2, rc.2, hbrings, hadd, rfl, .refl _ _⟩
  | externalized =>
    have hbrings : Brings s g g := (brings_externalized hmode).2 rfl
    rw [exec_addGraph_externalized hname hmode]
    cases hderive : deriveAll g s.store.reasoners (.empty (some s.store.inferenceGraph)) with
    | error cause => exact .inl ⟨_, rfl, .inr (.inl ⟨cause, failsWith_of_deriveAll hderive, rfl⟩)⟩
    | ok inferred =>
      dsimp only
      cases hadd : s.store.collection.add g merge with
      | error cause => exact .inl ⟨_, rfl, hbrings.refuses_of_add hadd⟩
      | ok rc =>
        refine .inr ⟨g, rc.1, rc.2, _, hbrings, hadd, rfl, ?_⟩
        cases s.store.reasoners.isEmpty with
        | true => exact .refl _ _
        | false =>
          refine (Collection.frame_absorb rc.2 _ inferred).mono ?_
          exact Set.singleton_subset_iff.2 ⟨rfl, Ne.symm hname⟩

/-- A reasoner that fails for graphs of more than two triples. -/
def fussy : Reasoner := .ofCheck 1 "fussy" fun g =>
  if 2 < g.size then .error (.failed "fussy" "too much") else .ok ()

/-- What somebody knows. -/
def knowing (name : String) (known : List String) : Graph :=
  .ofTriples (some ⟨name⟩) (known.map fun x => ⟨.iri ⟨"urn:a"⟩, .iri ⟨"urn:knows"⟩, .iri ⟨x⟩⟩)

/-- A session with one graph, in which one reasoner writes into graphs before another one looks at
them. -/
def fussySession : Session :=
  ((Session.new.withCollection (Collection.empty.enter (knowing "urn:facts" ["urn:b"])).2).inMode
    .inline).withReasoners [seeing, fussy]

/-- A reasoner that puts the same graph in the place of every graph. -/
def replacing : Reasoner where
  id := 2
  name := "replacing"
  extend _ := (knowing "urn:facts" ["urn:e"], .ok ())
  derive _ output := (output, .ok ())

/-- For friends it is facts that come in, and these are merged with the facts that are there. -/
example :
    let after := ((addGraph (knowing "urn:friends" ["urn:c"]) true).exec
      (fussySession.withReasoners [replacing])).2.store.collection
    after.names = [some ⟨"urn:facts"⟩] ∧
      (after.graph? (some ⟨"urn:facts"⟩)).map Graph.size = some 2 := by
  decide +kernel

end StoreM

end RdfStore
