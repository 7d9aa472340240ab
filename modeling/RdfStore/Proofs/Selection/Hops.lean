import RdfStore.Proofs.Selection.Agreement

/-!
# Hops of a dependent chain

A stage of a dependent chain accepts the triples linked to some triple of the stage before, and it
looks for them among all triples, not among those found so far. So a chain composes the links of its
stages: it selects the triples that a walk reaches, one hop for each stage, from a triple that the
first selector accepts (`dependentChain_composes`). What the stages were started with earlier does
not matter.
-/

namespace RdfStore

/-- The second triple is linked to the first. -/
def Link.Relates (k : Link) (t u : Triple) : Prop :=
  match k with
  | .subjectSeen => u.subject = t.subject
  | .followObject => u.subject = t.object
  | .sharedNode => (u.subject = t.subject ∨ u.subject = t.object) ∨
      u.object = t.subject ∨ u.object = t.object

instance (k : Link) (t u : Triple) : Decidable (k.Relates t u) :=
  match k with
  | .subjectSeen => inferInstanceAs (Decidable (u.subject = t.subject))
  | .followObject => inferInstanceAs (Decidable (u.subject = t.object))
  | .sharedNode => inferInstanceAs (Decidable ((u.subject = t.subject ∨ u.subject = t.object) ∨
      u.object = t.subject ∨ u.object = t.object))

/-- A walk over the triples of a base leads from the first triple to the second, with one hop for
each link. -/
def Walks (base : List Triple) : List Link → Triple → Triple → Prop
  | [], t, u => t = u
  | k :: ks, t, u => ∃ v ∈ base, k.Relates t v ∧ Walks base ks v u

instance decidableWalks (base : List Triple) : (ks : List Link) → (t u : Triple) →
    Decidable (Walks base ks t u)
  | [], t, u => inferInstanceAs (Decidable (t = u))
  | k :: ks, t, u =>
    haveI (v : Triple) : Decidable (Walks base ks v u) := decidableWalks base ks v u
    inferInstanceAs (Decidable (∃ v ∈ base, k.Relates t v ∧ Walks base ks v u))

theorem Link.relates_iff (k : Link) (t u : Triple) :
    k.Relates t u ↔ ∃ x ∈ k.targets u, x ∈ k.sources t := by
  cases k <;> simp [Relates, targets, sources]

namespace Stage

/-- A stage that is started accepts what is linked to a triple that it is started with. -/
theorem accepts_start {s : Stage} {ts : List Triple} {u : Triple} :
    (s.start ts).accepts u = true ↔ ∃ t ∈ ts, s.link.Relates t u := by
  show (s.link.targets u).any (SortedSet.ofList (ts.flatMap s.link.sources)).contains = true ↔ _
  simp only [List.any_eq_true, SortedSet.contains_iff, SortedSet.mem_ofList, List.mem_flatMap,
    Link.relates_iff]
  constructor
  · rintro ⟨x, hx, t, ht, hxt⟩
    exact ⟨t, ht, x, hx, hxt⟩
  · rintro ⟨t, ht, x, hx, hxt⟩
    exact ⟨x, hx, t, ht, hxt⟩

end Stage

namespace dependentChain

variable {scan : Selector Triple → List Triple} {found : List Triple} {s : Stage}
  {stages : List Stage}

theorem go_cons : go scan found (s :: stages) =
    ((go scan (scan (s.start found).accepts) stages).1,
      s.start found :: (go scan (scan (s.start found).accepts) stages).2) := rfl

theorem length_go : (go scan found stages).2.length = stages.length := by
  induction stages generalizing found with
  | nil => rfl
  | cons s stages ih => rw [go_cons, List.length_cons, ih, List.length_cons]

/-- A stage is left as the triples start it that the stages before it find. -/
theorem getElem?_go (i : ℕ) : (go scan found stages).2[i]? =
    stages[i]?.map fun s => s.start (go scan found (stages.take i)).1 := by
  induction stages generalizing found i with
  | nil => rfl
  | cons s stages ih =>
    rw [go_cons]
    cases i with
    | zero => rfl
    | succ i => exact ih i

/-- From the triples that a test selects, the stages walk to the ends of all walks from there. -/
theorem go_filter (base : List Triple) (p : Triple → Bool) (stages : List Stage) :
    (go base.filter (base.filter p) stages).1 =
      base.filter fun u => ∃ t ∈ base, p t = true ∧ Walks base (stages.map Stage.link) t u := by
  induction stages generalizing p with
  | nil =>
    refine List.filter_congr fun u hu => ?_
    rw [Bool.eq_iff_iff, decide_eq_true_iff]
    constructor
    · exact fun h => ⟨u, hu, h, rfl⟩
    · rintro ⟨t, -, h, rfl⟩
      exact h
  | cons s stages ih =>
    rw [go_cons, ih]
    refine List.filter_congr fun u _ => ?_
    rw [decide_eq_decide]
    -- The first hop goes to what the first stage accepts.
    simp only [Stage.accepts_start, List.mem_filter]
    constructor
    · rintro ⟨v, hv, ⟨t, ⟨ht, hp⟩, hk⟩, hwalk⟩
      exact ⟨t, ht, hp, v, hv, hk, hwalk⟩
    · rintro ⟨t, ht, hp, v, hv, hk, hwalk⟩
      exact ⟨v, hv, ⟨t, ⟨ht, hp⟩, hk⟩, hwalk⟩

end dependentChain

/-- **A dependent chain composes hops.** It selects from the base, in its order, the triples at the
end of a walk that begins at a triple which the first selector accepts and makes one hop for each
stage. Every stage is left started, and accepts just what is linked to a triple that the chain of
the stages before it selects. In a store the base is all triples of the graphs in scope. -/
theorem dependentChain_composes (base : List Triple) (first : Selector Triple)
    (stages : List Stage) :
    (dependentChain base.filter first stages).1 = (base.filter fun u =>
      ∃ t ∈ base, first t = true ∧ Walks base (stages.map Stage.link) t u) ∧
    dependentChain base.filter first [] = (base.filter first, []) ∧
    (dependentChain base.filter first stages).2.length = stages.length ∧
    (∀ i s, stages[i]? = some s → ∃ s', (dependentChain base.filter first stages).2[i]? = some s' ∧
      s'.link = s.link ∧ s'.isStarted = true ∧ ∀ u, s'.accepts u = true ↔
        ∃ t ∈ (dependentChain base.filter first (stages.take i)).1, s.link.Relates t u) ∧
    ∀ gs, Selection.triples gs = base → dependentChain (Selection.scan gs) first stages =
      dependentChain base.filter first stages := by
  refine ⟨dependentChain.go_filter base first stages, rfl, dependentChain.length_go, ?_, ?_⟩
  · intro i s hs
    refine ⟨s.start (dependentChain base.filter first (stages.take i)).1, ?_, rfl, rfl, ?_⟩
    · unfold dependentChain
      rw [dependentChain.getElem?_go, hs]
      rfl
    · intro u
      exact Stage.accepts_start
  · rintro gs rfl
    rw [funext (Selection.scan_eq_filter gs)]

/-- Three who know each other in a row, and the age of the first. -/
def acquaintances : Graph :=
  let t (name : String) : Term := .iri ⟨name⟩
  .ofTriples none [⟨t "urn:a", t "urn:knows", t "urn:b"⟩, ⟨t "urn:b", t "urn:knows", t "urn:c"⟩,
    ⟨t "urn:c", t "urn:knows", t "urn:d"⟩, ⟨t "urn:a", t "urn:age", .literal ⟨"30", .simple⟩⟩]

/-- From whom the first knows, on to whom that one knows, and to all that shares a node with it. The
first stage is left over from a chain that ended elsewhere. -/
theorem dependentChain_composes_acquaintances :
    let t (name : String) : Term := .iri ⟨name⟩
    let base := Selection.triples [acquaintances]
    let first := Selector.pattern (some (t "urn:a")) (some (t "urn:knows")) none
    let stages := [⟨.followObject, some (.ofList [t "urn:d"])⟩, Stage.pending .sharedNode]
    let chain := dependentChain (Selection.scan [acquaintances]) first stages
    chain.1 = [⟨t "urn:a", t "urn:knows", t "urn:b"⟩, ⟨t "urn:b", t "urn:knows", t "urn:c"⟩,
      ⟨t "urn:c", t "urn:knows", t "urn:d"⟩] ∧
    chain.2.length = 2 ∧
    ∃ s, chain.2[1]? = some s ∧ s.link = .sharedNode ∧ s.isStarted = true ∧
      ∀ u, s.accepts u = true ↔ ∃ v ∈ (dependentChain base.filter first (stages.take 1)).1,
        Link.sharedNode.Relates v u := by
  intro t base first stages chain
  obtain ⟨hfound, -, hlength, hstages, hscan⟩ := dependentChain_composes base first stages
  have hchain : chain = dependentChain base.filter first stages := hscan [acquaintances] rfl
  rw [hchain]
  refine ⟨hfound.trans ?_, hlength, hstages 1 (Stage.pending .sharedNode) rfl⟩
  decide +kernel

end RdfStore
