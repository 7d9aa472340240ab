import RdfStore.Reasoning.Chaining
import RdfStore.Proofs.Graph.History
import RdfStore.Proofs.Pattern.Matching

/-!
# What rules conclude

An assignment gives a term to every variable. Read with assignments, a rule base is an operator on
plain sets of triples (`RuleBase.consequences`). One round of chaining over a graph finds just the
triples that this operator adds (`RuleBase.mem_conclusions`), although it joins premise by premise
through the index of the graph.
-/

namespace RdfStore

/-! ## Assignments -/

/-- The term that a slot stands for under an assignment. -/
def Slot.under (σ : String → Term) : Slot → Term
  | fixed t => t
  | var x => σ x

/-- The triple that a pattern stands for under an assignment. -/
def Pattern.under (σ : String → Term) (p : Pattern) : Triple := p.map (Slot.under σ)

/-- The row says of its variables what an assignment says. -/
def Row.Agrees (row : Row) (σ : String → Term) : Prop :=
  ∀ x t, row.find? x = some t → σ x = t

/-- Some assignment agrees with a row. -/
theorem Row.exists_agrees (row : Row) : ∃ σ, row.Agrees σ :=
  ⟨fun x => (row.find? x).getD default, fun _ _ h => by simp [h]⟩

theorem Slot.resolve?_agrees {s : Slot} {row : Row} {σ : String → Term} (h : row.Agrees σ)
    (hs : ∀ x ∈ s.vars, x ∈ row.keys) : s.resolve? row = some (s.under σ) := by
  cases s with
  | fixed t => rfl
  | var x =>
    obtain ⟨t, ht⟩ := SortedMap.mem_keys_iff.1 (hs x rfl)
    show row.find? x = some (σ x)
    rw [ht, h x t ht]

/-- Where its variables are bound, a pattern stands for the same in the row and under an
assignment that agrees with it. -/
theorem Pattern.resolve?_agrees {p : Pattern} {row : Row} {σ : String → Term} (h : row.Agrees σ)
    (hp : ∀ x ∈ p.vars, x ∈ row.keys) : p.resolve? row = some (p.under σ) := by
  rw [resolve?_eq_some_iff]
  exact ⟨Slot.resolve?_agrees h fun x hx => hp x (.inl hx),
    Slot.resolve?_agrees h fun x hx => hp x (.inr (.inl hx)),
    Slot.resolve?_agrees h fun x hx => hp x (.inr (.inr hx))⟩

/-- The part of an assignment that speaks of some names. -/
def Row.restrict (σ : String → Term) (names : List String) : Row :=
  .ofList (names.map fun x => (x, σ x))

theorem Row.find?_restrict {σ : String → Term} {names : List String} {x : String} :
    (Row.restrict σ names).find? x = if x ∈ names then some (σ x) else none := by
  unfold restrict
  induction names using List.reverseRecOn with
  | nil => simp [SortedMap.ofList]
  | append_singleton names y ih =>
    rw [List.map_append, SortedMap.ofList, List.foldl_append, ← SortedMap.ofList]
    show ((SortedMap.ofList (names.map fun x => (x, σ x))).insert y (σ y)).find? x = _
    rw [SortedMap.find?_insert, ih]
    by_cases he : KeyOrder.cmp x y = .eq
    · obtain rfl := KeyOrder.eq_of_cmp he
      simp [he]
    · have hne : x ≠ y := fun e => he (e ▸ KeyOrder.cmp_self _)
      simp [he, hne]

/-! ## Rules -/

/-- The triple may stand in a graph of conclusions. -/
def Statement.IsConcludable (t : Triple) : Prop :=
  ((∃ i, t.subject = .iri i) ∨ ∃ b, t.subject = .blank b) ∧ (∃ i, t.predicate = .iri i) ∧
    ∀ v, t.object ≠ .var v

theorem Pattern.conclude?_eq_some_iff {p : Pattern} {row : Row} {t : Triple} :
    p.conclude? row = some t ↔ p.resolve? row = some t ∧ t.IsConcludable := by
  have hshape : ((t.subject.isIri || t.subject.isBlank) && t.predicate.isIri &&
      !t.object.isVariable) = true ↔ t.IsConcludable := by
    obtain ⟨s, q, o⟩ := t
    unfold Statement.IsConcludable
    cases s <;> cases q <;> cases o <;>
      simp [Term.isIri, Term.isBlank, Term.isVariable]
  unfold conclude?
  rw [Option.filter_eq_some_iff, hshape]

namespace Rule

/-- The triples that a rule concludes from a set of triples: instances of its conclusions under
an assignment that puts all its premises into the set. -/
def consequences (r : Rule) (G : Set Triple) : Set Triple :=
  {t | t.IsConcludable ∧ ∃ σ, (∀ p ∈ r.premises, p.under σ ∈ G) ∧
    ∃ c ∈ r.conclusions, t = c.under σ}

theorem mem_premiseVariables {r : Rule} {x : String} :
    x ∈ r.premiseVariables ↔ x ∈ patternVars r.premises := by
  simp [premiseVariables, ← SortedSet.mem_def, Pattern.mem_varNames, patternVars]

/-- A rule without fault has a premise, and its premises bind the variables of its conclusions. -/
theorem fault?_eq_none_iff {r : Rule} : r.fault? = none ↔
    r.premises ≠ [] ∧ ∀ c ∈ r.conclusions, ∀ x ∈ c.vars, x ∈ patternVars r.premises := by
  have hunbound : r.unboundVariables.isEmpty = true ↔
      ∀ c ∈ r.conclusions, ∀ x ∈ c.vars, x ∈ patternVars r.premises := by
    simp only [SortedSet.isEmpty_iff, unboundVariables, SortedSet.mem_filter, SortedSet.mem_ofList,
      List.mem_flatMap, ← SortedSet.mem_def, Pattern.mem_varNames, Bool.not_eq_true',
      ← Bool.not_eq_true, SortedSet.contains_iff, mem_premiseVariables]
    grind
  unfold fault?
  split
  · next he => simp [List.isEmpty_iff.1 he]
  · next he =>
    have hne : r.premises ≠ [] := fun h => he (List.isEmpty_iff.2 h)
    split
    · next hu => exact ⟨fun _ => ⟨hne, hunbound.1 hu⟩, fun _ => rfl⟩
    · next hu =>
      exact ⟨fun hnone => absurd hnone (Option.some_ne_none _),
        fun h => absurd (hunbound.2 h.2) hu⟩

/-- The rows of a rule are those that put all its premises into the graph and bind just their
variables. -/
theorem mem_rows {r : Rule} {g : Graph} {row : Row} (h : r.premises ≠ []) : row ∈ r.rows g ↔
    Row.Grows (patternVars r.premises) .empty row ∧
      ∀ p ∈ r.premises, ∃ t, p.resolve? row = some t ∧ t ∈ g.members := by
  have hne : ¬ r.premises.isEmpty = true := fun he => h (List.isEmpty_iff.1 he)
  have hpos (t : Triple) : 0 < (g.contains t).toNat ↔ t ∈ g.members := by
    rw [Graph.mem_members, ← Graph.contains_iff]
    cases g.contains t <;> simp
  unfold rows
  rw [if_neg hne, Pattern.mem_joinAll g.gives_find]
  simp only [hpos]

/-- What a rule concludes from a graph is what it concludes from the set of its triples. -/
theorem mem_conclude {r : Rule} {g : Graph} {t : Triple} (h : r.fault? = none) :
    t ∈ r.conclude g ↔ t ∈ r.consequences g.members := by
  obtain ⟨hne, hvars⟩ := fault?_eq_none_iff.1 h
  have hbound {row : Row} (hrow : Row.Grows (patternVars r.premises) .empty row)
      {X : Set String} (hX : ∀ x ∈ X, x ∈ patternVars r.premises) : ∀ x ∈ X, x ∈ row.keys :=
    fun x hx => (hrow.binds x).2 (.inr (hX x hx))
  simp only [conclude, List.mem_flatMap, List.mem_filterMap, mem_rows hne,
    Pattern.conclude?_eq_some_iff]
  constructor
  · -- A row is completed to an assignment.
    rintro ⟨row, ⟨hrow, hin⟩, c, hc, hct, ht⟩
    obtain ⟨σ, hσ⟩ := row.exists_agrees
    refine ⟨ht, σ, fun p hp => ?_, c, hc, ?_⟩
    · obtain ⟨u, hu, hmem⟩ := hin p hp
      rw [Pattern.resolve?_agrees hσ (hbound hrow fun x hx => ⟨p, hp, hx⟩)] at hu
      exact Option.some.inj hu ▸ hmem
    · rw [Pattern.resolve?_agrees hσ (hbound hrow (hvars c hc))] at hct
      exact (Option.some.inj hct).symm
  · -- An assignment is cut down to the variables of the premises.
    rintro ⟨ht, σ, hin, c, hc, rfl⟩
    have hnames (x : String) : x ∈ r.premiseVariables.toList ↔ x ∈ patternVars r.premises := by
      rw [← SortedSet.mem_def, mem_premiseVariables]
    have hσ : (Row.restrict σ r.premiseVariables.toList).Agrees σ := by
      intro x u hu
      rw [Row.find?_restrict] at hu
      split at hu
      · exact Option.some.inj hu
      · exact nomatch hu
    have hrow : Row.Grows (patternVars r.premises) .empty
        (Row.restrict σ r.premiseVariables.toList) := by
      refine ⟨nofun, fun x => ?_⟩
      rw [SortedMap.mem_keys_iff, Row.find?_restrict, ← hnames x]
      by_cases hx : x ∈ r.premiseVariables.toList
      · simp [hx]
      · simp [hx, SortedMap.not_mem_keys_empty]
    refine ⟨_, ⟨hrow, fun p hp => ?_⟩, c, hc, ?_, ht⟩
    · exact ⟨_, Pattern.resolve?_agrees hσ (hbound hrow fun x hx => ⟨p, hp, hx⟩), hin p hp⟩
    · exact Pattern.resolve?_agrees hσ (hbound hrow (hvars c hc))

end Rule

/-! ## Rule bases -/

namespace RuleBase

/-- A set of triples with everything that the rules conclude from it. -/
def consequences (b : RuleBase) (G : Set Triple) : Set Triple :=
  G ∪ {t | ∃ r ∈ b.rules, t ∈ r.consequences G}

/-- Every rule may be used, or is one of RDF Schema. -/
def Admissible (b : RuleBase) : Prop := ∀ r ∈ b.rules, r.fault? = none ∨ r ∈ schemaRules

/-- The rules of RDF Schema have no fault. -/
theorem fault?_schemaRules : ∀ r ∈ schemaRules, r.fault? = none := by
  decide +kernel

theorem Admissible.fault?_eq_none {b : RuleBase} (h : b.Admissible) {r : Rule} (hr : r ∈ b.rules) :
    r.fault? = none :=
  (h r hr).elim id (fault?_schemaRules r)

theorem Admissible.addRule {b b' : RuleBase} {r : Rule} (h : b.Admissible)
    (hb : b.addRule r = .ok b') : b'.Admissible := by
  unfold RuleBase.addRule at hb
  split at hb
  · exact nomatch hb
  · next hfault =>
    cases hb
    intro r' hr'
    rcases List.mem_append.1 hr' with hr' | hr'
    · exact h r' hr'
    · exact .inl (List.mem_singleton.1 hr' ▸ hfault)

/-- Adding rules in turn keeps a rule base admissible, since those with a fault are left out. -/
theorem Admissible.addRules {b : RuleBase} (h : b.Admissible) (rs : List Rule) :
    (b.addRules rs).1.Admissible := by
  induction rs generalizing b with
  | nil => exact h
  | cons r rs ih =>
    unfold RuleBase.addRules
    cases hadd : b.addRule r with
    | ok b' => exact ih (h.addRule hadd)
    | error e => exact ih h

theorem admissible_new (name : String) : (new name).Admissible := by
  intro r hr
  exact absurd hr List.not_mem_nil

/-- **One round.** The conclusions over a graph are the triples that the rules add to its set. -/
theorem mem_conclusions {b : RuleBase} (h : b.Admissible) {g : Graph} {t : Triple} :
    t ∈ b.conclusions g ↔ t ∈ b.consequences g.members ∧ t ∉ g.members := by
  have hrules : (∃ r ∈ b.rules, t ∈ r.conclude g) ↔
      ∃ r ∈ b.rules, t ∈ r.consequences g.members :=
    exists_congr fun r => and_congr_right fun hr => Rule.mem_conclude (h.fault?_eq_none hr)
  have hnew : (!g.contains t) = true ↔ t ∉ g.members := by
    rw [Graph.mem_members, ← Graph.contains_iff]
    simp
  unfold conclusions consequences
  rw [SortedSet.mem_ofList, List.mem_filter, List.mem_flatMap, hrules, hnew, Set.mem_union,
    Finset.mem_coe, Set.mem_ofPred_eq]
  tauto

end RuleBase

end RdfStore
