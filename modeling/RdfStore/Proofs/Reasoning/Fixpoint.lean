import Mathlib.Order.Bounds.Basic
import RdfStore.Proofs.Reasoning.Consequence

/-!
# The least closed set of triples

Chaining over a graph iterates the operator of consequences on the set of its triples
(`RuleBase.members_saturate`). If one of the iterates that the limit allows is closed, the graph
ends as the least closed set above it, and otherwise as the last iterate
(`RuleBase.extend_least_closed`).
-/

namespace RdfStore

/-- A rule concludes from a larger set whatever it concludes from a smaller one. -/
theorem Rule.consequences_mono (r : Rule) {G H : Set Triple} (h : G ⊆ H) :
    r.consequences G ⊆ r.consequences H := by
  rintro t ⟨ht, σ, hin, hc⟩
  exact ⟨ht, σ, fun p hp => h (hin p hp), hc⟩

namespace RuleBase

variable {b : RuleBase} {g : Graph}

/-! ## Iterates -/

/-- The set has all that the rules conclude from it. -/
def Closed (b : RuleBase) (G : Set Triple) : Prop := b.consequences G ⊆ G

theorem subset_consequences (b : RuleBase) (G : Set Triple) : G ⊆ b.consequences G :=
  Set.subset_union_left

theorem consequences_mono (b : RuleBase) {G H : Set Triple} (h : G ⊆ H) :
    b.consequences G ⊆ b.consequences H := by
  refine Set.union_subset_union h ?_
  rintro t ⟨r, hr, ht⟩
  exact ⟨r, hr, r.consequences_mono h ht⟩

theorem Closed.consequences_eq {G : Set Triple} (h : b.Closed G) : b.consequences G = G :=
  h.antisymm (b.subset_consequences G)

/-- A closed set stays what it is in every number of rounds. -/
theorem Closed.iterate_eq {G : Set Triple} (h : b.Closed G) (n : ℕ) : b.consequences^[n] G = G :=
  Function.iterate_fixed h.consequences_eq n

/-- No iterate leaves a closed set above the first. -/
theorem Closed.iterate_subset {G H : Set Triple} (h : b.Closed H) (hG : G ⊆ H) (n : ℕ) :
    b.consequences^[n] G ⊆ H := by
  induction n with
  | zero => exact hG
  | succ n ih =>
    rw [Function.iterate_succ_apply']
    exact (b.consequences_mono ih).trans h

theorem subset_iterate (b : RuleBase) (G : Set Triple) (n : ℕ) : G ⊆ b.consequences^[n] G := by
  induction n with
  | zero => exact subset_rfl
  | succ n ih =>
    rw [Function.iterate_succ_apply']
    exact ih.trans (b.subset_consequences _)

/-- A closed iterate is the least closed set above the first. -/
theorem isLeast_iterate {G : Set Triple} {n : ℕ} (h : b.Closed (b.consequences^[n] G)) :
    IsLeast {H | G ⊆ H ∧ b.Closed H} (b.consequences^[n] G) :=
  ⟨⟨b.subset_iterate G n, h⟩, fun _ hH => hH.2.iterate_subset hH.1 n⟩

/-- A set that some rounds leave as it is has nothing to gain from the first of them. -/
theorem closed_of_iterate_eq {G : Set Triple} {n : ℕ} (hn : n ≠ 0)
    (h : b.consequences^[n] G = G) : b.Closed G := by
  obtain ⟨m, rfl⟩ := Nat.exists_eq_succ_of_ne_zero hn
  have hfirst := b.subset_iterate (b.consequences G) m
  rw [Function.iterate_succ_apply] at h
  rwa [h] at hfirst

/-- Once an iterate is closed, the later ones are the same. -/
theorem Closed.of_le {G : Set Triple} {k n : ℕ} (h : b.Closed (b.consequences^[k] G))
    (hkn : k ≤ n) : b.Closed (b.consequences^[n] G) := by
  obtain ⟨m, rfl⟩ := Nat.exists_eq_add_of_le hkn
  rw [Nat.add_comm, Function.iterate_add_apply, h.iterate_eq m]
  exact h

/-! ## Rounds of chaining -/

/-- A round finds nothing if and only if the set is closed. -/
theorem isEmpty_conclusions (h : b.Admissible) :
    (b.conclusions g).isEmpty = true ↔ b.Closed g.members := by
  simp only [SortedSet.isEmpty_iff, mem_conclusions h, not_and, not_not]
  exact Iff.rfl

/-- A round adds just the consequences. -/
theorem members_round (h : b.Admissible) :
    ((g.assertAll (b.conclusions g).toList).1.members : Set Triple) =
      b.consequences g.members := by
  ext t
  have hsub := b.subset_consequences g.members
  rw [Graph.members_assertAll, Finset.mem_coe, Finset.mem_union, List.mem_toFinset,
    ← SortedSet.mem_def, mem_conclusions h]
  constructor
  · rintro (ht | ⟨ht, -⟩)
    · exact hsub ht
    · exact ht
  · intro ht
    by_cases hg : t ∈ g.members
    · exact .inl hg
    · exact .inr ⟨ht, hg⟩

theorem saturate_of_isEmpty (h : (b.conclusions g).isEmpty = true) (n : ℕ) :
    b.saturate g n = (g, true) := by
  cases n with
  | zero => unfold saturate; rw [h]
  | succ n => unfold saturate; rw [if_pos h]

/-- Chaining in at most so many rounds leaves that iterate of the consequences. -/
theorem members_saturate (h : b.Admissible) (g : Graph) (n : ℕ) :
    ((b.saturate g n).1.members : Set Triple) = b.consequences^[n] g.members := by
  induction n generalizing g with
  | zero => rfl
  | succ n ih =>
    unfold saturate
    dsimp only
    split
    · -- Chaining stops early, but the rounds left over would not add anything.
      next he => exact (((isEmpty_conclusions h).1 he).iterate_eq (n + 1)).symm
    · rw [ih, members_round h, Function.iterate_succ_apply]

/-- Chaining tells whether the set that it leaves is closed. -/
theorem saturate_closed_iff (h : b.Admissible) (g : Graph) (n : ℕ) :
    (b.saturate g n).2 = true ↔ b.Closed (b.consequences^[n] g.members) := by
  induction n generalizing g with
  | zero => exact isEmpty_conclusions h
  | succ n ih =>
    unfold saturate
    dsimp only
    split
    · next he =>
      have hclosed := (isEmpty_conclusions h).1 he
      rw [hclosed.iterate_eq]
      exact ⟨fun _ => hclosed, fun _ => rfl⟩
    · rw [ih, members_round h, Function.iterate_succ_apply]

theorem extend_eq (b : RuleBase) (g : Graph) : b.extend g =
    ((b.saturate g b.maxRounds).1,
      if (b.saturate g b.maxRounds).2 then .ok () else .error b.noFixpoint) := by
  unfold extend
  split
  · next he => simp [he]
  · next he => simp [he]

theorem members_extend (h : b.Admissible) (g : Graph) :
    ((b.extend g).1.members : Set Triple) = b.consequences^[b.maxRounds] g.members := by
  rw [extend_eq, members_saturate h]

theorem extend_eq_ok_iff (h : b.Admissible) (g : Graph) :
    (b.extend g).2 = .ok () ↔ b.Closed (b.consequences^[b.maxRounds] g.members) := by
  rw [extend_eq, ← saturate_closed_iff h]
  simp

theorem extend_eq_error_iff (h : b.Admissible) (g : Graph) :
    (b.extend g).2 = .error b.noFixpoint ↔
      ¬ b.Closed (b.consequences^[b.maxRounds] g.members) := by
  rw [extend_eq, ← saturate_closed_iff h]
  simp

/-- A graph whose chaining fails has grown, unless no round was allowed. -/
theorem members_ssubset_extend (h : b.Admissible) (hrounds : b.maxRounds ≠ 0)
    (hopen : ¬ b.Closed (b.consequences^[b.maxRounds] g.members)) :
    g.members ⊂ (b.extend g).1.members := by
  rw [← Finset.coe_ssubset, members_extend h]
  refine (b.subset_iterate _ _).ssubset_of_ne fun he => hopen ?_
  rw [← he]
  exact closed_of_iterate_eq hrounds he.symm

/-- **The least closed set, and the limit.** If the rules reach a closed set within the rounds
allowed, chaining succeeds and leaves the least closed set above the graph. Otherwise it fails
and leaves what all the rounds allowed add up to. -/
theorem extend_least_closed (b : RuleBase) (h : b.Admissible) (g : Graph) :
    ((∃ k ≤ b.maxRounds, b.Closed (b.consequences^[k] g.members)) →
      (b.extend g).2 = .ok () ∧
        IsLeast {H | (g.members : Set Triple) ⊆ H ∧ b.Closed H} (b.extend g).1.members) ∧
    ((¬ ∃ k ≤ b.maxRounds, b.Closed (b.consequences^[k] g.members)) →
      (b.extend g).2 = .error b.noFixpoint ∧
        ((b.extend g).1.members : Set Triple) = b.consequences^[b.maxRounds] g.members) := by
  rw [members_extend h, extend_eq_ok_iff h, extend_eq_error_iff h]
  constructor
  · rintro ⟨k, hk, hclosed⟩
    have hlast := hclosed.of_le hk
    exact ⟨hlast, isLeast_iterate hlast⟩
  · intro hnone
    exact ⟨fun hclosed => hnone ⟨_, le_rfl, hclosed⟩, rfl⟩

/-- The rules of RDF Schema with a limit of their own. -/
def schemaWithin (rounds : ℕ) : RuleBase := { schema with maxRounds := rounds }

theorem admissible_schemaWithin (n : ℕ) : (schemaWithin n).Admissible := fun _ hr => .inr hr

/-- A class, a more general one and one more general still. -/
def classChain : Graph :=
  let term (name : String) : Term := .iri ⟨name⟩
  .ofTriples none [⟨term "urn:cat", .iri Vocabulary.subClassOf, term "urn:mammal"⟩,
    ⟨term "urn:mammal", .iri Vocabulary.subClassOf, term "urn:animal"⟩]

/-- One round closes the chain of classes, and no round does not. -/
theorem classChain_rounds : (schemaWithin 1).Admissible ∧
    ((schemaWithin 1).extend classChain).2 = .ok () ∧
    IsLeast {H | (classChain.members : Set Triple) ⊆ H ∧ (schemaWithin 1).Closed H}
      ((schemaWithin 1).extend classChain).1.members ∧
    ((schemaWithin 0).extend classChain).2 = .error (schemaWithin 0).noFixpoint := by
  have hone : (schemaWithin 1).Closed ((schemaWithin 1).consequences^[1] classChain.members) :=
    (saturate_closed_iff (admissible_schemaWithin 1) classChain 1).1 (by decide +kernel)
  have hzero : ¬ (schemaWithin 0).Closed ((schemaWithin 0).consequences^[0] classChain.members) :=
    mt (saturate_closed_iff (admissible_schemaWithin 0) classChain 0).2 (by decide +kernel)
  have hok := (extend_least_closed _ (admissible_schemaWithin 1) classChain).1
    ⟨1, le_rfl, hone⟩
  have herror := (extend_least_closed _ (admissible_schemaWithin 0) classChain).2
    fun ⟨k, hk, hclosed⟩ => hzero (hclosed.of_le hk)
  exact ⟨admissible_schemaWithin 1, hok.1, hok.2, herror.1⟩

end RuleBase

end RdfStore
