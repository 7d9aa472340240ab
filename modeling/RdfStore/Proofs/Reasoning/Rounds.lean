import Mathlib.Data.Finset.Prod
import Mathlib.Tactic.Ring
import RdfStore.Proofs.Reasoning.Fixpoint

/-!
# How many rounds chaining takes

Rules that may be used bring no term into a conclusion that is neither fixed there nor bound by a
premise. So chaining stays among the triples over finitely many terms, and as every round but the
last one finds a new triple, chaining without a limit comes to an end. The number of its rounds is
bounded by the number of the triples that it may find (`RuleBase.chains_within_terms`).
-/

namespace RdfStore

/-! ## Triples over some terms -/

/-- All positions of the triples are taken by members of a set. -/
def Over (X : Set Term) (G : Set Triple) : Prop :=
  ∀ t ∈ G, t.subject ∈ X ∧ t.predicate ∈ X ∧ t.object ∈ X

/-- There are no more triples over some terms than ways to fill three positions with them. -/
theorem Over.card_le {U : Finset Term} {S : Finset Triple} (h : Over U S) :
    S.card ≤ U.card ^ 3 := by
  have hmaps : ∀ t ∈ S, (t.subject, t.predicate, t.object) ∈ U ×ˢ U ×ˢ U := by
    intro t ht
    obtain ⟨hs, hp, ho⟩ := h t ht
    exact Finset.mem_product.2 ⟨hs, Finset.mem_product.2 ⟨hp, ho⟩⟩
  have hinj : ∀ t ∈ S, ∀ u ∈ S, (t.subject, t.predicate, t.object) =
      (u.subject, u.predicate, u.object) → t = u := by
    rintro ⟨s, p, o⟩ - ⟨s', p', o'⟩ - heq
    cases heq
    rfl
  calc S.card ≤ (U ×ˢ U ×ˢ U).card := Finset.card_le_card_of_injOn _ hmaps hinj
    _ = U.card ^ 3 := by
        rw [Finset.card_product, Finset.card_product]
        ring

namespace Slot

variable {s : Slot}

theorem under_of_mem_vars (σ : String → Term) {x : String} (h : x ∈ s.vars) :
    s.under σ = σ x := by
  cases s with
  | fixed t => exact h.elim
  | var y => exact congrArg σ h.symm

theorem under_mem {σ : String → Term} {X : Set Term} (hfixed : ∀ t, s = .fixed t → t ∈ X)
    (hvar : ∀ x ∈ s.vars, σ x ∈ X) : s.under σ ∈ X := by
  cases s with
  | fixed t => exact hfixed t rfl
  | var x => exact hvar x rfl

/-- The term that the slot holds. -/
def term? : Slot → Option Term
  | fixed t => some t
  | var _ => none

end Slot

namespace Rule

variable {r : Rule} {X : Set Term} {G : Set Triple}

/-- The terms that are fixed in conclusions. -/
def constants (r : Rule) : List Term :=
  r.conclusions.flatMap fun c => c.toList.filterMap Slot.term?

theorem mem_constants {c : Pattern} {s : Slot} {t : Term} (hc : c ∈ r.conclusions)
    (hs : s ∈ c.toList) (ht : s = .fixed t) : t ∈ r.constants :=
  List.mem_flatMap.2 ⟨c, hc, List.mem_filterMap.2 ⟨s, hs, congrArg Slot.term? ht⟩⟩

/-- An assignment that puts a premise among triples over some terms gives such a term to each
variable of the premise. -/
theorem assigned_mem {p : Pattern} {σ : String → Term} {x : String} (hG : Over X G)
    (hp : p.under σ ∈ G) (hx : x ∈ p.vars) : σ x ∈ X := by
  obtain ⟨hs, hq, ho⟩ := hG _ hp
  rcases hx with hx | hx | hx
  · exact Slot.under_of_mem_vars σ hx ▸ hs
  · exact Slot.under_of_mem_vars σ hx ▸ hq
  · exact Slot.under_of_mem_vars σ hx ▸ ho

/-- A rule that may be used concludes nothing about other terms. -/
theorem over_consequences (h : r.fault? = none) (hX : ∀ t ∈ r.constants, t ∈ X) (hG : Over X G) :
    Over X (r.consequences G) := by
  obtain ⟨-, hvars⟩ := fault?_eq_none_iff.1 h
  rintro t ⟨-, σ, hin, c, hc, rfl⟩
  have hbound : ∀ x ∈ c.vars, σ x ∈ X := by
    intro x hx
    obtain ⟨p, hp, hxp⟩ := hvars c hc x hx
    exact assigned_mem hG (hin p hp) hxp
  have hslot : ∀ s ∈ c.toList, s.vars ⊆ c.vars → s.under σ ∈ X := by
    intro s hs hsub
    exact Slot.under_mem (fun t ht => hX t (mem_constants hc hs ht)) fun x hx => hbound x (hsub hx)
  refine ⟨hslot _ ?_ ?_, hslot _ ?_ ?_, hslot _ ?_ ?_⟩
  · exact List.mem_cons_self
  · exact fun x hx => .inl hx
  · exact List.mem_cons_of_mem _ List.mem_cons_self
  · exact fun x hx => .inr (.inl hx)
  · exact List.mem_cons_of_mem _ (List.mem_cons_of_mem _ List.mem_cons_self)
  · exact fun x hx => .inr (.inr hx)

end Rule

namespace RuleBase

variable {b : RuleBase} {g h : Graph} {X : Set Term}

/-- The terms that are fixed in conclusions of some rule. -/
def constants (b : RuleBase) : List Term := b.rules.flatMap Rule.constants

theorem over_consequences (hb : b.Admissible) {G : Set Triple} (hX : ∀ t ∈ b.constants, t ∈ X)
    (hG : Over X G) : Over X (b.consequences G) := by
  rintro t (ht | ⟨r, hr, ht⟩)
  · exact hG t ht
  · have hconstants : ∀ x ∈ r.constants, x ∈ X := fun x hx =>
      hX x (List.mem_flatMap.2 ⟨r, hr, hx⟩)
    exact Rule.over_consequences (hb.fault?_eq_none hr) hconstants hG t ht

theorem over_iterate (hb : b.Admissible) {G : Set Triple} (hX : ∀ t ∈ b.constants, t ∈ X)
    (hG : Over X G) (n : ℕ) : Over X (b.consequences^[n] G) := by
  induction n with
  | zero => exact hG
  | succ n ih =>
    rw [Function.iterate_succ_apply']
    exact over_consequences hb hX ih

/-- The terms that chaining over a graph can speak of: those in any position of its triples, and
those fixed in conclusions. -/
def terms (b : RuleBase) (g : Graph) : Finset Term :=
  (g.triples.toList.flatMap Statement.toList ++ b.constants).toFinset

theorem mem_terms_of_constants {t : Term} (ht : t ∈ b.constants) : t ∈ b.terms g :=
  List.mem_toFinset.2 (List.mem_append_right _ ht)

theorem over_terms (b : RuleBase) (g : Graph) : Over (b.terms g) g.members := by
  intro t ht
  have hmem : ∀ x ∈ t.toList, x ∈ (b.terms g : Set Term) := by
    intro x hx
    refine List.mem_toFinset.2 (List.mem_append_left _ ?_)
    exact List.mem_flatMap.2 ⟨t, Graph.mem_members.1 ht, hx⟩
  refine ⟨hmem _ ?_, hmem _ ?_, hmem _ ?_⟩ <;> simp [Statement.toList]

/-! ## Chaining without a limit -/

/-- The graph after one round. -/
def round (b : RuleBase) (g : Graph) : Graph := (g.assertAll (b.conclusions g).toList).1

/-- Chaining without a limit turns the first graph into the second by so many rounds: it goes on
until there are no conclusions. -/
inductive Chains (b : RuleBase) : Graph → ℕ → Graph → Prop where
  | done {g : Graph} (hnone : (b.conclusions g).isEmpty = true) : Chains b g 0 g
  | next {g h : Graph} {n : ℕ} (hsome : (b.conclusions g).isEmpty = false)
      (hrest : Chains b (b.round g) n h) : Chains b g (n + 1) h

theorem saturate_round (hsome : (b.conclusions g).isEmpty = false) (n : ℕ) :
    b.saturate g (n + 1) = b.saturate (b.round g) n := by
  have hne : ¬ (b.conclusions g).isEmpty = true := by simp [hsome]
  show (if (b.conclusions g).isEmpty = true then (g, true) else b.saturate (b.round g) n) = _
  rw [if_neg hne]

/-- The limit only matters if it is exceeded. -/
theorem Chains.saturate_eq {k : ℕ} (hk : b.Chains g k h) {limit : ℕ} (hle : k ≤ limit) :
    b.saturate g limit = (h, true) := by
  induction hk generalizing limit with
  | done hnone => exact saturate_of_isEmpty hnone limit
  | next hsome hrest ih =>
    obtain ⟨m, rfl⟩ := Nat.exists_eq_succ_of_ne_zero (Nat.ne_zero_of_lt hle)
    rw [Nat.succ_eq_add_one, saturate_round hsome]
    exact ih (Nat.succ_le_succ_iff.1 hle)

theorem Chains.saturate_of_lt {k : ℕ} (hk : b.Chains g k h) {limit : ℕ} (hlt : limit < k) :
    (b.saturate g limit).2 = false := by
  induction hk generalizing limit with
  | done hnone => exact absurd hlt (Nat.not_lt_zero _)
  | next hsome hrest ih =>
    cases limit with
    | zero => exact hsome
    | succ limit =>
      rw [saturate_round hsome]
      exact ih (Nat.succ_lt_succ_iff.1 hlt)

theorem Chains.extend_eq_ok_iff {k : ℕ} (hk : b.Chains g k h) :
    (b.extend g).2 = .ok () ↔ k ≤ b.maxRounds := by
  rw [extend_eq]
  by_cases hle : k ≤ b.maxRounds
  · simp [hk.saturate_eq hle, hle]
  · simp [hk.saturate_of_lt (Nat.lt_of_not_le hle), hle]

/-- A round that finds conclusions makes the graph larger. -/
theorem size_lt_round (hb : b.Admissible) (hsome : (b.conclusions g).isEmpty = false) :
    g.size < (b.round g).size := by
  have hnew : ∃ t ∈ b.conclusions g, t ∉ g.members := by
    have hne : ¬ (b.conclusions g).isEmpty = true := by simp [hsome]
    rw [SortedSet.isEmpty_iff] at hne
    push Not at hne
    obtain ⟨t, ht⟩ := hne
    exact ⟨t, ht, ((mem_conclusions hb).1 ht).2⟩
  obtain ⟨t, ht, hold⟩ := hnew
  rw [← Graph.card_members, ← Graph.card_members]
  refine Finset.card_lt_card (Finset.ssubset_iff_of_subset ?_ |>.2 ⟨t, ?_, hold⟩)
  · unfold round
    rw [Graph.members_assertAll]
    exact Finset.subset_union_left
  · unfold round
    rw [Graph.members_assertAll]
    exact Finset.mem_union_right _ (List.mem_toFinset.2 ht)

/-- Every round of chaining adds a triple. -/
theorem Chains.add_le_size (hb : b.Admissible) {k : ℕ} (hk : b.Chains g k h) :
    k + g.size ≤ h.size := by
  induction hk with
  | done hnone => exact (Nat.zero_add _).le
  | next hsome hrest ih =>
    have hgrow := size_lt_round hb hsome
    omega

theorem over_round (hb : b.Admissible) (hX : ∀ t ∈ b.constants, t ∈ X) (hg : Over X g.members) :
    Over X (b.round g).members := by
  unfold round
  rw [members_round hb]
  exact over_consequences hb hX hg

theorem Chains.over (hb : b.Admissible) (hX : ∀ t ∈ b.constants, t ∈ X) {k : ℕ}
    (hk : b.Chains g k h) (hg : Over X g.members) : Over X h.members := by
  induction hk with
  | done hnone => exact hg
  | next hsome hrest ih => exact ih (over_round hb hX hg)

/-- While triples over the terms are missing, there is room for a round; when none is missing,
there is nothing to conclude. -/
theorem exists_chains (hb : b.Admissible) {U : Finset Term} (hU : ∀ t ∈ b.constants, t ∈ U)
    (hg : Over U g.members) : ∃ k h, b.Chains g k h := by
  obtain ⟨room, hroom⟩ : ∃ room, U.card ^ 3 ≤ g.size + room := ⟨_, Nat.le_add_left _ _⟩
  induction room generalizing g with
  | zero =>
    refine ⟨0, g, .done ?_⟩
    by_contra hne
    have hgrow := size_lt_round hb (Bool.not_eq_true _ ▸ hne)
    have hle := (over_round hb hU hg).card_le
    rw [Graph.card_members] at hle
    omega
  | succ room ih =>
    cases hempty : (b.conclusions g).isEmpty with
    | true => exact ⟨0, g, .done hempty⟩
    | false =>
      have hgrow := size_lt_round hb hempty
      obtain ⟨k, h, hk⟩ := ih (over_round hb hU hg) (by omega)
      exact ⟨k + 1, h, .next hempty hk⟩

/-- **Chaining ends, and how soon.** With rules that may be used, chaining without a limit stops on
every graph. It takes no more rounds than there are triples over the terms of the graph and the
conclusions that the graph does not have. So a limit that is not below the number of triples over
these terms is never exceeded, nor is the default limit if there are at most 21 such terms. -/
theorem chains_within_terms (b : RuleBase) (hb : b.Admissible) (g : Graph) :
    (∃ k h, b.Chains g k h ∧ k + g.size ≤ (b.terms g).card ^ 3 ∧
      ((b.extend g).2 = .ok () ↔ k ≤ b.maxRounds)) ∧
    ((b.terms g).card ^ 3 ≤ b.maxRounds → (b.extend g).2 = .ok ()) ∧
    (b.maxRounds = defaultRounds → (b.terms g).card ≤ 21 → (b.extend g).2 = .ok ()) := by
  have hconstants : ∀ t ∈ b.constants, t ∈ b.terms g := fun t => mem_terms_of_constants
  obtain ⟨k, h, hk⟩ := exists_chains hb hconstants (over_terms b g)
  have hbound : k + g.size ≤ (b.terms g).card ^ 3 := by
    have hall := (hk.over hb hconstants (over_terms b g)).card_le
    rw [Graph.card_members] at hall
    exact (hk.add_le_size hb).trans hall
  have hok (hlimit : (b.terms g).card ^ 3 ≤ b.maxRounds) : (b.extend g).2 = .ok () :=
    hk.extend_eq_ok_iff.2 (by omega)
  refine ⟨⟨k, h, hk, hbound, hk.extend_eq_ok_iff⟩, hok, ?_⟩
  intro hdefault hsmall
  have hcube := Nat.pow_le_pow_left hsmall 3
  refine hok (hcube.trans ?_)
  rw [hdefault]
  decide

/-- Rules for ways back and for ways through: what is next stays next when it is turned round, and
two steps are one. -/
def wayRules : List Rule :=
  let v := ruleVariable
  let next := ruleIri ⟨"urn:next"⟩
  [⟨"back", [⟨v "x", next, v "y"⟩], [⟨v "y", next, v "x"⟩]⟩,
    ⟨"through", [⟨v "x", next, v "y"⟩, ⟨v "y", next, v "z"⟩], [⟨v "x", next, v "z"⟩]⟩]

/-- Two steps of a way. -/
def twoSteps : Graph :=
  let term (name : String) : Term := .iri ⟨name⟩
  .ofTriples none [⟨term "urn:a", term "urn:next", term "urn:b"⟩,
    ⟨term "urn:b", term "urn:next", term "urn:c"⟩]

/-- Four terms allow 64 rounds; two are needed, so one is not enough and the default limit is. -/
theorem chains_within_terms_ways :
    let b := ((RuleBase.new "ways").addRules wayRules).1
    b.Admissible ∧ b.rules = wayRules ∧ b.maxRounds = defaultRounds ∧
      (b.terms twoSteps).card = 4 ∧ twoSteps.size = 2 ∧
      (∃ k h, b.Chains twoSteps k h ∧ k + twoSteps.size ≤ 4 ^ 3 ∧
        ((b.extend twoSteps).2 = .ok () ↔ k ≤ b.maxRounds)) ∧
      (b.extend twoSteps).2 = .ok () ∧
      ({ b with maxRounds := 1 }.extend twoSteps).2 =
        .error ({ b with maxRounds := 1 }.noFixpoint) := by
  intro b
  have hb : b.Admissible := (admissible_new "ways").addRules wayRules
  have hcard : (b.terms twoSteps).card = 4 := by decide +kernel
  obtain ⟨hrounds, hlimit, hdefault⟩ := chains_within_terms b hb twoSteps
  refine ⟨hb, by decide +kernel, rfl, hcard, by decide +kernel, hcard ▸ hrounds, ?_, ?_⟩
  · exact hdefault rfl (by rw [hcard]; decide)
  · decide +kernel

end RuleBase

end RdfStore
