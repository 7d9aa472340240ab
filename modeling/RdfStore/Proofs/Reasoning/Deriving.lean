import RdfStore.Store.Inference
import RdfStore.Proofs.Reasoning.Fixpoint

/-!
# Deriving beside a graph

What rules conclude depends on the set of triples only. So a rule base that derives into a second
graph does to both graphs together what it does to one graph that holds the triples of both, and
fails if it fails there (`RuleBase.derive_extend`); what the second graph gets is what the least
closed set above both has and neither of them has (`RuleBase.derive_completes`). Rule bases one
after the other do to both graphs what they do to one, too (`StoreM.deriveAll_extendAll`).
-/

namespace RdfStore

/-! ## One rule base -/

theorem Rule.mem_conclude_congr {r : Rule} {g h : Graph} (hgh : g.members = h.members)
    {t : Triple} : t ∈ r.conclude g ↔ t ∈ r.conclude h := by
  have hrows (row : Row) : row ∈ r.rows g ↔ row ∈ r.rows h := by
    by_cases hr : r.premises = []
    · simp [rows, hr]
    · rw [mem_rows hr, mem_rows hr, hgh]
  unfold conclude
  simp only [List.mem_flatMap, hrows]

namespace RuleBase

variable {b : RuleBase} {g h input output : Graph}

theorem conclusions_congr (hgh : g.members = h.members) : b.conclusions g = b.conclusions h := by
  have hcontains (t : Triple) : g.contains t = h.contains t := by
    rw [Bool.eq_iff_iff, Graph.contains_iff, Graph.contains_iff, ← Graph.mem_members, hgh,
      Graph.mem_members]
  refine SortedSet.ext_mem fun t => ?_
  unfold conclusions
  simp only [SortedSet.mem_ofList, List.mem_filter, List.mem_flatMap, hcontains,
    Rule.mem_conclude_congr hgh]

/-- Graphs with the same triples still have the same triples after chaining. -/
theorem saturate_congr (hgh : g.members = h.members) (n : ℕ) :
    (b.saturate g n).1.members = (b.saturate h n).1.members ∧
      (b.saturate g n).2 = (b.saturate h n).2 := by
  induction n generalizing g h with
  | zero => exact ⟨hgh, by unfold saturate; rw [conclusions_congr hgh]⟩
  | succ n ih =>
    unfold saturate
    rw [conclusions_congr hgh]
    dsimp only
    split
    · exact ⟨hgh, rfl⟩
    · refine ih ?_
      rw [Graph.members_assertAll, Graph.members_assertAll, hgh]

/-- Chaining only adds. -/
theorem members_subset_saturate (b : RuleBase) (g : Graph) (n : ℕ) :
    g.members ⊆ (b.saturate g n).1.members := by
  induction n generalizing g with
  | zero => exact subset_rfl
  | succ n ih =>
    unfold saturate
    dsimp only
    split
    · exact subset_rfl
    · refine subset_trans ?_ (ih _)
      rw [Graph.members_assertAll]
      exact Finset.subset_union_left

theorem derive_eq (b : RuleBase) (input output : Graph) : b.derive input output =
    let facts := b.saturate (input.merge output).1 b.maxRounds
    if facts.2 then
      ((output.assertAll (facts.1.triples.toList.filter fun t =>
        !input.contains t && !output.contains t)).1, .ok ())
    else (output, .error b.noFixpoint) := by
  unfold derive
  dsimp only
  split
  · next he => simp [he]
  · next he => simp [he]

/-- Deriving succeeds if the rounds allowed close both graphs together. -/
theorem derive_eq_ok_iff (hb : b.Admissible) : (b.derive input output).2 = .ok () ↔
    b.Closed (b.consequences^[b.maxRounds] ↑(input.members ∪ output.members)) := by
  rw [← Graph.members_merge, ← saturate_closed_iff hb, derive_eq]
  dsimp only
  split
  · next hdone => simp [hdone]
  · next hdone => simp [hdone]

theorem derive_eq_error_iff (hb : b.Admissible) :
    (b.derive input output).2 = .error b.noFixpoint ↔
      ¬ b.Closed (b.consequences^[b.maxRounds] ↑(input.members ∪ output.members)) := by
  rw [← Graph.members_merge, ← saturate_closed_iff hb, derive_eq]
  dsimp only
  split
  · next hdone => simp [hdone]
  · next hdone => simp [hdone]

/-- If deriving succeeds, all that both graphs together lack comes to the second one, and otherwise
nothing does. -/
theorem mem_derive (hb : b.Admissible) {t : Triple} : t ∈ (b.derive input output).1.members ↔
    t ∈ output.members ∨
      b.Closed (b.consequences^[b.maxRounds] ↑(input.members ∪ output.members)) ∧
        t ∈ b.consequences^[b.maxRounds] ↑(input.members ∪ output.members) ∧
        t ∉ input.members := by
  rw [← Graph.members_merge, ← saturate_closed_iff hb, ← members_saturate hb, derive_eq]
  dsimp only
  split
  · next hdone =>
    rw [Graph.members_assertAll, Finset.mem_union, List.mem_toFinset, List.mem_filter]
    simp only [hdone, true_and, Finset.mem_coe, Graph.mem_members, SortedSet.mem_def,
      Bool.and_eq_true, Bool.not_eq_true', ← Bool.not_eq_true, Graph.contains_iff]
    tauto
  · next hdone => simp [hdone]

theorem members_subset_derive (hb : b.Admissible) :
    output.members ⊆ (b.derive input output).1.members :=
  fun _ ht => (mem_derive hb).2 (.inl ht)

/-- Nothing comes to the second graph if both together are closed, or cannot be closed. -/
theorem members_derive_eq (hb : b.Admissible)
    (h : b.Closed ↑(input.members ∪ output.members) ∨
      ¬ b.Closed (b.consequences^[b.maxRounds] ↑(input.members ∪ output.members))) :
    (b.derive input output).1.members = output.members := by
  refine subset_antisymm (fun t ht => ?_) (members_subset_derive hb)
  rcases (mem_derive hb).1 ht with hold | ⟨hdone, hnew, hinput⟩
  · exact hold
  · -- If the set is closed, the rounds do not add to it.
    rw [(h.resolve_right (not_not_intro hdone)).iterate_eq, Finset.mem_coe, Finset.mem_union]
      at hnew
    exact hnew.resolve_left hinput

/-- Else something does. -/
theorem members_ssubset_derive (hb : b.Admissible)
    (hopen : ¬ b.Closed ↑(input.members ∪ output.members))
    (hdone : b.Closed (b.consequences^[b.maxRounds] ↑(input.members ∪ output.members))) :
    output.members ⊂ (b.derive input output).1.members := by
  refine (members_subset_derive hb).ssubset_of_ne fun he => hopen ?_
  have hall : b.consequences^[b.maxRounds] ↑(input.members ∪ output.members) ⊆
      (↑(input.members ∪ output.members) : Set Triple) := by
    intro t ht
    rw [Finset.mem_coe, Finset.mem_union]
    by_cases hinput : t ∈ input.members
    · exact .inl hinput
    · rw [he]
      exact .inr ((mem_derive hb).2 (.inr ⟨hdone, ht, hinput⟩))
  rwa [hall.antisymm (b.subset_iterate _ _)] at hdone

/-- **Deriving is extending.** Over two graphs a rule base succeeds just if it succeeds over one
graph with the triples of both, and then it leaves the same triples in both together. -/
theorem derive_extend (hg : g.members = input.members ∪ output.members) :
    (b.derive input output).2 = (b.extend g).2 ∧
      ((b.extend g).2 = .ok () →
        (b.extend g).1.members = input.members ∪ (b.derive input output).1.members) := by
  have hmerge : (input.merge output).1.members = g.members := Graph.members_merge.trans hg.symm
  obtain ⟨hfacts, hdone⟩ := saturate_congr (b := b) hmerge b.maxRounds
  have hsub := members_subset_saturate b g b.maxRounds
  rw [extend_eq, derive_eq]
  dsimp only
  rw [hdone]
  split
  · refine ⟨rfl, fun _ => ?_⟩
    ext t
    -- Triples of either graph are kept, and all others are derived.
    have hkept := @hsub t
    rw [hg, Finset.mem_union, ← hfacts] at hkept
    rw [← hfacts, Graph.members_assertAll]
    simp only [Finset.mem_union, List.mem_toFinset, List.mem_filter, ← SortedSet.mem_def,
      ← Graph.mem_members, Bool.and_eq_true, Bool.not_eq_true', ← Bool.not_eq_true,
      Graph.contains_iff]
    tauto
  · exact ⟨rfl, fun he => nomatch he⟩

/-- Rule bases as reasoners, each with an identity. -/
def reasoners (bases : List (ℕ × RuleBase)) : List Reasoner :=
  bases.map fun b => b.2.reasoner b.1

theorem keepsName_reasoners (bases : List (ℕ × RuleBase)) :
    ∀ e ∈ reasoners bases, e.KeepsName :=
  List.forall_mem_map.2 fun b _ => Reasoner.keepsName_reasoner b.2 b.1

/-! ## Completing two graphs -/

/-- Two graphs that are closed together stay as they are. -/
theorem derive_eq_self (hb : b.Admissible) (h : b.Closed ↑(input.members ∪ output.members)) :
    b.derive input output = (output, .ok ()) := by
  have hempty : (b.conclusions (input.merge output).1).isEmpty = true := by
    rw [isEmpty_conclusions hb, Graph.members_merge]
    exact h
  have hnew : ((input.merge output).1.triples.toList.filter fun t =>
      !input.contains t && !output.contains t) = [] := by
    refine List.filter_eq_nil_iff.2 fun t ht => ?_
    rw [← SortedSet.mem_def, Graph.mem_merge, ← Graph.contains_iff, ← Graph.contains_iff] at ht
    rcases ht with ht | ht <;> simp [ht]
  rw [derive_eq, saturate_of_isEmpty hempty]
  dsimp only
  rw [if_pos rfl, hnew]
  rfl

/-- A rule base that fails has written nothing. -/
theorem derive_eq_of_error {e : ReasonerError} (h : (b.derive input output).2 = .error e) :
    (b.derive input output).1 = output := by
  rw [derive_eq] at h ⊢
  dsimp only at h ⊢
  split
  · next hdone =>
    rw [if_pos hdone] at h
    exact nomatch h
  · rfl

/-- **Deriving completes both graphs together.** A rule base that derives from one graph into
another fails just as it fails on the merge of both, and then writes nothing. Otherwise the second
graph gets those triples of the least closed set above both that are in neither. So both together
have what the rule base makes of the merge, and deriving once more changes nothing. -/
theorem derive_completes (b : RuleBase) (hb : b.Admissible) (input output : Graph) :
    (b.derive input output).2 = (b.extend (input.merge output).1).2 ∧
    (∀ e, (b.derive input output).2 = .error e → (b.derive input output).1 = output) ∧
    ((b.derive input output).2 = .ok () →
      (∃ closure : Set Triple,
        IsLeast {H | (input.members ∪ output.members : Set Triple) ⊆ H ∧ b.Closed H} closure ∧
        ((b.derive input output).1.members : Set Triple) =
          ↑output.members ∪ {t ∈ closure | t ∉ input.members ∧ t ∉ output.members}) ∧
      input.members ∪ (b.derive input output).1.members =
        (b.extend (input.merge output).1).1.members ∧
      b.derive input (b.derive input output).1 = ((b.derive input output).1, .ok ())) := by
  obtain ⟨hresult, hunion⟩ := derive_extend (b := b) (Graph.members_merge (g := input) (h := output))
  refine ⟨hresult, fun e => derive_eq_of_error, fun hok => ?_⟩
  have hclosed := (derive_eq_ok_iff hb).1 hok
  have hunion := (hunion (hresult.symm.trans hok)).symm
  refine ⟨⟨b.consequences^[b.maxRounds] ↑(input.members ∪ output.members), ?_, ?_⟩, hunion,
    derive_eq_self hb ?_⟩
  · rw [← Finset.coe_union]
    exact isLeast_iterate hclosed
  · ext t
    rw [Finset.mem_coe, mem_derive hb, Set.mem_union, Finset.mem_coe, Set.mem_sep_iff]
    tauto
  · rw [hunion, members_extend hb, Graph.members_merge]
    exact hclosed

/-- Two graphs that two rounds complete: a cat and its class in the one, the classes above it in
the other. One round does not suffice, and then nothing is written. -/
theorem derive_completes_cat :
    let b := schemaWithin 2
    let cat : Graph := .ofTriples none [⟨.iri ⟨"urn:tom"⟩, .iri Vocabulary.rdfType, .iri ⟨"urn:cat"⟩⟩]
    b.Admissible ∧ (b.derive classChain cat).2 = .ok () ∧ cat.size = 1 ∧
      (b.derive classChain cat).1.size = 4 ∧
      (b.derive classChain cat).2 = (b.extend (classChain.merge cat).1).2 ∧
      (∃ closure : Set Triple,
        IsLeast {H | (classChain.members ∪ cat.members : Set Triple) ⊆ H ∧ b.Closed H} closure ∧
        ((b.derive classChain cat).1.members : Set Triple) =
          ↑cat.members ∪ {t ∈ closure | t ∉ classChain.members ∧ t ∉ cat.members}) ∧
      classChain.members ∪ (b.derive classChain cat).1.members =
        (b.extend (classChain.merge cat).1).1.members ∧
      b.derive classChain (b.derive classChain cat).1 = ((b.derive classChain cat).1, .ok ()) ∧
      ((schemaWithin 1).derive classChain cat).2 = .error (schemaWithin 1).noFixpoint ∧
      ((schemaWithin 1).derive classChain cat).1 = cat := by
  intro b cat
  have hb : b.Admissible := admissible_schemaWithin 2
  have hok : (b.derive classChain cat).2 = .ok () := by decide +kernel
  obtain ⟨hresult, -, hdone⟩ := derive_completes b hb classChain cat
  obtain ⟨hclosure, hunion, hagain⟩ := hdone hok
  have hone := (derive_completes (schemaWithin 1) (admissible_schemaWithin 1) classChain cat).2.1
  have herror : ((schemaWithin 1).derive classChain cat).2 = .error (schemaWithin 1).noFixpoint := by
    decide +kernel
  exact ⟨hb, hok, by decide +kernel, by decide +kernel, hresult, hclosure, hunion, hagain, herror,
    hone _ herror⟩

end RuleBase

/-! ## Reasoners one after the other -/

namespace StoreM

theorem name_extendAll {es : List Reasoner} (hkeeps : ∀ e ∈ es, e.KeepsName) {g h : Graph}
    (hgh : extendAll es g = .ok h) : h.name = g.name := by
  induction es generalizing g with
  | nil => exact congrArg Graph.name (Except.ok.inj hgh).symm
  | cons e es ih =>
    obtain ⟨hfirst, hrest⟩ := List.forall_mem_cons.1 hkeeps
    unfold extendAll at hgh
    split at hgh
    · next g' _ heq =>
      rw [ih hrest hgh, ← hfirst g, heq]
    · exact nomatch hgh

/-- Rule bases that derive into a second graph fail as they fail over one graph that holds the
triples of both, and else leave the same triples. -/
theorem deriveAll_extendAll (bases : List (ℕ × RuleBase)) {g input output : Graph}
    (hg : g.members = input.members ∪ output.members) :
    (∃ e, extendAll (RuleBase.reasoners bases) g = .error e ∧
      deriveAll input (RuleBase.reasoners bases) output = .error e) ∨
    ∃ g' output', extendAll (RuleBase.reasoners bases) g = .ok g' ∧
      deriveAll input (RuleBase.reasoners bases) output = .ok output' ∧
      g'.members = input.members ∪ output'.members := by
  -- What the first leaves in both graphs together is what it leaves in the one graph.
  induction bases generalizing g output with
  | nil => exact .inr ⟨g, output, rfl, rfl, hg⟩
  | cons b bases ih =>
    obtain ⟨hresult, hmembers⟩ := RuleBase.derive_extend (b := b.2) hg
    simp only [RuleBase.reasoners, List.map_cons, extendAll, deriveAll, RuleBase.reasoner]
    rcases hext : b.2.extend g with ⟨g', _ | _⟩
    · rcases hder : b.2.derive input output with ⟨output', r⟩
      rw [hext, hder] at hresult
      cases hresult
      exact .inl ⟨_, rfl, rfl⟩
    · rcases hder : b.2.derive input output with ⟨output', r⟩
      rw [hext, hder] at hresult hmembers
      cases hresult
      exact ih (hmembers rfl)

end StoreM

end RdfStore
