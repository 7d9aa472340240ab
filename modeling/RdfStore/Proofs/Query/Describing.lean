import RdfStore.Proofs.Query.Confinement
import RdfStore.Proofs.Selection.Agreement

/-!
# Descriptions and datasets

A query for a description gathers the triples about the terms that its solutions give. A dataset is
in scope for the pattern but no longer for the gathering, so the triples come from whatever the
session has in scope. The same query without a dataset, asked in the scope of the dataset, keeps to
it (`StoreM.describe_dataset`).
-/

namespace RdfStore

variable {slots : List Slot} {rows : List Row} {x : Term} {t : Triple}

/-- The position asks for a term: it holds it, or a variable that stands for it in a solution. -/
def Slot.AsksFor (rows : List Row) (x : Term) : Slot → Prop
  | .fixed t => x = t
  | .var v => ∃ row ∈ rows, row.find? v = some x

theorem mem_describedTerms :
    x ∈ describedTerms slots rows ↔ ∃ slot ∈ slots, slot.AsksFor rows x := by
  unfold describedTerms
  rw [List.mem_eraseDups, List.mem_flatMap]
  refine exists_congr fun slot => and_congr_right fun _ => ?_
  cases slot with
  | fixed t => exact List.mem_singleton
  | var v => exact List.mem_filterMap

open StoreM

namespace Session

variable (s : Session) (now : DateTime) (slots : List Slot) (rows : List Row) (p : GraphPattern)

/-- The graph of the triples in scope that are about the terms asked for. -/
def description : Graph :=
  .ofTriples none ((describedTerms slots rows).flatMap fun x =>
    Selection.find s.graphs (some x) none none)

theorem mem_description : t ∈ (s.description slots rows).triples ↔
    (∃ slot ∈ slots, slot.AsksFor rows t.subject) ∧ t ∈ Selection.triples s.graphs := by
  unfold description
  rw [Graph.mem_ofTriples, List.mem_flatMap, ← mem_describedTerms]
  have hfind (x : Term) : t ∈ Selection.find s.graphs (some x) none none ↔
      t ∈ Selection.triples s.graphs ∧ t.subject = x := by
    rw [(Selection.find_perm_scan s.graphs (some x) none none).mem_iff, Selection.scan_eq_filter,
      List.mem_filter, Selector.pattern_iff]
    simp
  simp only [hfind]
  constructor
  · rintro ⟨x, hx, ht, rfl⟩
    exact ⟨hx, ht⟩
  · rintro ⟨hx, ht⟩
    exact ⟨t.subject, hx, ht, rfl⟩

/-- In the scope of a dataset the triples are those of the dataset. -/
theorem mem_description_within {is : List Iri} {scope : Scope}
    (h : s.resolve (.union is) = .ok scope) :
    t ∈ ((s.within scope).description slots rows).triples ↔
      (∃ slot ∈ slots, slot.AsksFor rows t.subject) ∧ s.HasIn is t := by
  obtain ⟨m, hgraphs, hm⟩ := graphs_of_resolve_union h
  have hwithin : (s.within scope).graphs = [m] := hgraphs
  rw [mem_description, Selection.mem_triples, hwithin, ← hm]
  simp only [List.mem_singleton, exists_eq_left]

/-- Without a dataset the pattern is solved, and its terms are described, in the same scope. -/
theorem result_describe : ((evaluateStandard ⟨.describe slots, none, p⟩ now).exec s).1 =
    s.solve now p >>= fun rows => .ok (.graph (s.description slots rows)) := by
  rw [evaluateStandard_eq, (readsOnly_solveQuery _ now).result_bind]
  rfl

/-- With a dataset only the pattern is solved there. -/
theorem result_describe_dataset (is : List Iri) :
    ((evaluateStandard ⟨.describe slots, some is, p⟩ now).exec s).1 =
      s.solveIn now (.union is) p >>= fun rows => .ok (.graph (s.description slots rows)) :=
  result_evaluateStandard (.describe slots) is p now s

end Session

namespace StoreM

theorem readsOnly_describe (now : DateTime) (slots : List Slot) (dataset : Option (List Iri))
    (p : GraphPattern) : (evaluateStandard ⟨.describe slots, dataset, p⟩ now).ReadsOnly := by
  rw [evaluateStandard_eq]
  exact (readsOnly_solveQuery _ now).bind fun rows => readsOnly_answer _ rows nofun

/-- **A dataset confines which terms are described, but not what is said of them.** Let the graphs
of a dataset be there. If the pattern has no solutions in the dataset for an error, the query for a
description fails with that. Otherwise its graph has all triples in the scope of the session about
the terms that the solutions give. The same query without a dataset, asked in the scope of the
dataset, has the triples of the dataset about the same terms. So the first graph keeps to the
dataset just if it is a part of the second. -/
theorem describe_dataset (now : DateTime) (s : Session) (slots : List Slot) (is : List Iri)
    (p : GraphPattern) (his : ∀ i ∈ is, ∃ r, s.store.collection.ref? (some i) = some r) :
    (∀ e, s.solveIn now (.union is) p = .error e →
      (evaluateStandard ⟨.describe slots, some is, p⟩ now).exec s = (.error e, s)) ∧
    ∀ rows, s.solveIn now (.union is) p = .ok rows → ∃ g g',
      (evaluateStandard ⟨.describe slots, some is, p⟩ now).exec s = (.ok (.graph g), s) ∧
      (inScope (.union is) (evaluateStandard ⟨.describe slots, none, p⟩ now)).exec s =
        (.ok (.graph g'), s) ∧
      (∀ t, t ∈ g.triples ↔
        (∃ slot ∈ slots, slot.AsksFor rows t.subject) ∧ t ∈ Selection.triples s.graphs) ∧
      (∀ t, t ∈ g'.triples ↔ (∃ slot ∈ slots, slot.AsksFor rows t.subject) ∧ s.HasIn is t) ∧
      ((∀ t ∈ g.triples, s.HasIn is t) ↔ g.members ⊆ g'.members) := by
  have hresult := s.result_describe_dataset now slots p is
  have hstays := readsOnly_describe now slots (some is) p s
  refine ⟨fun e he => ?_, fun rows hrows => ?_⟩
  · rw [he] at hresult
    exact Prod.ext hresult hstays
  rw [hrows] at hresult
  obtain ⟨scope, hscope⟩ := Session.exists_resolve_union his
  have hinside : (s.within scope).solve now p = .ok rows := by
    unfold Session.solveIn at hrows
    rw [hscope] at hrows
    exact hrows
  have hdescribed := (s.within scope).result_describe now slots p
  rw [hinside] at hdescribed
  have hdataset (t : Triple) := s.mem_description_within (t := t) slots rows hscope
  refine ⟨s.description slots rows, (s.within scope).description slots rows,
    Prod.ext hresult hstays, ?_, fun t => s.mem_description slots rows, hdataset, ?_⟩
  · rw [exec_inScope (readsOnly_describe now slots none p)]
    refine Prod.ext ?_ rfl
    have hresolve : ((resolveScope (.union is)).exec s).1 = .ok scope := hscope
    dsimp only
    rw [hresolve]
    exact hdescribed
  · constructor
    · intro h t ht
      rw [Graph.mem_members] at ht ⊢
      exact (hdataset t).2 ⟨((s.mem_description slots rows).1 ht).1, h t ht⟩
    · intro h t ht
      exact ((hdataset t).1 (Graph.mem_members.1 (h (Graph.mem_members.2 ht)))).2

/-- What everybody may know of somebody. -/
def ageFact : Triple := ⟨.iri ⟨"urn:ann"⟩, .iri ⟨"urn:age"⟩, .ofInteger 30⟩

/-- What is kept in another graph. -/
def salaryFact : Triple := ⟨.iri ⟨"urn:ann"⟩, .iri ⟨"urn:salary"⟩, .ofInteger 9⟩

/-- A session with a fact in either of two graphs. -/
def staffSession : Session :=
  ((do
    let _ ← addGraph (.ofTriples (some ⟨"urn:people"⟩) [ageFact]) false
    let _ ← addGraph (.ofTriples (some ⟨"urn:payroll"⟩) [salaryFact]) false).exec
      ⟨Store.default .new, .new⟩).2

theorem salaryFact_not_in_people : ¬staffSession.HasIn [⟨"urn:people"⟩] salaryFact := by
  rintro ⟨i, hi, g, hg, ht⟩
  obtain rfl := List.mem_singleton.1 hi
  have hgraph : (staffSession.store.collection.graph? (some ⟨"urn:people"⟩)).map
      (·.contains salaryFact) = some false := by decide +kernel
  rw [hg] at hgraph
  have hcontains : g.contains salaryFact = false := Option.some.inj hgraph
  exact Bool.false_ne_true (hcontains.symm.trans (Graph.contains_iff.2 ht))

/-- Asked in the scope of the people the query keeps the salary to itself, but not if the people are
its dataset. -/
theorem describe_dataset_people :
    let now : DateTime := ⟨2024, 1, 1, 12, 0, 0, 0, 0⟩
    let slots : List Slot := [.fixed (.iri ⟨"urn:ann"⟩)]
    let is : List Iri := [⟨"urn:people"⟩]
    (∀ i ∈ is, ∃ r, staffSession.store.collection.ref? (some i) = some r) ∧
      ∃ g g', (evaluateStandard ⟨.describe slots, some is, .basic []⟩ now).exec staffSession =
          (.ok (.graph g), staffSession) ∧
        (inScope (.union is) (evaluateStandard ⟨.describe slots, none, .basic []⟩ now)).exec
          staffSession = (.ok (.graph g'), staffSession) ∧
        salaryFact ∈ g.triples ∧ salaryFact ∉ g'.triples := by
  intro now slots is
  have his : ∀ i ∈ is, ∃ r, staffSession.store.collection.ref? (some i) = some r := by
    intro i hi
    obtain rfl := List.mem_singleton.1 hi
    exact ⟨_, rfl⟩
  have hrows : staffSession.solveIn now (.union is) (.basic []) = .ok [.empty] := rfl
  have hscope : salaryFact ∈ Selection.triples staffSession.graphs := by decide +kernel
  obtain ⟨-, hfound⟩ := describe_dataset now staffSession slots is (.basic []) his
  obtain ⟨g, g', hg, hg', hmem, hmem', -⟩ := hfound _ hrows
  refine ⟨his, g, g', hg, hg', (hmem salaryFact).2 ⟨?_, hscope⟩, fun hsalary => ?_⟩
  · exact ⟨_, List.mem_singleton_self _, rfl⟩
  · exact salaryFact_not_in_people ((hmem' salaryFact).1 hsalary).2

/-- The description of somebody has the salary, which is not in the graph of the dataset. -/
theorem description_leaves_people :
    (∃ r, staffSession.store.collection.ref? (some ⟨"urn:people"⟩) = some r) ∧
      ∃ g, (evaluateStandard ⟨.describe [.fixed (.iri ⟨"urn:ann"⟩)], some [⟨"urn:people"⟩],
          .basic []⟩ ⟨2024, 1, 1, 12, 0, 0, 0, 0⟩).exec staffSession =
          (.ok (.graph g), staffSession) ∧
        ∃ t ∈ g.triples, ¬staffSession.HasIn [⟨"urn:people"⟩] t := by
  have hscope : salaryFact ∈ Selection.triples staffSession.graphs := by decide +kernel
  have hasked : ∃ slot ∈ [Slot.fixed (.iri ⟨"urn:ann"⟩)],
      slot.AsksFor [.empty] salaryFact.subject := ⟨_, List.mem_singleton_self _, rfl⟩
  exact ⟨⟨_, rfl⟩, _, rfl, salaryFact,
    (staffSession.mem_description _ [.empty]).2 ⟨hasked, hscope⟩, salaryFact_not_in_people⟩

end StoreM

end RdfStore
