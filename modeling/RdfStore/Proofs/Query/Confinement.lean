import RdfStore.Proofs.Pattern.Drafts
import RdfStore.Proofs.Query.Solving
import RdfStore.Proofs.Query.JoinAlgebra
import RdfStore.Proofs.Update.Atomicity

/-!
# Queries about a dataset

A query that gives a dataset, and whose pattern does not turn to other graphs, is answered from the
triples of the dataset alone. So the answer is the same in any two sessions whose graphs of these
names have the same triples (`StoreM.answers_alike`). Two answers that are graphs are the same but
for the names of fresh blank nodes (`Answer.Alike`).
-/

namespace RdfStore

/-- The pattern does not turn to other graphs. -/
def GraphPattern.isLocal : GraphPattern → Bool
  | basic _ => true
  | join l r => l.isLocal && r.isLocal
  | leftJoin l r _ => l.isLocal && r.isLocal
  | union l r => l.isLocal && r.isLocal
  | filter _ p => p.isLocal
  | extend p _ _ => p.isLocal
  | graph _ _ => false

/-- The form asks for nothing but what follows from the solutions. -/
def QueryForm.isAboutSolutions : QueryForm → Bool
  | describe _ => false
  | _ => true

/-- Two answers are the same, but that each names fresh blank nodes from its own supply. -/
def Answer.Alike (u v : Supply) : Answer → Answer → Prop
  | boolean a, boolean b => a = b
  | table A, table B => A = B
  | graph g, graph h =>
    ∃ d : Draft, g = .ofTriples none (d.named u) ∧ h = .ofTriples none (d.named v)
  | _, _ => False

/-- Two results are answers that are alike, or the same error. -/
def AnswersAlike (u v : Supply) : Except StoreError Answer → Except StoreError Answer → Prop
  | .ok a, .ok b => a.Alike u v b
  | .error e, .error e' => e = e'
  | _, _ => False

namespace Session

variable {s t : Session} {now : DateTime} {p : GraphPattern}

/-! ## Solving with the same triples in scope -/

/-- What a local pattern comes to depends on what is found in the scope and on nothing else. -/
theorem solve_congr (hfind : Selection.find s.graphs = Selection.find t.graphs)
    (hp : p.isLocal = true) : s.solve now p = t.solve now p := by
  induction p with
  | basic ps => rw [solve_basic, solve_basic, hfind]
  | join l r ihl ihr =>
    obtain ⟨hl, hr⟩ := (Bool.and_eq_true _ _).mp hp
    rw [solve_join, solve_join, ihl hl, ihr hr]
  | leftJoin l r condition ihl ihr =>
    obtain ⟨hl, hr⟩ := (Bool.and_eq_true _ _).mp hp
    rw [solve_leftJoin, solve_leftJoin, ihl hl, ihr hr]
  | union l r ihl ihr =>
    obtain ⟨hl, hr⟩ := (Bool.and_eq_true _ _).mp hp
    rw [solve_union, solve_union, ihl hl, ihr hr]
  | filter e p ih => rw [solve_filter, solve_filter, ih hp]
  | extend p x e ih => rw [solve_extend, solve_extend, ih hp]
  | graph target p ih => exact nomatch hp

/-- The graphs of all these names are in both sessions and have the same triples. -/
def SameGraphs (s t : Session) (is : List Iri) : Prop :=
  ∀ i ∈ is, ∃ g h, s.store.collection.graph? (some i) = some g ∧
    t.store.collection.graph? (some i) = some h ∧ g.members = h.members

variable {D E : List Iri}

theorem SameGraphs.symm (h : s.SameGraphs t D) (hnames : ∀ i, i ∈ D ↔ i ∈ E) :
    t.SameGraphs s E := by
  intro i hi
  obtain ⟨g, k, hg, hk, hmembers⟩ := h i ((hnames i).2 hi)
  exact ⟨k, g, hk, hg, hmembers.symm⟩

theorem SameGraphs.exists_ref? (h : s.SameGraphs t D) :
    ∀ i ∈ D, ∃ r, s.store.collection.ref? (some i) = some r := by
  intro i hi
  obtain ⟨g, -, hg, -⟩ := h i hi
  obtain ⟨r, hr, -⟩ := Option.map_eq_some_iff.1 hg
  exact ⟨r, hr⟩

theorem SameGraphs.hasIn (h : s.SameGraphs t D) (hnames : ∀ i, i ∈ D ↔ i ∈ E) {x : Triple}
    (hx : s.HasIn D x) : t.HasIn E x := by
  obtain ⟨i, hi, g, hg, hmem⟩ := hx
  obtain ⟨g', k, hg', hk, hmembers⟩ := h i hi
  obtain rfl := Option.some.inj (hg.symm.trans hg')
  refine ⟨i, (hnames i).1 hi, k, hk, ?_⟩
  rw [← Graph.mem_members, ← hmembers, Graph.mem_members]
  exact hmem

/-- The scopes of two datasets of the same names are one graph each, with the same triples. So the
same rows solve a local pattern there. -/
theorem solveIn_union_congr (hp : p.isLocal = true) (hnames : ∀ i, i ∈ D ↔ i ∈ E)
    (hgraphs : s.SameGraphs t D) :
    s.solveIn now (.union D) p = t.solveIn now (.union E) p := by
  have hgraphs' := hgraphs.symm hnames
  obtain ⟨c, hc⟩ := exists_resolve_union hgraphs.exists_ref?
  obtain ⟨d, hd⟩ := exists_resolve_union hgraphs'.exists_ref?
  obtain ⟨g, hcg, hg⟩ := graphs_of_resolve_union hc
  obtain ⟨k, hdk, hk⟩ := graphs_of_resolve_union hd
  have hmem (x : Triple) : x ∈ g.triples ↔ x ∈ k.triples := by
    rw [hg, hk]
    exact ⟨hgraphs.hasIn hnames, hgraphs'.hasIn fun i => (hnames i).symm⟩
  have hfind : Selection.find (s.within c).graphs = Selection.find (t.within d).graphs := by
    have hs : (s.within c).graphs = [g] := hcg
    have ht : (t.within d).graphs = [k] := hdk
    rw [hs, ht]
    unfold Selection.find
    simp only [List.flatMap_singleton, Graph.find_congr hmem]
  unfold solveIn
  rw [hc, hd]
  exact solve_congr hfind hp

end Session

namespace StoreM

variable {s t : Session}

/-! ## Answers -/

/-- The same rows have the same answer, whatever the session. -/
theorem answer_alike {form : QueryForm} (hform : form.isAboutSolutions = true)
    (dataset dataset' : Option (List Iri)) (p : GraphPattern) (rows : List Row) :
    AnswersAlike s.store.supply t.store.supply ((answer ⟨form, dataset, p⟩ rows).exec s).1
      ((answer ⟨form, dataset', p⟩ rows).exec t).1 := by
  cases form with
  | ask => exact rfl
  | select names distinct => exact rfl
  | construct template =>
    obtain ⟨d, hd⟩ := exists_draft template rows
    exact ⟨d, hd s.store.supply, hd t.store.supply⟩
  | describe slots => exact nomatch hform

theorem result_evaluateStandard (form : QueryForm) (is : List Iri) (p : GraphPattern)
    (now : DateTime) (s : Session) :
    ((evaluateStandard ⟨form, some is, p⟩ now).exec s).1 =
      s.solveIn now (.union is) p >>= fun rows =>
        ((answer ⟨form, some is, p⟩ rows).exec s).1 := by
  rw [evaluateStandard_eq, (readsOnly_solveQuery _ now).result_bind]
  exact congrArg (· >>= _) (s.result_inScope now p (.union is))

/-- **A dataset confines a query.** Two lists of names that name the same graphs, all of them there
in two sessions and with the same triples, make a query about solutions have the same answer in
both: whatever else is in the sessions, whatever their scopes, and however often and in which order
the names are listed. -/
theorem answers_alike (now : DateTime) {form : QueryForm} {p : GraphPattern} {D E : List Iri}
    (hform : form.isAboutSolutions = true) (hp : p.isLocal = true)
    (hnames : ∀ i, i ∈ D ↔ i ∈ E) (hgraphs : s.SameGraphs t D) :
    AnswersAlike s.store.supply t.store.supply
      ((evaluateStandard ⟨form, some D, p⟩ now).exec s).1
      ((evaluateStandard ⟨form, some E, p⟩ now).exec t).1 := by
  rw [result_evaluateStandard, result_evaluateStandard,
    Session.solveIn_union_congr hp hnames hgraphs]
  cases t.solveIn now (.union E) p with
  | error e => exact rfl
  | ok rows => exact answer_alike hform (some D) (some E) p rows

/-- The session with the graph of the family, inside the scope of another graph in which nobody is
a parent, and with another supply. -/
def distantSession : Session :=
  ((do
    let r ← addGraph (.ofTriples (some ⟨"urn:distant"⟩)
      [⟨.iri ⟨"urn:ann"⟩, .iri ⟨"urn:knows"⟩, .iri ⟨"urn:dan"⟩⟩]) false
    enterScope (.graph r)).exec (familySession.withSupply ⟨7⟩)).2

/-- A graph with a fresh blank node for every child, from a graph that is named once and from a
merge with itself. -/
theorem answers_alike_family :
    let form : QueryForm :=
      .construct [⟨.fixed (.blank ⟨1⟩), .fixed (.iri ⟨"urn:birth"⟩), .var "y"⟩]
    let p : GraphPattern := .basic [childPattern "x" "y"]
    let D : List Iri := [⟨"urn:family"⟩]
    let E : List Iri := [⟨"urn:family"⟩, ⟨"urn:family"⟩]
    form.isAboutSolutions = true ∧ p.isLocal = true ∧ (∀ i, i ∈ D ↔ i ∈ E) ∧
      familySession.SameGraphs distantSession D ∧
      familySession.store.supply ≠ distantSession.store.supply ∧
      (distantSession.solveIn noon (.union E) p).toOption.map List.length = some 2 ∧
      AnswersAlike familySession.store.supply distantSession.store.supply
        ((evaluateStandard ⟨form, some D, p⟩ noon).exec familySession).1
        ((evaluateStandard ⟨form, some E, p⟩ noon).exec distantSession).1 := by
  intro form p D E
  have hnames (i : Iri) : i ∈ D ↔ i ∈ E := by simp [D, E]
  have hgraphs : familySession.SameGraphs distantSession D := by
    intro i hi
    obtain rfl := List.mem_singleton.1 hi
    exact ⟨_, _, rfl, rfl, by decide +kernel⟩
  exact ⟨rfl, rfl, hnames, hgraphs, by decide +kernel, by decide +kernel,
    answers_alike noon rfl rfl hnames hgraphs⟩

end StoreM

end RdfStore
