import Mathlib.Data.Finset.Card
import RdfStore.Proofs.Graph.Lookup

/-!
# Graphs are sets of triples

A history of operations on a graph is run beside the same history on a plain finite set. The
main statement (`Graph.history_refines`) is that the two never part: what the operations report,
and what every query of the graph sees afterwards, is what the plain set has.
-/

namespace RdfStore

/-! ## The set behind a graph -/

namespace Graph

/-- The triples of a graph as a plain set. -/
def members (g : Graph) : Finset Triple := g.triples.toList.toFinset

@[simp] theorem mem_members {g : Graph} {t : Triple} : t ∈ g.members ↔ t ∈ g.triples :=
  List.mem_toFinset

theorem card_members (g : Graph) : g.members.card = g.size :=
  List.toFinset_card_of_nodup g.triples.nodup_toList

@[simp] theorem members_empty (name : GraphName) : (empty name).members = ∅ := rfl

@[simp] theorem members_insert {g : Graph} {t : Triple} :
    (g.insert t).members = Insert.insert t g.members := by
  ext u
  simp

@[simp] theorem members_erase {g : Graph} {t : Triple} :
    (g.erase t).members = g.members.erase t := by
  ext u
  simp [and_comm]

/-! ## What one operation does to the set -/

@[simp] theorem members_assert {g : Graph} {t : Triple} :
    (g.assert t).1.members = Insert.insert t g.members := by
  unfold assert
  split
  · next h =>
    have ht : t ∈ g.members := mem_members.2 (g.coherent.contains_iff.1 h)
    exact (Finset.insert_eq_of_mem ht).symm
  · exact members_insert

/-- Asserting tells whether the set grows. -/
theorem card_assert {g : Graph} {t : Triple} :
    (g.assert t).1.members.card = g.members.card + (g.assert t).2.toNat := by
  rw [members_assert]
  unfold assert
  split
  · next h =>
    have ht : t ∈ g.members := mem_members.2 (g.coherent.contains_iff.1 h)
    exact congrArg Finset.card (Finset.insert_eq_of_mem ht)
  · next h =>
    -- The index refuses the triple only if the set lacks it, so the set reports it as new.
    have ht : ¬ t ∈ g.triples := fun ht => h (g.coherent.contains_iff.2 ht)
    have hc : g.contains t = false := by simpa [← contains_iff] using ht
    rw [hc]
    exact Finset.card_insert_of_notMem (mt mem_members.1 ht)

@[simp] theorem members_retract {g : Graph} {t : Triple} :
    (g.retract t).1.members = g.members.erase t :=
  members_erase

/-- Retracting tells whether the set shrinks. -/
theorem card_retract {g : Graph} {t : Triple} :
    (g.retract t).1.members.card + (g.retract t).2.toNat = g.members.card := by
  rw [members_retract]
  show (g.members.erase t).card + (g.contains t).toNat = g.members.card
  by_cases ht : t ∈ g.triples
  · rw [contains_iff.2 ht]
    exact Finset.card_erase_add_one (mem_members.2 ht)
  · have hc : g.contains t = false := by simpa [← contains_iff] using ht
    rw [hc, Finset.erase_eq_of_notMem (mt mem_members.1 ht)]
    rfl

@[simp] theorem members_assertAll {g : Graph} {ts : List Triple} :
    (g.assertAll ts).1.members = g.members ∪ ts.toFinset := by
  induction ts generalizing g with
  | nil => simp [assertAll]
  | cons t ts ih =>
    show ((g.assert t).1.assertAll ts).1.members = _
    rw [ih, members_assert, List.toFinset_cons, Finset.insert_union, Finset.union_insert]

theorem mem_ofTriples {name : GraphName} {ts : List Triple} {t : Triple} :
    t ∈ (ofTriples name ts).triples ↔ t ∈ ts := by
  rw [← mem_members]
  unfold ofTriples
  rw [members_assertAll, members_empty, Finset.empty_union, List.mem_toFinset]

theorem members_merge {g h : Graph} : (g.merge h).1.members = g.members ∪ h.members :=
  members_assertAll

theorem mem_merge {g h : Graph} {t : Triple} :
    t ∈ (g.merge h).1.triples ↔ t ∈ g.triples ∨ t ∈ h.triples := by
  rw [← mem_members, members_merge, Finset.mem_union, mem_members, mem_members]

/-- Asserting many triples tells by how many the set grows. -/
theorem card_assertAll {g : Graph} {ts : List Triple} :
    (g.assertAll ts).1.members.card = g.members.card + (g.assertAll ts).2 := by
  induction ts generalizing g with
  | nil => rfl
  | cons t ts ih =>
    show ((g.assert t).1.assertAll ts).1.members.card =
      g.members.card + ((g.assert t).2.toNat + ((g.assert t).1.assertAll ts).2)
    rw [ih, card_assert]
    omega

@[simp] theorem members_retractAll {g : Graph} {ts : List Triple} :
    (g.retractAll ts).1.members = g.members \ ts.toFinset := by
  induction ts generalizing g with
  | nil => simp [retractAll]
  | cons t ts ih =>
    show ((g.retract t).1.retractAll ts).1.members = _
    rw [ih, members_retract, List.toFinset_cons]
    ext u
    simp only [Finset.mem_sdiff, Finset.mem_erase, Finset.mem_insert]
    grind

/-- Retracting many triples tells by how many the set shrinks. -/
theorem card_retractAll {g : Graph} {ts : List Triple} :
    (g.retractAll ts).1.members.card + (g.retractAll ts).2 = g.members.card := by
  induction ts generalizing g with
  | nil => rfl
  | cons t ts ih =>
    have hrest := ih (g := (g.retract t).1)
    have hfirst := card_retract (g := g) (t := t)
    show ((g.retract t).1.retractAll ts).1.members.card +
      ((g.retract t).2.toNat + ((g.retract t).1.retractAll ts).2) = _
    omega

end Graph

/-! ## Histories -/

/-- An operation on a graph. -/
inductive GraphAction where
  /-- Adds a triple. -/
  | assert (t : Triple)
  /-- Adds triples. -/
  | assertAll (ts : List Triple)
  /-- Removes a triple. -/
  | retract (t : Triple)
  /-- Removes triples. -/
  | retractAll (ts : List Triple)
  /-- Removes all triples. -/
  | clear
  /-- Adds the triples of another graph. -/
  | merge (other : Graph)

namespace GraphAction

/-- The graph after an operation, and what the operation reports: a number, one for "yes" and
zero for "no". Clearing reports nothing. -/
def run (g : Graph) : GraphAction → Graph × Option Nat
  | assert t => ((g.assert t).1, some (g.assert t).2.toNat)
  | assertAll ts => ((g.assertAll ts).1, some (g.assertAll ts).2)
  | retract t => ((g.retract t).1, some (g.retract t).2.toNat)
  | retractAll ts => ((g.retractAll ts).1, some (g.retractAll ts).2)
  | clear => (g.clear, none)
  | merge other => ((g.merge other).1, some (g.merge other).2)

/-- What an operation makes of a plain set. -/
def effect (S : Finset Triple) : GraphAction → Finset Triple
  | assert t => insert t S
  | assertAll ts => S ∪ ts.toFinset
  | retract t => S.erase t
  | retractAll ts => S \ ts.toFinset
  | clear => ∅
  | merge other => S ∪ other.members

/-- How many members an operation adds to a plain set or removes from it. -/
def changes (S : Finset Triple) (a : GraphAction) : Nat :=
  (a.effect S \ S).card + (S \ a.effect S).card

/-- What an operation has to report. -/
def report (S : Finset Triple) : GraphAction → Option Nat
  | clear => none
  | a => some (a.changes S)

end GraphAction

/-- The graph after a history, and the reports on the way. -/
def Graph.history (g : Graph) : List GraphAction → Graph × List (Option Nat)
  | [] => (g, [])
  | a :: as =>
    let (g, n) := a.run g
    let (g, ns) := g.history as
    (g, n :: ns)

/-- The plain set after a history, and what there is to report on the way. -/
def setHistory (S : Finset Triple) : List GraphAction → Finset Triple × List (Option Nat)
  | [] => (S, [])
  | a :: as =>
    let (T, ns) := setHistory (a.effect S) as
    (T, a.report S :: ns)

/-- Every query of a graph sees exactly a plain set. -/
structure Graph.Refines (g : Graph) (S : Finset Triple) : Prop where
  /-- Membership is that of the set. -/
  contains : ∀ t, g.contains t = true ↔ t ∈ S
  /-- The size is that of the set. -/
  size : g.size = S.card
  /-- The triples are listed once each. -/
  nodup : g.triples.toList.Nodup
  /-- The triples listed are those of the set. -/
  triples : ∀ t, t ∈ g.triples.toList ↔ t ∈ S
  /-- No look-up gives a triple twice, whatever positions are known. -/
  nodup_find : ∀ s p o, (g.find s p o).Nodup
  /-- A look-up gives the triples of the set that match. -/
  find : ∀ s p o t, t ∈ g.find s p o ↔ t ∈ S ∧ Selector.pattern s p o t = true
  /-- Nor does the index alone give a triple twice. -/
  nodup_query : ∀ s p o, (g.index.query s p o).Nodup
  /-- The index alone gives the same triples. -/
  query : ∀ s p o t, t ∈ g.index.query s p o ↔ t ∈ S ∧ Selector.pattern s p o t = true
  /-- The nodes are the subjects and objects of the set. -/
  nodes : ∀ x, x ∈ g.nodes ↔ ∃ t ∈ S, x = t.subject ∨ x = t.object

namespace Graph

/-- A graph refines the set of its triples, since its index lists them. -/
theorem refines_members (g : Graph) : g.Refines g.members where
  contains t := by rw [contains_iff, mem_members]
  size := g.card_members.symm
  nodup := g.triples.nodup_toList
  triples t := (mem_members (g := g)).symm
  nodup_find := g.nodup_find
  find s p o t := by rw [mem_find, mem_members]
  nodup_query := g.index.nodup_query
  query s p o t := by rw [g.coherent.mem_query, mem_members]
  nodes x := by simp only [mem_nodes, mem_members]

/-- One operation does to the set what it should. -/
theorem members_run (g : Graph) (a : GraphAction) : (a.run g).1.members = a.effect g.members := by
  cases a with
  | assert t => exact members_assert
  | assertAll ts => exact members_assertAll
  | retract t => exact members_retract
  | retractAll ts => exact members_retractAll
  | clear => rfl
  | merge other => exact members_assertAll

/-- An operation that only adds changes as many members as the set grows by. -/
theorem changes_of_subset {S : Finset Triple} {a : GraphAction} {n : Nat}
    (hsub : S ⊆ a.effect S) (hcard : (a.effect S).card = S.card + n) : a.changes S = n := by
  have hgrow := Finset.card_sdiff_add_card_eq_card hsub
  unfold GraphAction.changes
  rw [Finset.sdiff_eq_empty_iff_subset.2 hsub, Finset.card_empty]
  omega

/-- An operation that only removes changes as many members as the set shrinks by. -/
theorem changes_of_superset {S : Finset Triple} {a : GraphAction} {n : Nat}
    (hsub : a.effect S ⊆ S) (hcard : (a.effect S).card + n = S.card) : a.changes S = n := by
  have hshrink := Finset.card_sdiff_add_card_eq_card hsub
  unfold GraphAction.changes
  rw [Finset.sdiff_eq_empty_iff_subset.2 hsub, Finset.card_empty]
  omega

/-- One operation reports how many triples it changes. -/
theorem report_run (g : Graph) (a : GraphAction) : (a.run g).2 = a.report g.members := by
  have heffect := members_run g a
  cases a with
  | assert t =>
    refine congrArg some (changes_of_subset (Finset.subset_insert _ _) ?_).symm
    rw [← heffect]
    exact card_assert
  | assertAll ts =>
    refine congrArg some (changes_of_subset Finset.subset_union_left ?_).symm
    rw [← heffect]
    exact card_assertAll
  | retract t =>
    refine congrArg some (changes_of_superset (Finset.erase_subset _ _) ?_).symm
    rw [← heffect]
    exact card_retract
  | retractAll ts =>
    refine congrArg some (changes_of_superset Finset.sdiff_subset ?_).symm
    rw [← heffect]
    exact card_retractAll
  | clear => rfl
  | merge other =>
    refine congrArg some (changes_of_subset Finset.subset_union_left ?_).symm
    rw [← heffect]
    exact card_assertAll

/-- A history of a graph and the same history of its set stay together. -/
theorem history_eq (g : Graph) (as : List GraphAction) :
    ((g.history as).1.members, (g.history as).2) = setHistory g.members as := by
  induction as generalizing g with
  | nil => rfl
  | cons a as ih =>
    -- The rest of the history starts from what the first operation leaves of either.
    have hrest := ih (a.run g).1
    rw [members_run] at hrest
    show (((a.run g).1.history as).1.members, (a.run g).2 :: ((a.run g).1.history as).2) = _
    unfold setHistory
    rw [← hrest, report_run]

/-- **A graph is a set of triples.** After any history of a new graph, every query sees the plain
set that the same history leaves, and every report on the way is the number of triples that the
operation added or removed. -/
theorem history_refines (name : GraphName) (as : List GraphAction) :
    ((empty name).history as).1.Refines (setHistory ∅ as).1 ∧
      ((empty name).history as).2 = (setHistory ∅ as).2 := by
  have heq := history_eq (empty name) as
  rw [members_empty] at heq
  rw [← heq]
  exact ⟨refines_members _, rfl⟩

end Graph

end RdfStore
