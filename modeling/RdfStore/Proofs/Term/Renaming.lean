import Mathlib.Logic.Equiv.Defs
import RdfStore.Term.Order

/-!
# Renaming blank nodes

A bijection on blank nodes renames those of a term, also inside formulas. The triples of a formula
then stand in another order, so renaming sorts them again; for terms whose formulas are in order
(`Term.InOrder`) it can be undone (`Term.rename_symm_rename`), and no two of them get the same name
(`Term.rename_inj`).
-/

namespace RdfStore

namespace Term

mutual
/-- The term with other names for its blank nodes. A formula lists its triples in their new
order. -/
def rename (π : Equiv.Perm Blank) : Term → Term
  | .iri i => .iri i
  | .blank b => .blank (π b)
  | .literal l => .literal l
  | .var v => .var v
  | .formula ts => .ofTriples (.ofList (renameAll π ts))
def renameAll (π : Equiv.Perm Blank) : List (Statement Term) → List (Statement Term)
  | [] => []
  | ⟨s, p, o⟩ :: ts => ⟨s.rename π, p.rename π, o.rename π⟩ :: renameAll π ts
end

mutual
/-- Every formula in the term lists its triples in ascending order, as a set does. -/
def InOrder : Term → Prop
  | .iri _ => True
  | .blank _ => True
  | .literal _ => True
  | .var _ => True
  | .formula ts => ts.Pairwise KeyOrder.Lt ∧ AllInOrder ts
def AllInOrder : List (Statement Term) → Prop
  | [] => True
  | ⟨s, p, o⟩ :: ts => (s.InOrder ∧ p.InOrder ∧ o.InOrder) ∧ AllInOrder ts
end

end Term

namespace Statement

/-- The triple with other names for its blank nodes. -/
def rename (π : Equiv.Perm Blank) (t : Triple) : Triple := t.map (Term.rename π)

def InOrder (t : Triple) : Prop := t.subject.InOrder ∧ t.predicate.InOrder ∧ t.object.InOrder

end Statement

variable {π : Equiv.Perm Blank}

namespace Term

theorem renameAll_eq (π : Equiv.Perm Blank) (ts : List Triple) :
    renameAll π ts = ts.map (Statement.rename π) := by
  induction ts with
  | nil => rfl
  | cons t ts ih =>
    obtain ⟨s, p, o⟩ := t
    unfold renameAll
    rw [ih]
    rfl

theorem allInOrder_iff {ts : List Triple} : AllInOrder ts ↔ ∀ t ∈ ts, t.InOrder := by
  induction ts with
  | nil =>
    unfold AllInOrder
    simp
  | cons t ts ih =>
    obtain ⟨s, p, o⟩ := t
    unfold AllInOrder
    rw [ih, List.forall_mem_cons]
    exact Iff.rfl

/-- The formula of a set of triples is in order if the triples are. -/
theorem inOrder_ofTriples {ts : TripleSet} (h : ∀ t ∈ ts, t.InOrder) : (ofTriples ts).InOrder := by
  unfold ofTriples InOrder
  exact ⟨ts.ascending, allInOrder_iff.2 h⟩

mutual
theorem inOrder_rename : ∀ {t : Term}, t.InOrder → (t.rename π).InOrder
  | .iri _, _ => by simp only [rename, InOrder]
  | .blank _, _ => by simp only [rename, InOrder]
  | .literal _, _ => by simp only [rename, InOrder]
  | .var _, _ => by simp only [rename, InOrder]
  | .formula ts, h => by
    unfold InOrder at h
    unfold rename
    refine inOrder_ofTriples fun t ht => ?_
    exact allInOrder_iff.1 (allInOrder_renameAll h.2) t (SortedSet.mem_ofList.1 ht)
theorem allInOrder_renameAll :
    ∀ {ts : List (Statement Term)}, AllInOrder ts → AllInOrder (renameAll π ts)
  | [], _ => by simp only [renameAll, AllInOrder]
  | ⟨s, p, o⟩ :: ts, h => by
    unfold AllInOrder at h
    obtain ⟨⟨hs, hp, ho⟩, hts⟩ := h
    unfold renameAll AllInOrder
    exact ⟨⟨inOrder_rename hs, inOrder_rename hp, inOrder_rename ho⟩, allInOrder_renameAll hts⟩
end

/-- An ascending list is the set of its members. -/
theorem toList_ofList {ts : List Triple} (h : ts.Pairwise KeyOrder.Lt) :
    (SortedSet.ofList ts).toList = ts :=
  SortedSet.eq_of_ascending (SortedSet.ofList ts).ascending h fun _ => SortedSet.mem_ofList

mutual
/-- Renaming can be undone. -/
theorem rename_symm_rename : ∀ {t : Term}, t.InOrder → (t.rename π).rename π.symm = t
  | .iri _, _ => by simp only [rename]
  | .blank b, _ => by simp only [rename, Equiv.symm_apply_apply]
  | .literal _, _ => by simp only [rename]
  | .var _, _ => by simp only [rename]
  | .formula ts, h => by
    unfold InOrder at h
    obtain ⟨hascending, hall⟩ := h
    -- The new names are sorted in between, which changes no member.
    have hmem (x : Triple) : x ∈ renameAll π.symm (SortedSet.ofList (renameAll π ts)).toList ↔
        x ∈ ts := by
      have hback : x ∈ ts ↔ x ∈ renameAll π.symm (renameAll π ts) := by
        rw [renameAll_symm_renameAll hall]
      rw [hback, renameAll_eq, renameAll_eq π.symm, List.mem_map, List.mem_map]
      exact exists_congr fun y => and_congr_left' SortedSet.mem_ofList
    have hset : SortedSet.ofList (renameAll π.symm (SortedSet.ofList (renameAll π ts)).toList) =
        SortedSet.ofList ts := by
      refine SortedSet.ext_mem fun x => ?_
      rw [SortedSet.mem_ofList, SortedSet.mem_ofList, hmem]
    simp only [rename, ofTriples]
    rw [hset, toList_ofList hascending]
theorem renameAll_symm_renameAll :
    ∀ {ts : List (Statement Term)}, AllInOrder ts → renameAll π.symm (renameAll π ts) = ts
  | [], _ => by simp only [renameAll]
  | ⟨s, p, o⟩ :: ts, h => by
    unfold AllInOrder at h
    obtain ⟨⟨hs, hp, ho⟩, hts⟩ := h
    simp only [renameAll]
    rw [rename_symm_rename hs, rename_symm_rename hp, rename_symm_rename ho,
      renameAll_symm_renameAll hts]
end

variable {t u : Term}

/-- Terms in order have different names if they are different. -/
theorem rename_inj (ht : t.InOrder) (hu : u.InOrder) : t.rename π = u.rename π ↔ t = u := by
  constructor
  · intro h
    rw [← rename_symm_rename (π := π) ht, h, rename_symm_rename hu]
  · rintro rfl
    rfl

end Term

namespace Statement

variable {t u : Triple}

theorem inOrder_rename (h : t.InOrder) : (t.rename π).InOrder :=
  ⟨Term.inOrder_rename h.1, Term.inOrder_rename h.2.1, Term.inOrder_rename h.2.2⟩

theorem rename_inj (ht : t.InOrder) (hu : u.InOrder) : t.rename π = u.rename π ↔ t = u := by
  obtain ⟨s, p, o⟩ := t
  obtain ⟨s', p', o'⟩ := u
  obtain ⟨hs, hp, ho⟩ := ht
  obtain ⟨hs', hp', ho'⟩ := hu
  show Statement.mk _ _ _ = Statement.mk _ _ _ ↔ _
  rw [Statement.mk.injEq, Statement.mk.injEq, Term.rename_inj hs hs', Term.rename_inj hp hp',
    Term.rename_inj ho ho']

end Statement

end RdfStore
