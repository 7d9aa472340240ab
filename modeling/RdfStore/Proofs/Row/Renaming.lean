import RdfStore.Proofs.Row.Merging
import RdfStore.Proofs.Term.Renaming

/-!
# Renaming the blank nodes of rows

Rows are compared and merged by what they find, and patterns are bound by comparing terms. So the
merge of renamed rows is the renamed merge (`Row.merge?_rename`), and a renamed pattern is bound in a
renamed row to a renamed triple as before (`Pattern.bind?_rename`).
-/

namespace RdfStore

variable {π : Equiv.Perm Blank}

/-! ## Rows -/

namespace Row

/-- The row with other names for its blank nodes. -/
def rename (π : Equiv.Perm Blank) (row : Row) : Row := row.mapValues (Term.rename π)

/-- The formulas in the row are in order. -/
def InOrder (row : Row) : Prop := ∀ x t, row.find? x = some t → t.InOrder

variable {a b c row : Row} {x : String} {t : Term}

theorem find?_rename : (row.rename π).find? x = (row.find? x).map (Term.rename π) :=
  SortedMap.find?_mapValues

theorem contains_rename : (row.rename π).contains x = row.contains x := by
  unfold SortedMap.contains
  rw [find?_rename, Option.isSome_map]

theorem rename_insert : rename π (row.insert x t) = (row.rename π).insert x (t.rename π) :=
  SortedMap.mapValues_insert

theorem inOrder_empty : InOrder .empty := fun _ _ h => nomatch h

theorem InOrder.insert (h : row.InOrder) (ht : t.InOrder) : InOrder (row.insert x t) := by
  intro y u hu
  rw [SortedMap.find?_insert] at hu
  split at hu
  · exact Option.some.inj hu ▸ ht
  · exact h y u hu

theorem compatible_rename (ha : a.InOrder) (hb : b.InOrder) :
    (a.rename π).compatible (b.rename π) = a.compatible b := by
  rw [Bool.eq_iff_iff, compatible_iff, compatible_iff]
  simp only [find?_rename, Option.map_eq_some_iff]
  constructor
  · intro h x s t hs ht
    exact (Term.rename_inj (ha x s hs) (hb x t ht)).1 (h x _ _ ⟨s, hs, rfl⟩ ⟨t, ht, rfl⟩)
  · rintro h x _ _ ⟨s, hs, rfl⟩ ⟨t, ht, rfl⟩
    exact congrArg _ (h x s t hs ht)

theorem merge?_rename (ha : a.InOrder) (hb : b.InOrder) :
    (a.rename π).merge? (b.rename π) = (a.merge? b).map (rename π) := by
  cases hab : a.compatible b with
  | false =>
    unfold merge?
    rw [compatible_rename ha hb, hab]
    rfl
  | true =>
    obtain ⟨c, hc⟩ := exists_merge? hab
    rw [hc]
    refine merge?_eq_some.2 ⟨(compatible_rename ha hb).trans hab, fun x => ?_⟩
    rw [find?_rename, (merge?_eq_some.1 hc).2, find?_rename, find?_rename]
    cases a.find? x with
    | none => rfl
    | some t => rfl

theorem InOrder.merge? (ha : a.InOrder) (hb : b.InOrder) (h : a.merge? b = some c) :
    c.InOrder := by
  intro x t ht
  rw [(merge?_eq_some.1 h).2, Option.or_eq_some_iff] at ht
  rcases ht with ht | ⟨-, ht⟩
  · exact ha x t ht
  · exact hb x t ht

end Row

/-! ## Patterns -/

/-- The position with other names for its blank nodes. -/
def Slot.rename (π : Equiv.Perm Blank) : Slot → Slot
  | fixed t => fixed (t.rename π)
  | var x => var x

def Slot.InOrder : Slot → Prop
  | fixed t => t.InOrder
  | var _ => True

/-- The pattern with other names for its blank nodes. -/
def Pattern.rename (π : Equiv.Perm Blank) (p : Pattern) : Pattern := p.map (Slot.rename π)

def Pattern.InOrder (p : Pattern) : Prop :=
  p.subject.InOrder ∧ p.predicate.InOrder ∧ p.object.InOrder

namespace Slot

variable {s : Slot} {t : Term} {row row' : Row}

theorem resolve?_rename : (s.rename π).resolve? (row.rename π) =
    (s.resolve? row).map (Term.rename π) := by
  cases s with
  | fixed u => rfl
  | var x => exact Row.find?_rename

theorem inOrder_of_resolve? (hs : s.InOrder) (hrow : row.InOrder) (h : s.resolve? row = some t) :
    t.InOrder := by
  cases s with
  | fixed u => exact Option.some.inj h ▸ hs
  | var x => exact hrow x t h

theorem ite_rename {u : Term} (hu : u.InOrder) (ht : t.InOrder) :
    (if u.rename π = t.rename π then some (row.rename π) else none) =
      (if u = t then some row else none).map (Row.rename π) := by
  by_cases h : u = t
  · rw [if_pos h, if_pos (congrArg _ h)]
    rfl
  · rw [if_neg h, if_neg (mt (Term.rename_inj hu ht).1 h)]
    rfl

theorem bind?_rename (hs : s.InOrder) (ht : t.InOrder) (hrow : row.InOrder) :
    (s.rename π).bind? (t.rename π) (row.rename π) = (s.bind? t row).map (Row.rename π) := by
  cases s with
  | fixed u => exact ite_rename hs ht
  | var x =>
    simp only [rename, bind?, Row.find?_rename]
    cases hx : row.find? x with
    | none => exact congrArg some Row.rename_insert.symm
    | some u => exact ite_rename (hrow x u hx) ht

theorem inOrder_of_bind? (ht : t.InOrder) (hrow : row.InOrder) (h : s.bind? t row = some row') :
    row'.InOrder := by
  cases s with
  | fixed u =>
    obtain ⟨-, h⟩ := Option.ite_none_right_eq_some.1 h
    exact Option.some.inj h ▸ hrow
  | var x =>
    unfold bind? at h
    dsimp only at h
    cases hx : row.find? x with
    | none =>
      rw [hx] at h
      exact Option.some.inj h ▸ hrow.insert ht
    | some u =>
      rw [hx] at h
      obtain ⟨-, h⟩ := Option.ite_none_right_eq_some.1 h
      exact Option.some.inj h ▸ hrow

end Slot

namespace Pattern

variable {p : Pattern} {t : Triple} {row row' : Row}

/-- A renamed pattern is bound as before: one position after the other. -/
theorem bind?_rename (hp : p.InOrder) (ht : t.InOrder) (hrow : row.InOrder) :
    (p.rename π).bind? (t.rename π) (row.rename π) = (p.bind? t row).map (Row.rename π) := by
  obtain ⟨hs, hq, ho⟩ := hp
  obtain ⟨hts, htq, hto⟩ := ht
  show ((p.subject.rename π).bind? (t.subject.rename π) (row.rename π)).bind (fun row =>
    ((p.predicate.rename π).bind? (t.predicate.rename π) row).bind fun row =>
      (p.object.rename π).bind? (t.object.rename π) row) = ((p.subject.bind? t.subject row).bind
    fun row => (p.predicate.bind? t.predicate row).bind fun row =>
      p.object.bind? t.object row).map (Row.rename π)
  rw [Slot.bind?_rename hs hts hrow]
  cases hb : p.subject.bind? t.subject row with
  | none => rfl
  | some b =>
    have hb' := Slot.inOrder_of_bind? hts hrow hb
    dsimp only [Option.map_some, Option.bind_some]
    rw [Slot.bind?_rename hq htq hb']
    cases hc : p.predicate.bind? t.predicate b with
    | none => rfl
    | some c => exact Slot.bind?_rename ho hto (Slot.inOrder_of_bind? htq hb' hc)

theorem inOrder_of_bind? (ht : t.InOrder) (hrow : row.InOrder) (h : p.bind? t row = some row') :
    row'.InOrder := by
  obtain ⟨b, hb, h⟩ := Option.bind_eq_some_iff.1 h
  obtain ⟨c, hc, h⟩ := Option.bind_eq_some_iff.1 h
  have hb' := Slot.inOrder_of_bind? ht.1 hrow hb
  exact Slot.inOrder_of_bind? ht.2.2 (Slot.inOrder_of_bind? ht.2.1 hb' hc) h

end Pattern

end RdfStore
