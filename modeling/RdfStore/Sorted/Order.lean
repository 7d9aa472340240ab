/-!
# Lawful orders

A key type carries one comparison. It is oriented, transitive, and says "equal" of equal keys
only, so a list in strictly ascending order is the one way to write a finite set of keys.
-/

namespace RdfStore

universe u v

/-- A type with a total comparison that tells any two different values apart. -/
class KeyOrder (α : Type u) where
  cmp : α → α → Ordering
  /-- Swapping the values swaps the answer, and "at most" is transitive. -/
  trans : Std.TransCmp cmp
  lawful : Std.LawfulEqCmp cmp

namespace KeyOrder

variable {α : Type u} [KeyOrder α]

def Lt (a b : α) : Prop := cmp a b = .lt

instance (a b : α) : Decidable (Lt a b) :=
  decEq (cmp a b) .lt

theorem eq_of_cmp {a b : α} (h : cmp a b = .eq) : a = b :=
  (lawful (α := α)).eq_of_compare h

theorem cmp_self (a : α) : cmp a a = .eq :=
  have := trans (α := α)
  Std.ReflCmp.compare_self

theorem pairwise_nil : ([] : List α).Pairwise Lt := .nil

theorem lt_of_gt {a b : α} (h : cmp a b = .gt) : Lt b a :=
  have := trans (α := α)
  Std.OrientedCmp.gt_iff_lt.1 h

theorem Lt.trans {a b c : α} (h : Lt a b) (k : Lt b c) : Lt a c :=
  have := KeyOrder.trans (α := α)
  Std.TransCmp.lt_trans h k

theorem Lt.irrefl (a : α) : ¬ Lt a a := by
  simp [Lt, cmp_self]

theorem Lt.ne {a b : α} (h : Lt a b) : a ≠ b := by
  intro e
  subst e
  exact Lt.irrefl _ h

theorem Lt.asymm {a b : α} (h : Lt a b) : ¬ Lt b a :=
  fun k => Lt.irrefl a (h.trans k)

@[reducible] def decidableEq : DecidableEq α := fun a b =>
  match h : cmp a b with
  | .eq => isTrue (eq_of_cmp h)
  | .lt => isFalse (Lt.ne h)
  | .gt => isFalse (Lt.ne (lt_of_gt h)).symm

end KeyOrder

instance : KeyOrder Nat where
  cmp := instOrdNat.compare
  trans := inferInstanceAs (Std.TransOrd Nat)
  lawful := inferInstanceAs (Std.LawfulEqOrd Nat)

/-- Texts, by the first character in which they differ, a text before its continuations. -/
instance : KeyOrder String where
  cmp := String.instOrd.compare
  trans := inferInstanceAs (Std.TransOrd String)
  lawful := inferInstanceAs (Std.LawfulEqOrd String)

instance {w : Nat} : KeyOrder (BitVec w) where
  cmp a b := KeyOrder.cmp a.toNat b.toNat
  trans :=
    { eq_swap := (KeyOrder.trans (α := Nat)).eq_swap
      isLE_trans := (KeyOrder.trans (α := Nat)).isLE_trans }
  lawful :=
    { compare_self := KeyOrder.cmp_self _
      eq_of_compare := fun h => BitVec.eq_of_toNat_eq (KeyOrder.eq_of_cmp h) }

/-- The order of the images under a map that tells values apart. -/
@[reducible] def KeyOrder.lift {α : Type u} {β : Type v} [KeyOrder β] (f : α → β)
    (inj : ∀ a b, f a = f b → a = b) : KeyOrder α where
  cmp a b := KeyOrder.cmp (f a) (f b)
  trans :=
    { eq_swap := (KeyOrder.trans (α := β)).eq_swap
      isLE_trans := (KeyOrder.trans (α := β)).isLE_trans }
  lawful :=
    { compare_self := KeyOrder.cmp_self _
      eq_of_compare := fun h => inj _ _ (KeyOrder.eq_of_cmp h) }

/-- One comparison after another is at most "equal" if the first is "less" or the second
decides a tie in favour. -/
theorem isLE_then {o p : Ordering} :
    (o.then p).isLE = true ↔ o = .lt ∨ o = .eq ∧ p.isLE = true := by
  cases o <;> simp [Ordering.then]

instance {α : Type u} {β : Type v} [KeyOrder α] [KeyOrder β] : KeyOrder (α × β) where
  cmp a b := (KeyOrder.cmp a.1 b.1).then (KeyOrder.cmp a.2 b.2)
  trans := by
    have hα := KeyOrder.trans (α := α)
    have hβ := KeyOrder.trans (α := β)
    refine { eq_swap := ?_, isLE_trans := ?_ }
    · intro a b
      rw [hα.eq_swap (a := a.1), hβ.eq_swap (a := a.2)]
      cases KeyOrder.cmp b.1 a.1 <;> simp [Ordering.then]
    · intro a b c h k
      rw [isLE_then] at h k ⊢
      rcases h with h | ⟨h, h'⟩
      · rcases k with k | ⟨k, _⟩
        · exact .inl (KeyOrder.Lt.trans h k)
        · rw [← KeyOrder.eq_of_cmp k]
          exact .inl h
      · rw [KeyOrder.eq_of_cmp h]
        rcases k with k | ⟨k, k'⟩
        · exact .inl k
        · exact .inr ⟨k, hβ.isLE_trans h' k'⟩
  lawful := by
    refine { compare_self := ?_, eq_of_compare := ?_ }
    · intro a
      simp [KeyOrder.cmp_self]
    · intro a b h
      rw [Ordering.then_eq_eq] at h
      exact Prod.ext (KeyOrder.eq_of_cmp h.1) (KeyOrder.eq_of_cmp h.2)

/-- How two lists stand to each other: by the first difference, a list before its
continuations. -/
def compareLists {α : Type u} [KeyOrder α] : List α → List α → Ordering
  | [], [] => .eq
  | [], _ :: _ => .lt
  | _ :: _, [] => .gt
  | a :: as, b :: bs => (KeyOrder.cmp a b).then (compareLists as bs)

instance {α : Type u} [KeyOrder α] : KeyOrder (Option α) where
  cmp
    | none, none => .eq
    | none, some _ => .lt
    | some _, none => .gt
    | some a, some b => KeyOrder.cmp a b
  trans := by
    have := KeyOrder.trans (α := α)
    refine { eq_swap := ?_, isLE_trans := ?_ }
    · intro a b
      cases a <;> cases b <;> simp
      exact Std.OrientedCmp.eq_swap
    · intro a b c
      cases a <;> cases b <;> cases c <;> simp
      exact Std.TransCmp.isLE_trans
  lawful := by
    refine { compare_self := ?_, eq_of_compare := ?_ }
    · intro a
      cases a <;> simp [KeyOrder.cmp_self]
    · intro a b
      cases a <;> cases b <;> simp
      exact KeyOrder.eq_of_cmp

end RdfStore
