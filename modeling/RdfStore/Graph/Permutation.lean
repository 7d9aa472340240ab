import RdfStore.Sorted.Map
import RdfStore.Sorted.Set
import RdfStore.Term.Order

/-!
# One order of the positions

A permutation files triples by their positions in one order: below a first term the second
terms, and below both the set of third terms. No branch is kept without a leaf
(`Permutation.Full`), so the first terms are exactly those in use.
-/

namespace RdfStore

/-- Triples of terms, filed by the first, then by the second, then by the third. -/
structure Permutation where
  branches : SortedMap Term (SortedMap Term (SortedSet Term))

namespace Permutation

def empty : Permutation := ⟨.empty⟩

instance : EmptyCollection Permutation := ⟨empty⟩

/-- The third terms below two others, if there are any. -/
def leaf? (n : Permutation) (a b : Term) : Option (SortedSet Term) :=
  (n.branches.find? a).bind fun m => m.find? b

def holds (n : Permutation) (a b c : Term) : Bool :=
  match n.leaf? a b with
  | some s => s.contains c
  | none => false

def insert (n : Permutation) (a b c : Term) : Permutation :=
  let m := (n.branches.find? a).getD .empty
  let s := (m.find? b).getD .empty
  ⟨n.branches.insert a (m.insert b (s.insert c))⟩

/-- Takes three terms out, and with them the branches that are left without leaves. -/
def erase (n : Permutation) (a b c : Term) : Permutation :=
  match n.branches.find? a with
  | none => n
  | some m =>
    match m.find? b with
    | none => n
    | some s =>
      ⟨n.branches.keep (!·.isEmpty) a (m.keep (!·.isEmpty) b (s.erase c))⟩

def roots (n : Permutation) : List Term := n.branches.keys

/-- The second and third terms below a first. -/
def below (n : Permutation) (a : Term) : List (Term × Term) :=
  match n.branches.find? a with
  | some m => m.entries.flatMap fun e => e.2.toList.map fun c => (e.1, c)
  | none => []

def leaves (n : Permutation) (a b : Term) : List Term :=
  match n.leaf? a b with
  | some s => s.toList
  | none => []

def all (n : Permutation) : List (Term × Term × Term) :=
  n.branches.entries.flatMap fun e =>
    e.2.entries.flatMap fun f => f.2.toList.map fun c => (e.1, f.1, c)

/-- Every branch has a leaf. -/
structure Full (n : Permutation) : Prop where
  branch : ∀ a m, n.branches.find? a = some m → m.isEmpty = false
  leaf : ∀ a m b s, n.branches.find? a = some m → m.find? b = some s → s.isEmpty = false

theorem holds_iff {n : Permutation} {a b c : Term} :
    n.holds a b c = true ↔
      ∃ m s, n.branches.find? a = some m ∧ m.find? b = some s ∧ c ∈ s := by
  unfold holds leaf?
  cases hm : n.branches.find? a with
  | none => simp
  | some m => cases hs : m.find? b <;> simp [hs, SortedSet.contains_iff]

@[simp] theorem holds_empty {a b c : Term} : empty.holds a b c = false := rfl

theorem full_empty : Full empty where
  branch _ _ h := nomatch h
  leaf _ _ _ _ h _ := nomatch h

/-- Filing adds the three terms and nothing else. -/
theorem holds_insert {n : Permutation} {a b c x y z : Term} :
    (n.insert a b c).holds x y z = true ↔
      (x = a ∧ y = b ∧ z = c) ∨ n.holds x y z = true := by
  rw [holds_iff, holds_iff]
  simp only [insert, SortedMap.find?_insert]
  by_cases hx : KeyOrder.cmp x a = .eq
  · have ha := KeyOrder.eq_of_cmp hx
    subst ha
    simp only [hx, if_true, Option.some.injEq]
    by_cases hy : KeyOrder.cmp y b = .eq
    · have hb := KeyOrder.eq_of_cmp hy
      subst hb
      cases hm : n.branches.find? x with
      | none => simp
      | some m => cases hs : m.find? y <;> simp [hs]
    · have hb : y ≠ b := fun e => hy (e ▸ KeyOrder.cmp_self _)
      cases hm : n.branches.find? x <;> simp [SortedMap.find?_insert, hy, hb]
  · have ha : x ≠ a := fun e => hx (e ▸ KeyOrder.cmp_self _)
    simp [hx, ha]

theorem isEmpty_insert_set {s : SortedSet Term} {c : Term} : (s.insert c).isEmpty = false := by
  have h : c ∈ s.insert c := SortedSet.mem_insert.2 (.inl rfl)
  unfold SortedSet.isEmpty
  rw [SortedSet.mem_def] at h
  cases hl : (s.insert c).toList with
  | nil => simp [hl] at h
  | cons => rfl

theorem isEmpty_of_find? {β : Type} {m : SortedMap Term β} {a : Term} {b : β}
    (h : m.find? a = some b) : m.isEmpty = false := by
  rw [SortedMap.find?_eq_some_iff] at h
  unfold SortedMap.isEmpty
  cases he : m.entries with
  | nil => simp [he] at h
  | cons => rfl

theorem Full.insert {n : Permutation} (h : n.Full) (a b c : Term) : (n.insert a b c).Full where
  branch x m hm := by
    simp only [Permutation.insert, SortedMap.find?_insert] at hm
    by_cases hx : KeyOrder.cmp x a = .eq
    · simp only [hx, if_true, Option.some.injEq] at hm
      subst hm
      exact isEmpty_of_find? SortedMap.find?_insert_self
    · simp only [hx, if_false] at hm
      exact h.branch x m hm
  leaf x m y s hm hs := by
    simp only [Permutation.insert, SortedMap.find?_insert] at hm
    by_cases hx : KeyOrder.cmp x a = .eq
    · simp only [hx, if_true, Option.some.injEq] at hm
      subst hm
      rw [SortedMap.find?_insert] at hs
      by_cases hy : KeyOrder.cmp y b = .eq
      · simp only [hy, if_true, Option.some.injEq] at hs
        subst hs
        exact isEmpty_insert_set
      · simp only [hy, if_false] at hs
        cases hn : n.branches.find? a with
        | none => simp [hn] at hs
        | some k =>
          simp only [hn, Option.getD_some] at hs
          exact h.leaf a k y s hn hs
    · simp only [hx, if_false] at hm
      exact h.leaf x m y s hm hs

theorem isEmpty_iff_map {β : Type} {m : SortedMap Term β} :
    m.isEmpty = true ↔ ∀ a b, m.find? a ≠ some b := by
  constructor
  · intro h a b hb
    rw [isEmpty_of_find? hb] at h
    simp at h
  · intro h
    unfold SortedMap.isEmpty
    rw [List.isEmpty_iff, List.eq_nil_iff_forall_not_mem]
    intro e he
    exact h e.1 e.2 (SortedMap.find?_eq_some_iff.2 he)

/-- Below one term, taking a leaf out removes it and nothing else. -/
theorem mem_keep_erase {m : SortedMap Term (SortedSet Term)} {s : SortedSet Term}
    {b c y z : Term} (hs : m.find? b = some s) :
    (∃ s', (m.keep (!·.isEmpty) b (s.erase c)).find? y = some s' ∧ z ∈ s') ↔
      (∃ s', m.find? y = some s' ∧ z ∈ s') ∧ ¬ (y = b ∧ z = c) := by
  simp only [SortedMap.find?_keep]
  by_cases hy : KeyOrder.cmp y b = .eq
  · have := KeyOrder.eq_of_cmp hy
    subst this
    by_cases he : (s.erase c).isEmpty = true
    · have hempty := SortedSet.isEmpty_iff.1 he z
      simp only [SortedSet.mem_erase, not_and, Classical.not_not] at hempty
      simpa [hy, he, hs] using hempty
    · simp [hy, he, hs]
  · have : y ≠ b := fun e => hy (e ▸ KeyOrder.cmp_self _)
    simp [hy, this]

/-- Taking out removes the three terms and nothing else. -/
theorem holds_erase {n : Permutation} {a b c x y z : Term} :
    (n.erase a b c).holds x y z = true ↔
      n.holds x y z = true ∧ ¬ (x = a ∧ y = b ∧ z = c) := by
  rw [holds_iff, holds_iff]
  unfold erase
  split
  · next hn =>
    refine (and_iff_left_of_imp ?_).symm
    rintro ⟨m, s, hm, -, -⟩ ⟨rfl, -, -⟩
    simp [hn] at hm
  · next m hm =>
    split
    · next hs =>
      refine (and_iff_left_of_imp ?_).symm
      rintro ⟨m', s, hm', hs', -⟩ ⟨rfl, rfl, -⟩
      rw [hm, Option.some.injEq] at hm'
      subst hm'
      simp [hs] at hs'
    · next s hs =>
      have hin := fun y z => mem_keep_erase (c := c) (y := y) (z := z) hs
      generalize m.keep (!·.isEmpty) b (s.erase c) = m' at hin ⊢
      simp only [SortedMap.find?_keep]
      by_cases hx : KeyOrder.cmp x a = .eq
      · have := KeyOrder.eq_of_cmp hx
        subst this
        by_cases he : m'.isEmpty = true
        · have hnone := not_congr (hin y z)
          simp only [not_exists, not_and, isEmpty_iff_map.1 he] at hnone
          simpa [hx, he, hm] using hnone
        · simpa [hx, he, hm] using hin y z
      · have : x ≠ a := fun e => hx (e ▸ KeyOrder.cmp_self _)
        simp [hx, this]

/-- A map that keeps values that count has no others, if it had no others before. -/
theorem counts_of_keep {β : Type} (counts : β → Bool) {m : SortedMap Term β} (k : Term) (b : β)
    (h : ∀ x v, m.find? x = some v → counts v = true) :
    ∀ x v, (m.keep counts k b).find? x = some v → counts v = true := by
  intro x v hv
  rw [SortedMap.find?_keep] at hv
  by_cases hx : KeyOrder.cmp x k = .eq
  · by_cases hb : counts b = true
    · simp only [hx, hb, if_true, Option.some.injEq] at hv
      exact hv ▸ hb
    · simp [hx, hb] at hv
  · exact h x v (by simpa [hx] using hv)

theorem Full.erase {n : Permutation} (h : n.Full) (a b c : Term) : (n.erase a b c).Full := by
  unfold Permutation.erase
  split
  · exact h
  · next m hm =>
    split
    · exact h
    · next s hs =>
      have hleaf := counts_of_keep (!·.isEmpty) b (s.erase c)
        fun y s' hs' => by simpa using h.leaf a m y s' hm hs'
      generalize m.keep (!·.isEmpty) b (s.erase c) = m' at hleaf ⊢
      refine ⟨?_, ?_⟩
      · intro x k hk
        simpa using counts_of_keep (!·.isEmpty) a m'
          (fun y k' hk' => by simpa using h.branch y k' hk') x k hk
      · intro x k y s' hk hs'
        rw [SortedMap.find?_keep] at hk
        by_cases hx : KeyOrder.cmp x a = .eq
        · by_cases he : m'.isEmpty = true
          · simp [hx, he] at hk
          · have e : m' = k := by simpa [hx, he] using hk
            subst e
            simpa using hleaf y s' hs'
        · exact h.leaf x k y s' (by simpa [hx] using hk) hs'

end Permutation

end RdfStore
