import RdfStore.Sorted.Order

/-!
# Finite sets in ascending order

A set of keys is the list of its members in strictly ascending order. The order is a field of
the type, so two sets with the same members are equal (`SortedSet.ext_mem`).
-/

namespace RdfStore

universe u v

/-- Puts a key into its place in an ascending list; a key that is there already stays once. -/
def insertSorted {α : Type u} [KeyOrder α] (a : α) : List α → List α
  | [] => [a]
  | b :: bs =>
    match KeyOrder.cmp a b with
    | .lt => a :: b :: bs
    | .eq => b :: bs
    | .gt => b :: insertSorted a bs

theorem mem_insertSorted {α : Type u} [KeyOrder α] {a x : α} {l : List α} :
    x ∈ insertSorted a l ↔ x = a ∨ x ∈ l := by
  induction l with
  | nil => simp [insertSorted]
  | cons b bs ih =>
    unfold insertSorted
    split
    · simp
    · next h =>
      have := KeyOrder.eq_of_cmp h
      subst this
      simp
    · simp only [List.mem_cons, ih]
      constructor
      · rintro (h | h | h) <;> simp [h]
      · rintro (h | h | h) <;> simp [h]

theorem pairwise_insertSorted {α : Type u} [KeyOrder α] (a : α) {l : List α}
    (h : l.Pairwise KeyOrder.Lt) : (insertSorted a l).Pairwise KeyOrder.Lt := by
  induction l with
  | nil => simp [insertSorted]
  | cons b bs ih =>
    rw [List.pairwise_cons] at h
    unfold insertSorted
    split
    · next hlt =>
      refine List.pairwise_cons.2 ⟨?_, List.pairwise_cons.2 h⟩
      intro c hc
      rcases List.mem_cons.1 hc with rfl | hc
      · exact hlt
      · exact KeyOrder.Lt.trans hlt (h.1 c hc)
    · exact List.pairwise_cons.2 h
    · next hgt =>
      refine List.pairwise_cons.2 ⟨?_, ih h.2⟩
      intro c hc
      rcases mem_insertSorted.1 hc with rfl | hc
      · exact KeyOrder.lt_of_gt hgt
      · exact h.1 c hc

/-- A finite set of keys, kept in strictly ascending order. -/
structure SortedSet (α : Type u) [KeyOrder α] where
  toList : List α
  ascending : toList.Pairwise KeyOrder.Lt

namespace SortedSet

variable {α : Type u} [KeyOrder α]

instance : Membership α (SortedSet α) where
  mem s a := a ∈ s.toList

theorem mem_def {a : α} {s : SortedSet α} : a ∈ s ↔ a ∈ s.toList := Iff.rfl

def empty : SortedSet α where
  toList := []
  ascending := KeyOrder.pairwise_nil

instance : EmptyCollection (SortedSet α) where
  emptyCollection := empty

def insert (a : α) (s : SortedSet α) : SortedSet α where
  toList := insertSorted a s.toList
  ascending := pairwise_insertSorted a s.ascending

def contains (s : SortedSet α) (a : α) : Bool :=
  s.toList.any fun b => KeyOrder.cmp a b = .eq

def filter (p : α → Bool) (s : SortedSet α) : SortedSet α where
  toList := s.toList.filter p
  ascending := s.ascending.filter p

def erase (a : α) (s : SortedSet α) : SortedSet α :=
  s.filter fun b => KeyOrder.cmp a b ≠ .eq

def size (s : SortedSet α) : Nat := s.toList.length

def isEmpty (s : SortedSet α) : Bool := s.toList.isEmpty

def insertMany (s : SortedSet α) (l : List α) : SortedSet α :=
  l.foldl (fun s a => s.insert a) s

def ofList (l : List α) : SortedSet α := empty.insertMany l

theorem contains_iff {s : SortedSet α} {a : α} : s.contains a = true ↔ a ∈ s := by
  simp only [contains, List.any_eq_true, decide_eq_true_eq, mem_def]
  constructor
  · rintro ⟨b, hb, h⟩
    exact KeyOrder.eq_of_cmp h ▸ hb
  · exact fun h => ⟨a, h, KeyOrder.cmp_self a⟩

theorem isEmpty_iff {s : SortedSet α} : s.isEmpty = true ↔ ∀ a, ¬ a ∈ s := by
  unfold isEmpty
  rw [List.isEmpty_iff]
  exact List.eq_nil_iff_forall_not_mem

@[simp] theorem not_mem_empty {a : α} : ¬ a ∈ (empty : SortedSet α) := by
  simp [mem_def, empty]

@[simp] theorem mem_insert {s : SortedSet α} {a x : α} :
    x ∈ s.insert a ↔ x = a ∨ x ∈ s :=
  mem_insertSorted

@[simp] theorem mem_filter {s : SortedSet α} {p : α → Bool} {x : α} :
    x ∈ s.filter p ↔ x ∈ s ∧ p x = true :=
  List.mem_filter

@[simp] theorem mem_erase {s : SortedSet α} {a x : α} :
    x ∈ s.erase a ↔ x ∈ s ∧ x ≠ a := by
  simp only [erase, mem_filter, decide_eq_true_eq, and_congr_right_iff]
  intro _
  constructor
  · intro h e
    exact h (e ▸ KeyOrder.cmp_self _)
  · exact fun h e => h (KeyOrder.eq_of_cmp e).symm

@[simp] theorem mem_insertMany {s : SortedSet α} {l : List α} {x : α} :
    x ∈ s.insertMany l ↔ x ∈ l ∨ x ∈ s := by
  induction l generalizing s with
  | nil => simp [insertMany]
  | cons b bs ih =>
    have : s.insertMany (b :: bs) = (s.insert b).insertMany bs := rfl
    rw [this, ih, mem_insert, List.mem_cons]
    constructor
    · rintro (h | h | h) <;> simp [h]
    · rintro ((h | h) | h) <;> simp [h]

@[simp] theorem mem_ofList {l : List α} {x : α} : x ∈ ofList l ↔ x ∈ l := by
  simp [ofList]

/-- Ascending lists with the same members are the same list. -/
theorem eq_of_ascending {l m : List α} (hl : l.Pairwise KeyOrder.Lt)
    (hm : m.Pairwise KeyOrder.Lt) (h : ∀ x, x ∈ l ↔ x ∈ m) : l = m := by
  induction l generalizing m with
  | nil =>
    cases m with
    | nil => rfl
    | cons b bs => simpa using (h b).2 (by simp)
  | cons a as ih =>
    cases m with
    | nil => simpa using (h a).1 (by simp)
    | cons b bs =>
      rw [List.pairwise_cons] at hl hm
      have hab : a = b := by
        rcases List.mem_cons.1 ((h a).1 (by simp)) with e | ha
        · exact e
        · rcases List.mem_cons.1 ((h b).2 (by simp)) with e | hb
          · exact e.symm
          · exact absurd (hl.1 b hb) (KeyOrder.Lt.asymm (hm.1 a ha))
      subst hab
      have htail : as = bs := by
        refine ih hl.2 hm.2 fun x => ?_
        constructor
        · intro hx
          rcases List.mem_cons.1 ((h x).1 (List.mem_cons_of_mem _ hx)) with e | hx'
          · exact absurd e (hl.1 x hx).ne.symm
          · exact hx'
        · intro hx
          rcases List.mem_cons.1 ((h x).2 (List.mem_cons_of_mem _ hx)) with e | hx'
          · exact absurd e (hm.1 x hx).ne.symm
          · exact hx'
      rw [htail]

/-- A set is determined by its members. -/
theorem ext_mem {s t : SortedSet α} (h : ∀ x, x ∈ s ↔ x ∈ t) : s = t := by
  cases s with
  | mk l hl =>
    cases t with
    | mk m hm =>
      have : l = m := eq_of_ascending hl hm h
      subst this
      rfl

theorem nodup_toList (s : SortedSet α) : s.toList.Nodup :=
  s.ascending.imp fun h => h.ne

end SortedSet

end RdfStore
