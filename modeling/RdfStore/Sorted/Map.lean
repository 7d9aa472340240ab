import RdfStore.Sorted.Set

/-!
# Finite maps in ascending order of their keys

A map is the list of its entries, with strictly ascending keys. `find?` is the view: two maps
that find the same are equal (`SortedMap.ext_find?`).
-/

namespace RdfStore

universe u v w

/-- Gives a key a value in a list of entries with ascending keys. -/
def putSorted {κ : Type u} {β : Type v} [KeyOrder κ] (k : κ) (b : β) :
    List (κ × β) → List (κ × β)
  | [] => [(k, b)]
  | e :: es =>
    match KeyOrder.cmp k e.1 with
    | .lt => (k, b) :: e :: es
    | .eq => (k, b) :: es
    | .gt => e :: putSorted k b es

/-- The value of a key in a list of entries. -/
def findSorted {κ : Type u} {β : Type v} [KeyOrder κ] (k : κ) : List (κ × β) → Option β
  | [] => none
  | e :: es => if KeyOrder.cmp k e.1 = .eq then some e.2 else findSorted k es

theorem mem_putSorted {κ : Type u} {β : Type v} [KeyOrder κ] {k : κ} {b : β} {x : κ}
    {l : List (κ × β)} : x ∈ (putSorted k b l).map Prod.fst ↔ x = k ∨ x ∈ l.map Prod.fst := by
  induction l with
  | nil => simp [putSorted]
  | cons e es ih =>
    unfold putSorted
    split
    · simp
    · next h =>
      have := KeyOrder.eq_of_cmp h
      simp [this]
    · simp only [List.map_cons, List.mem_cons, ih]
      constructor
      · rintro (h | h | h) <;> simp [h]
      · rintro (h | h | h) <;> simp [h]

theorem pairwise_putSorted {κ : Type u} {β : Type v} [KeyOrder κ] (k : κ) (b : β)
    {l : List (κ × β)} (h : (l.map Prod.fst).Pairwise KeyOrder.Lt) :
    ((putSorted k b l).map Prod.fst).Pairwise KeyOrder.Lt := by
  induction l with
  | nil => simp [putSorted]
  | cons e es ih =>
    rw [List.map_cons, List.pairwise_cons] at h
    unfold putSorted
    split
    · next hlt =>
      refine List.pairwise_cons.2 ⟨?_, List.pairwise_cons.2 h⟩
      intro c hc
      rcases List.mem_cons.1 hc with rfl | hc
      · exact hlt
      · exact KeyOrder.Lt.trans hlt (h.1 c hc)
    · next heq =>
      have := KeyOrder.eq_of_cmp heq
      subst this
      exact List.pairwise_cons.2 h
    · next hgt =>
      refine List.pairwise_cons.2 ⟨?_, ih h.2⟩
      intro c hc
      rcases mem_putSorted.1 hc with rfl | hc
      · exact KeyOrder.lt_of_gt hgt
      · exact h.1 c hc

theorem findSorted_putSorted {κ : Type u} {β : Type v} [KeyOrder κ] {k x : κ} {b : β}
    {l : List (κ × β)} :
    findSorted x (putSorted k b l) =
      if KeyOrder.cmp x k = .eq then some b else findSorted x l := by
  induction l with
  | nil => simp [putSorted, findSorted]
  | cons e es ih =>
    unfold putSorted
    split
    · rfl
    · next h =>
      have := KeyOrder.eq_of_cmp h
      subst this
      by_cases hx : KeyOrder.cmp x e.1 = .eq <;> simp [findSorted, hx]
    · next h =>
      simp only [findSorted, ih]
      by_cases hx : KeyOrder.cmp x e.1 = .eq
      · have := KeyOrder.eq_of_cmp hx
        subst this
        have hne : KeyOrder.cmp e.1 k ≠ .eq := fun he => by
          have := KeyOrder.eq_of_cmp he
          rw [← this, KeyOrder.cmp_self] at h
          simp at h
        simp [hx, hne]
      · simp [hx]

/-- A finite map whose keys are kept in strictly ascending order. -/
structure SortedMap (κ : Type u) (β : Type v) [KeyOrder κ] where
  entries : List (κ × β)
  ascending : (entries.map Prod.fst).Pairwise KeyOrder.Lt

namespace SortedMap

variable {κ : Type u} {β : Type v} [KeyOrder κ]

def empty : SortedMap κ β where
  entries := []
  ascending := KeyOrder.pairwise_nil

instance : EmptyCollection (SortedMap κ β) where
  emptyCollection := empty

instance : Inhabited (SortedMap κ β) where
  default := empty

def find? (m : SortedMap κ β) (k : κ) : Option β := findSorted k m.entries

def contains (m : SortedMap κ β) (k : κ) : Bool := (m.find? k).isSome

def insert (m : SortedMap κ β) (k : κ) (b : β) : SortedMap κ β where
  entries := putSorted k b m.entries
  ascending := pairwise_putSorted k b m.ascending

def filter (p : κ → β → Bool) (m : SortedMap κ β) : SortedMap κ β where
  entries := m.entries.filter fun e => p e.1 e.2
  ascending := m.ascending.sublist (List.filter_sublist.map Prod.fst)

def erase (m : SortedMap κ β) (k : κ) : SortedMap κ β :=
  m.filter fun x _ => KeyOrder.cmp k x ≠ .eq

/-- The map in which a key has a value that counts, or no value if it does not. -/
def keep (counts : β → Bool) (m : SortedMap κ β) (k : κ) (b : β) : SortedMap κ β :=
  if counts b then m.insert k b else m.erase k

/-- The map in which every value is replaced by what `f` makes of it. -/
def mapValues {γ : Type w} (f : β → γ) (m : SortedMap κ β) : SortedMap κ γ where
  entries := m.entries.map fun e => (e.1, f e.2)
  ascending := by
    rw [List.map_map]
    exact m.ascending

def keys (m : SortedMap κ β) : List κ := m.entries.map Prod.fst

def values (m : SortedMap κ β) : List β := m.entries.map Prod.snd

def size (m : SortedMap κ β) : Nat := m.entries.length

def isEmpty (m : SortedMap κ β) : Bool := m.entries.isEmpty

/-- The map of a list of entries; of two values for one key the later counts. -/
def ofList (l : List (κ × β)) : SortedMap κ β :=
  l.foldl (fun m e => m.insert e.1 e.2) empty

@[simp] theorem find?_empty {k : κ} : (empty : SortedMap κ β).find? k = none := rfl

theorem find?_insert {m : SortedMap κ β} {k x : κ} {b : β} :
    (m.insert k b).find? x = if KeyOrder.cmp x k = .eq then some b else m.find? x :=
  findSorted_putSorted

@[simp] theorem find?_insert_self {m : SortedMap κ β} {k : κ} {b : β} :
    (m.insert k b).find? k = some b := by
  simp [find?_insert, KeyOrder.cmp_self]

theorem findSorted_eq_some_iff {k : κ} {b : β} {l : List (κ × β)}
    (h : (l.map Prod.fst).Pairwise KeyOrder.Lt) :
    findSorted k l = some b ↔ (k, b) ∈ l := by
  induction l with
  | nil => simp [findSorted]
  | cons e es ih =>
    rw [List.map_cons, List.pairwise_cons] at h
    unfold findSorted
    split
    · next he =>
      have hk := KeyOrder.eq_of_cmp he
      subst hk
      rw [Option.some.injEq, List.mem_cons]
      constructor
      · rintro rfl
        exact .inl rfl
      · rintro (hb | hb)
        · exact (Prod.ext_iff.1 hb).2.symm
        · exact absurd (h.1 e.1 (List.mem_map.2 ⟨_, hb, rfl⟩)) (KeyOrder.Lt.irrefl _)
    · next he =>
      rw [ih h.2, List.mem_cons]
      constructor
      · exact .inr
      · rintro (hb | hb)
        · subst hb
          exact absurd (KeyOrder.cmp_self _) he
        · exact hb

theorem find?_eq_some_iff {m : SortedMap κ β} {k : κ} {b : β} :
    m.find? k = some b ↔ (k, b) ∈ m.entries :=
  findSorted_eq_some_iff m.ascending

theorem find?_filter {m : SortedMap κ β} {p : κ → β → Bool} {k : κ} :
    (m.filter p).find? k = (m.find? k).filter (p k) := by
  apply Option.ext
  intro b
  rw [Option.filter_eq_some_iff]
  rw [find?_eq_some_iff, find?_eq_some_iff]
  simp [filter, List.mem_filter]

theorem find?_erase {m : SortedMap κ β} {k x : κ} :
    (m.erase k).find? x = if KeyOrder.cmp k x = .eq then none else m.find? x := by
  rw [erase, find?_filter]
  by_cases h : KeyOrder.cmp k x = .eq
  · cases hm : m.find? x <;> simp [h, Option.filter]
  · cases hm : m.find? x <;> simp [h, Option.filter]

/-- Keys are found after an insertion where it put them, and else where they were. -/
theorem find?_insert_eq [DecidableEq κ] (m : SortedMap κ β) (k x : κ) (b : β) :
    (m.insert k b).find? x = if x = k then some b else m.find? x := by
  rw [find?_insert]
  by_cases h : x = k
  · rw [if_pos h, if_pos (h ▸ KeyOrder.cmp_self _)]
  · rw [if_neg h, if_neg fun he => h (KeyOrder.eq_of_cmp he)]

/-- Keys are found after an erasure where they were, but for the one erased. -/
theorem find?_erase_eq [DecidableEq κ] (m : SortedMap κ β) (k x : κ) :
    (m.erase k).find? x = if x = k then none else m.find? x := by
  rw [find?_erase]
  by_cases h : x = k
  · rw [if_pos h, if_pos (h ▸ KeyOrder.cmp_self _)]
  · rw [if_neg h, if_neg fun he => h (KeyOrder.eq_of_cmp he).symm]

theorem find?_keep {counts : β → Bool} {m : SortedMap κ β} {k x : κ} {b : β} :
    (m.keep counts k b).find? x =
      if KeyOrder.cmp x k = .eq then (if counts b then some b else none) else m.find? x := by
  unfold keep
  by_cases hx : KeyOrder.cmp x k = .eq
  · have := KeyOrder.eq_of_cmp hx
    subst this
    by_cases h : counts b <;> simp [h, find?_erase, KeyOrder.cmp_self]
  · have hx' : ¬ KeyOrder.cmp k x = .eq := fun e =>
      hx (KeyOrder.eq_of_cmp e ▸ KeyOrder.cmp_self _)
    by_cases h : counts b <;> simp [h, hx, hx', find?_erase, find?_insert]

theorem find?_mapValues {γ : Type w} {f : β → γ} {m : SortedMap κ β} {k : κ} :
    (m.mapValues f).find? k = (m.find? k).map f := by
  apply Option.ext
  intro c
  rw [Option.map_eq_some_iff, find?_eq_some_iff]
  simp only [find?_eq_some_iff, mapValues, List.mem_map, Prod.mk.injEq]
  constructor
  · rintro ⟨e, he, rfl, rfl⟩
    exact ⟨e.2, he, rfl⟩
  · rintro ⟨b, hb, rfl⟩
    exact ⟨(k, b), hb, rfl, rfl⟩

theorem find?_eq_none_iff {m : SortedMap κ β} {k : κ} : m.find? k = none ↔ k ∉ m.keys := by
  constructor
  · intro h hk
    obtain ⟨⟨x, b⟩, hb, rfl⟩ := List.mem_map.1 hk
    rw [find?_eq_some_iff.2 hb] at h
    simp at h
  · intro h
    cases hm : m.find? k with
    | none => rfl
    | some b => exact absurd (List.mem_map.2 ⟨_, find?_eq_some_iff.1 hm, rfl⟩) h

/-- Entry lists with ascending keys and the same entries are the same list. -/
theorem eq_of_ascending {l m : List (κ × β)} (hl : (l.map Prod.fst).Pairwise KeyOrder.Lt)
    (hm : (m.map Prod.fst).Pairwise KeyOrder.Lt) (h : ∀ e, e ∈ l ↔ e ∈ m) : l = m := by
  induction l generalizing m with
  | nil =>
    cases m with
    | nil => rfl
    | cons b bs => simpa using (h b).2 (by simp)
  | cons a as ih =>
    cases m with
    | nil => simpa using (h a).1 (by simp)
    | cons b bs =>
      rw [List.map_cons, List.pairwise_cons] at hl hm
      have fst_lt {x : κ × β} {y : κ × β} {ys : List (κ × β)}
          (hy : ∀ k ∈ ys.map Prod.fst, KeyOrder.Lt y.1 k) (hx : x ∈ ys) : KeyOrder.Lt y.1 x.1 :=
        hy x.1 (List.mem_map.2 ⟨x, hx, rfl⟩)
      have hab : a = b := by
        rcases List.mem_cons.1 ((h a).1 (by simp)) with e | ha
        · exact e
        · rcases List.mem_cons.1 ((h b).2 (by simp)) with e | hb
          · exact e.symm
          · exact absurd (fst_lt hl.1 hb) (KeyOrder.Lt.asymm (fst_lt hm.1 ha))
      subst hab
      have htail : as = bs := by
        refine ih hl.2 hm.2 fun x => ?_
        constructor
        · intro hx
          rcases List.mem_cons.1 ((h x).1 (List.mem_cons_of_mem _ hx)) with e | hx'
          · subst e
            exact absurd (fst_lt hl.1 hx) (KeyOrder.Lt.irrefl _)
          · exact hx'
        · intro hx
          rcases List.mem_cons.1 ((h x).2 (List.mem_cons_of_mem _ hx)) with e | hx'
          · subst e
            exact absurd (fst_lt hm.1 hx) (KeyOrder.Lt.irrefl _)
          · exact hx'
      rw [htail]

/-- A map is determined by what it finds. -/
theorem ext_find? {m n : SortedMap κ β} (h : ∀ k, m.find? k = n.find? k) : m = n := by
  have he : m.entries = n.entries := by
    refine eq_of_ascending m.ascending n.ascending fun e => ?_
    rw [show e = (e.1, e.2) from rfl, ← find?_eq_some_iff, ← find?_eq_some_iff, h]
  cases m with
  | mk l hl =>
    cases n with
    | mk l' hl' =>
      subst he
      rfl

theorem nodup_keys (m : SortedMap κ β) : m.keys.Nodup :=
  m.ascending.imp fun h => h.ne

/-- Entries with different keys are all found after they have been put in, one after the other. -/
theorem find?_foldl_insert {l : List (κ × β)} (hl : (l.map Prod.fst).Nodup) {m : SortedMap κ β}
    {k : κ} {b : β} : (l.foldl (fun m e => m.insert e.1 e.2) m).find? k = some b ↔
      (k, b) ∈ l ∨ k ∉ l.map Prod.fst ∧ m.find? k = some b := by
  classical
  induction l generalizing m with
  | nil => simp
  | cons e l ih =>
    obtain ⟨x, c⟩ := e
    rw [List.map_cons, List.nodup_cons] at hl
    obtain ⟨hx, hl⟩ := hl
    rw [List.foldl_cons, ih hl, find?_insert_eq]
    by_cases hk : k = x
    · subst hk
      have hnone : (k, b) ∉ l := fun hmem => hx (List.mem_map.2 ⟨_, hmem, rfl⟩)
      simp [hx, hnone, eq_comm]
    · simp [hk]

theorem find?_ofList {l : List (κ × β)} (hl : (l.map Prod.fst).Nodup) {k : κ} {b : β} :
    (ofList l).find? k = some b ↔ (k, b) ∈ l := by
  unfold ofList
  rw [find?_foldl_insert hl]
  simp

/-- A map is made of its entries. -/
theorem ofList_entries (m : SortedMap κ β) : ofList m.entries = m := by
  refine ext_find? fun k => Option.ext fun b => ?_
  rw [find?_ofList m.nodup_keys]
  exact find?_eq_some_iff.symm

/-- What is put into a map is replaced like what was there. -/
theorem mapValues_insert {γ : Type w} {f : β → γ} {m : SortedMap κ β} {k : κ} {b : β} :
    (m.insert k b).mapValues f = (m.mapValues f).insert k (f b) := by
  refine ext_find? fun x => ?_
  rw [find?_mapValues, find?_insert, find?_insert, find?_mapValues]
  split
  · rfl
  · rfl

end SortedMap

end RdfStore
