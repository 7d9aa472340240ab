import RdfStore.Proofs.Graph.History
import RdfStore.Proofs.Term.Coding

/-!
# One line of terms, and formulas as sets

Terms stand in one line, and so do triples (`IsLinear`); formulas stand to each other as the
dictionary has it. The formula of a graph depends only on which triples the graph has been given.
The same goes for formulas inside formulas: two terms that are built by entering triples, in
whatever order and however often, come out equal if and only if they say the same
(`Term.built_inj`).
-/

namespace RdfStore

/-- A comparison that puts all values into one line. -/
structure IsLinear {α : Type} (cmp : α → α → Ordering) : Prop where
  total (a b : α) : (cmp a b).isLE = true ∨ (cmp b a).isLE = true
  trans {a b c : α} : (cmp a b).isLE = true → (cmp b c).isLE = true → (cmp a c).isLE = true
  antisymm {a b : α} : (cmp a b).isLE = true → (cmp b a).isLE = true → a = b
  swap (a b : α) : cmp b a = (cmp a b).swap
  eq_iff (a b : α) : cmp a b = .eq ↔ a = b

theorem KeyOrder.isLinear {α : Type} [KeyOrder α] : IsLinear (KeyOrder.cmp : α → α → Ordering) where
  swap _ _ := trans.eq_swap
  trans := trans.isLE_trans
  eq_iff a b := by
    constructor
    · exact eq_of_cmp
    · rintro rfl
      exact cmp_self a
  total a b := by
    rw [trans.eq_swap (a := b)]
    cases cmp a b with
    | gt => exact .inr rfl
    | _ => exact .inl rfl
  antisymm {a b} h k := by
    rw [trans.eq_swap] at k
    rcases isLE_cases h with e | e
    · rw [e] at k
      cases k
    · exact eq_of_cmp e

namespace SortedSet

variable {α : Type} [KeyOrder α]

/-- A list makes a set that holds each of its members once. -/
theorem count_ofList [DecidableEq α] (l : List α) (a : α) :
    (ofList l).toList.count a = if a ∈ l then 1 else 0 := by
  rw [(nodup_toList _).count]
  exact if_congr mem_ofList rfl rfl

end SortedSet

namespace Term

variable {ts us : List Triple}

/-- Lists of triples stand to each other as the dictionary has it. -/
theorem cmpAll_eq_lt_iff :
    cmpAll ts us = .lt ↔ List.Lex (fun t u => cmpTriple t u = .lt) ts us := by
  induction ts generalizing us with
  | nil =>
    cases us with
    | nil => simp only [cmpAll, List.not_lex_nil, reduceCtorEq]
    | cons u us => exact iff_of_true (by simp only [cmpAll]) .nil
  | cons t ts ih =>
    cases us with
    | nil => simp only [cmpAll, List.not_lex_nil, reduceCtorEq]
    | cons u us =>
      simp only [cmpAll]
      rw [Ordering.then_eq_lt, List.cons_lex_cons_iff, ih]
      exact or_congr_right (and_congr_left' (KeyOrder.isLinear.eq_iff (α := Triple) t u))

theorem ofTriples_inj {s s' : TripleSet} : ofTriples s = ofTriples s' ↔ ∀ t, t ∈ s ↔ t ∈ s' := by
  constructor
  · intro h t
    rw [SortedSet.mem_def, SortedSet.mem_def, formula.inj h]
  · exact fun h => congrArg ofTriples (SortedSet.ext_mem h)

/-! ## Formulas inside formulas -/

/-- The term as it is built, from the inside out: each formula is a set into which its triples are
entered one after another. Renaming builds a term so; here every name stays. -/
def built (a : Term) : Term := a.rename (Equiv.refl Blank)

mutual
/-- The two terms say the same: formulas do if each triple of one has its like in the other. -/
def Same : Term → Term → Prop
  | .iri i, b => b = .iri i
  | .blank i, b => b = .blank i
  | .literal l, b => b = .literal l
  | .var v, b => b = .var v
  | .formula ts, .formula us => EachIn ts us ∧ ∀ u ∈ us, OneIs ts u
  | .formula _, _ => False
/-- Each triple of the first list has its like in the second. -/
def EachIn : List (Statement Term) → List (Statement Term) → Prop
  | [], _ => True
  | ⟨s, p, o⟩ :: ts, us =>
    (∃ u ∈ us, s.Same u.subject ∧ p.Same u.predicate ∧ o.Same u.object) ∧ EachIn ts us
/-- The list has a triple like the given one. -/
def OneIs : List (Statement Term) → Statement Term → Prop
  | [], _ => False
  | ⟨s, p, o⟩ :: ts, u =>
    (s.Same u.subject ∧ p.Same u.predicate ∧ o.Same u.object) ∨ OneIs ts u
end

end Term

namespace Statement

def built (t : Triple) : Triple := t.map Term.built

/-- The two triples say the same in each position. -/
def Same (t u : Triple) : Prop :=
  t.subject.Same u.subject ∧ t.predicate.Same u.predicate ∧ t.object.Same u.object

end Statement

namespace Term

variable {a b : Term} {t : Triple} {ts us : List Triple}

theorem built_formula : (formula ts).built = ofTriples (.ofList (ts.map Statement.built)) := by
  unfold built rename
  rw [renameAll_eq]
  rfl

theorem built_of_ne_formula (h : ∀ ts, a ≠ formula ts) : a.built = a := by
  cases a with
  | formula ts => exact absurd rfl (h ts)
  | _ => simp only [built, rename, Equiv.refl_apply]

theorem eachIn_iff : EachIn ts us ↔ ∀ t ∈ ts, ∃ u ∈ us, t.Same u := by
  induction ts with
  | nil => exact iff_of_true (by unfold EachIn; trivial) fun _ h => absurd h List.not_mem_nil
  | cons t ts ih =>
    unfold EachIn
    rw [ih, List.forall_mem_cons]
    rfl

theorem oneIs_iff {u : Triple} : OneIs ts u ↔ ∃ t ∈ ts, t.Same u := by
  induction ts with
  | nil => simp only [OneIs, List.not_mem_nil, false_and, exists_false]
  | cons t ts ih =>
    unfold OneIs
    rw [ih, List.exists_mem_cons_iff]
    rfl

theorem same_formula :
    (formula ts).Same (formula us) ↔
      (∀ t ∈ ts, ∃ u ∈ us, t.Same u) ∧ ∀ u ∈ us, ∃ t ∈ ts, t.Same u := by
  unfold Same
  simp only [eachIn_iff, oneIs_iff]

theorem same_of_ne_formula (h : ∀ ts, a ≠ formula ts) : a.Same b ↔ b = a := by
  cases a with
  | formula ts => exact absurd rfl (h ts)
  | _ => simp only [Same]

theorem built_eq_of_ne_formula (h : ∀ ts, a ≠ formula ts) : a.built = b.built ↔ a.Same b := by
  rw [built_of_ne_formula h, same_of_ne_formula h]
  by_cases hb : ∀ us, b ≠ formula us
  · rw [built_of_ne_formula hb]
    exact eq_comm
  · push Not at hb
    obtain ⟨us, rfl⟩ := hb
    rw [built_formula]
    exact iff_of_false (h _) fun e => h us e.symm

theorem triple_built_eq_iff (ht : ∀ w ∈ t.toList, ∀ b, w.built = b.built ↔ w.Same b) (u : Triple) :
    t.built = u.built ↔ t.Same u := by
  obtain ⟨hs, hp, ho⟩ := Statement.forall_mem_toList.1 ht
  show Statement.mk _ _ _ = Statement.mk _ _ _ ↔ _
  rw [Statement.mk.injEq, hs, hp, ho]
  rfl

theorem built_formula_inj (hts : ∀ t ∈ ts, ∀ u, t.built = u.built ↔ t.Same u) :
    (formula ts).built = (formula us).built ↔ (formula ts).Same (formula us) := by
  rw [built_formula, built_formula, same_formula, ofTriples_inj]
  simp only [SortedSet.mem_ofList, List.mem_map]
  constructor
  · intro h
    constructor
    · intro t ht
      obtain ⟨u, hu, e⟩ := (h t.built).1 ⟨t, ht, rfl⟩
      exact ⟨u, hu, (hts t ht u).1 e.symm⟩
    · intro u hu
      obtain ⟨t, ht, e⟩ := (h u.built).2 ⟨u, hu, rfl⟩
      exact ⟨t, ht, (hts t ht u).1 e⟩
  · rintro ⟨hsub, hsup⟩ x
    constructor
    · rintro ⟨t, ht, rfl⟩
      obtain ⟨u, hu, hsame⟩ := hsub t ht
      exact ⟨u, hu, ((hts t ht u).2 hsame).symm⟩
    · rintro ⟨u, hu, rfl⟩
      obtain ⟨t, ht, hsame⟩ := hsup u hu
      exact ⟨t, ht, (hts t ht u).2 hsame⟩

/-- Terms come out equal, in whatever order their formulas are filled, if and only if they say the
same. -/
theorem built_inj (a b : Term) : a.built = b.built ↔ a.Same b := by
  induction a using inductionOnTriples generalizing b with
  | formula ts ih =>
    cases b with
    | formula us => exact built_formula_inj fun t ht => triple_built_eq_iff (ih t ht)
    | _ =>
      refine iff_of_false ?_ (by simp only [Same, not_false_eq_true])
      rw [built_formula, built_of_ne_formula (by simp)]
      simp only [ofTriples, reduceCtorEq, not_false_eq_true]
  | _ => exact built_eq_of_ne_formula (by simp)

/-- Building changes no term whose formulas are in order. -/
theorem built_eq_self : a.InOrder → a.built = a := by
  induction a using inductionOnTriples with
  | formula ts ih =>
    intro h
    unfold InOrder at h
    obtain ⟨hascending, hall⟩ := h
    have hts (t : Triple) (ht : t ∈ ts) : t.built = t := by
      obtain ⟨hs, hp, ho⟩ := Statement.forall_mem_toList.1 (ih t ht)
      obtain ⟨ks, kp, ko⟩ := allInOrder_iff.1 hall t ht
      show Statement.mk _ _ _ = _
      rw [hs ks, hp kp, ho ko]
    rw [built_formula, List.map_congr_left hts, List.map_id', ofTriples, toList_ofList hascending]
  | _ => exact fun _ => built_of_ne_formula (by simp)

theorem same_iff_eq (ha : a.InOrder) (hb : b.InOrder) : a.Same b ↔ a = b := by
  rw [← built_inj, built_eq_self ha, built_eq_self hb]

/-- Terms stand in one line, and so do triples. Formulas stand to each other as the dictionary has
it, triple by triple. A set holds each triple once, a formula is known by which triples it holds,
and a graph by which triples it has been given. Where formulas hold formulas, terms that are built
triple by triple come out equal if and only if they say the same. -/
theorem order_lawful :
    IsLinear cmp ∧ IsLinear cmpTriple ∧
    (∀ s s' : TripleSet, cmp (ofTriples s) (ofTriples s') = .lt ↔
      List.Lex (fun t u => cmpTriple t u = .lt) s.toList s'.toList) ∧
    (∀ (ts : List Triple) (t : Triple),
      (SortedSet.ofList ts).toList.count t = if t ∈ ts then 1 else 0) ∧
    (∀ s s' : TripleSet, ofTriples s = ofTriples s' ↔ ∀ t, t ∈ s ↔ t ∈ s') ∧
    (∀ (n n' : GraphName) (ts us : List Triple),
      (Graph.ofTriples n ts).formula = (Graph.ofTriples n' us).formula ↔ ∀ t, t ∈ ts ↔ t ∈ us) ∧
    ∀ a b : Term, a.built = b.built ↔ a.Same b := by
  refine ⟨KeyOrder.isLinear, KeyOrder.isLinear, ?lex, SortedSet.count_ofList,
    fun s s' => ofTriples_inj, ?graph, built_inj⟩
  case lex =>
    intro s s'
    unfold ofTriples cmp
    exact cmpAll_eq_lt_iff
  case graph =>
    intro n n' ts us
    unfold Graph.formula
    rw [ofTriples_inj]
    simp only [Graph.mem_ofTriples]

end Term

end RdfStore
