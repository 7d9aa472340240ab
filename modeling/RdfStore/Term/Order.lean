import RdfStore.Term.Basic
import RdfStore.Sorted.Set

/-!
# The order of terms and triples

IRIs come before blank nodes, these before literals, variables and formulas. Within a kind the
contents decide; formulas are compared triple by triple. The main statements are the instances
of `KeyOrder` for terms and triples: the comparison is a total order and equality is decidable
by it, at every depth of nesting.
-/

namespace RdfStore

instance : KeyOrder Iri :=
  KeyOrder.lift Iri.text fun a b h => by cases a; cases b; simp_all

instance : KeyOrder Blank :=
  KeyOrder.lift Blank.id fun a b h => by cases a; cases b; simp_all

instance : KeyOrder Variable :=
  KeyOrder.lift Variable.name fun a b h => by cases a; cases b; simp_all

/-- The place of a kind of literal among all kinds: its rank and its text. -/
def LiteralKind.key : LiteralKind → Nat × String
  | .simple => (0, "")
  | .typed d => (1, d.text)
  | .tagged g => (2, g)

instance : KeyOrder LiteralKind :=
  KeyOrder.lift LiteralKind.key fun a b h => by
    cases a with
    | simple => cases b <;> simp_all [LiteralKind.key]
    | typed d =>
      cases b with
      | typed d' => cases d; cases d'; simp_all [LiteralKind.key]
      | _ => simp_all [LiteralKind.key]
    | tagged g => cases b <;> simp_all [LiteralKind.key]

instance : KeyOrder Literal :=
  KeyOrder.lift (fun l => (l.value, l.kind)) fun a b h => by cases a; cases b; simp_all

def Term.rank : Term → Nat
  | .iri _ => 0
  | .blank _ => 1
  | .literal _ => 2
  | .var _ => 3
  | .formula _ => 4

mutual
def Term.cmp : Term → Term → Ordering
  | .iri a, .iri b => KeyOrder.cmp a b
  | .blank a, .blank b => KeyOrder.cmp a b
  | .literal a, .literal b => KeyOrder.cmp a b
  | .var a, .var b => KeyOrder.cmp a b
  | .formula ts, .formula us => Term.cmpAll ts us
  | a, b => KeyOrder.cmp a.rank b.rank
/-- How two triples stand to each other: by subject, then predicate, then object. -/
def Term.cmpTriple : Statement Term → Statement Term → Ordering
  | ⟨s, p, o⟩, ⟨s', p', o'⟩ => (Term.cmp s s').then ((Term.cmp p p').then (Term.cmp o o'))
/-- How two lists of triples stand to each other: by the first difference. -/
def Term.cmpAll : List (Statement Term) → List (Statement Term) → Ordering
  | [], [] => .eq
  | [], _ :: _ => .lt
  | _ :: _, [] => .gt
  | t :: ts, u :: us => (Term.cmpTriple t u).then (Term.cmpAll ts us)
end

theorem swap_then {o p : Ordering} : (o.then p).swap = o.swap.then p.swap := by
  cases o <;> rfl

mutual
theorem Term.cmp_swap (a b : Term) : Term.cmp a b = (Term.cmp b a).swap := by
  cases a with
  | formula ts =>
    cases b with
    | formula us => simpa only [Term.cmp] using Term.cmpAll_swap ts us
    | _ => simp only [Term.cmp]; exact KeyOrder.trans.eq_swap
  | _ => cases b <;> simp only [Term.cmp] <;> exact KeyOrder.trans.eq_swap
theorem Term.cmpTriple_swap (t u : Statement Term) :
    Term.cmpTriple t u = (Term.cmpTriple u t).swap := by
  cases t with
  | mk s p o =>
    cases u with
    | mk s' p' o' =>
      simp only [Term.cmpTriple, swap_then]
      rw [Term.cmp_swap s s', Term.cmp_swap p p', Term.cmp_swap o o']
theorem Term.cmpAll_swap (ts us : List (Statement Term)) :
    Term.cmpAll ts us = (Term.cmpAll us ts).swap := by
  cases ts with
  | nil => cases us <;> simp [Term.cmpAll]
  | cons t ts =>
    cases us with
    | nil => simp [Term.cmpAll]
    | cons u us =>
      simp only [Term.cmpAll, swap_then]
      rw [Term.cmpTriple_swap t u, Term.cmpAll_swap ts us]
end

mutual
theorem Term.cmp_self (a : Term) : Term.cmp a a = .eq := by
  cases a with
  | formula ts => simpa only [Term.cmp] using Term.cmpAll_self ts
  | _ => simp only [Term.cmp]; exact KeyOrder.cmp_self _
theorem Term.cmpTriple_self (t : Statement Term) : Term.cmpTriple t t = .eq := by
  cases t with
  | mk s p o =>
    simp only [Term.cmpTriple]
    rw [Term.cmp_self s, Term.cmp_self p, Term.cmp_self o]
    rfl
theorem Term.cmpAll_self (ts : List (Statement Term)) : Term.cmpAll ts ts = .eq := by
  cases ts with
  | nil => simp [Term.cmpAll]
  | cons t ts =>
    simp only [Term.cmpAll]
    rw [Term.cmpTriple_self t, Term.cmpAll_self ts]
    rfl
end

mutual
theorem Term.eq_of_cmp (a b : Term) (h : Term.cmp a b = .eq) : a = b := by
  cases a with
  | iri i =>
    cases b with
    | iri j => rw [KeyOrder.eq_of_cmp (a := i) (b := j) (by simpa only [Term.cmp] using h)]
    | _ => simp only [Term.cmp] at h; exact absurd (KeyOrder.eq_of_cmp h) (by simp [Term.rank])
  | blank i =>
    cases b with
    | blank j => rw [KeyOrder.eq_of_cmp (a := i) (b := j) (by simpa only [Term.cmp] using h)]
    | _ => simp only [Term.cmp] at h; exact absurd (KeyOrder.eq_of_cmp h) (by simp [Term.rank])
  | literal i =>
    cases b with
    | literal j => rw [KeyOrder.eq_of_cmp (a := i) (b := j) (by simpa only [Term.cmp] using h)]
    | _ => simp only [Term.cmp] at h; exact absurd (KeyOrder.eq_of_cmp h) (by simp [Term.rank])
  | var i =>
    cases b with
    | var j => rw [KeyOrder.eq_of_cmp (a := i) (b := j) (by simpa only [Term.cmp] using h)]
    | _ => simp only [Term.cmp] at h; exact absurd (KeyOrder.eq_of_cmp h) (by simp [Term.rank])
  | formula ts =>
    cases b with
    | formula us => rw [Term.eq_of_cmpAll ts us (by simpa only [Term.cmp] using h)]
    | _ => simp only [Term.cmp] at h; exact absurd (KeyOrder.eq_of_cmp h) (by simp [Term.rank])
theorem Term.eq_of_cmpTriple (t u : Statement Term) (h : Term.cmpTriple t u = .eq) : t = u := by
  cases t with
  | mk s p o =>
    cases u with
    | mk s' p' o' =>
      simp only [Term.cmpTriple, Ordering.then_eq_eq] at h
      rw [Term.eq_of_cmp s s' h.1, Term.eq_of_cmp p p' h.2.1, Term.eq_of_cmp o o' h.2.2]
theorem Term.eq_of_cmpAll (ts us : List (Statement Term)) (h : Term.cmpAll ts us = .eq) :
    ts = us := by
  cases ts with
  | nil => cases us <;> simp_all [Term.cmpAll]
  | cons t ts =>
    cases us with
    | nil => simp [Term.cmpAll] at h
    | cons u us =>
      simp only [Term.cmpAll, Ordering.then_eq_eq] at h
      rw [Term.eq_of_cmpTriple t u h.1, Term.eq_of_cmpAll ts us h.2]
end

/-- A comparison that is less or equal, is one of the two. -/
theorem isLE_cases {o : Ordering} (h : o.isLE = true) : o = .lt ∨ o = .eq := by
  cases o <;> simp_all

/-- Transitivity of "at most" at one place, in the form in which it passes to the next place:
strictly less, or equal twice. -/
theorem lt_or_eq_of_isLE {α : Type} {cmp : α → α → Ordering} {a b c : α}
    (eq_of : ∀ x y, cmp x y = .eq → x = y) (swap : ∀ x y, cmp x y = (cmp y x).swap)
    (le : (cmp a b).isLE = true → (cmp b c).isLE = true → (cmp a c).isLE = true)
    (h : (cmp a b).isLE = true) (k : (cmp b c).isLE = true) :
    cmp a c = .lt ∨ (cmp a b = .eq ∧ cmp b c = .eq ∧ cmp a c = .eq) := by
  rcases isLE_cases (le h k) with e | e
  · exact .inl e
  · have hac := eq_of a c e
    subst hac
    rcases isLE_cases h with h' | h'
    · rw [swap b a, h'] at k
      simp at k
    · have := eq_of a b h'
      subst this
      exact .inr ⟨h', h', h'⟩

/-- Terms of different kinds stand to each other as their kinds do. -/
theorem Term.cmp_of_rank_ne {a b : Term} (h : a.rank ≠ b.rank) :
    Term.cmp a b = KeyOrder.cmp a.rank b.rank := by
  cases a <;> cases b <;> first | rfl | exact absurd rfl h

theorem Term.rank_le_of_isLE {a b : Term} (h : (Term.cmp a b).isLE = true) :
    (KeyOrder.cmp a.rank b.rank).isLE = true := by
  by_cases e : a.rank = b.rank
  · rw [e, KeyOrder.cmp_self]
    rfl
  · rwa [← Term.cmp_of_rank_ne e]

theorem Term.cmp_isLE_of_rank {a b : Term} (h : (KeyOrder.cmp a.rank b.rank).isLE = true)
    (e : a.rank ≠ b.rank) : (Term.cmp a b).isLE = true := by
  rwa [Term.cmp_of_rank_ne e]

mutual
theorem Term.cmp_isLE_trans (a b c : Term) (h : (Term.cmp a b).isLE = true)
    (k : (Term.cmp b c).isLE = true) : (Term.cmp a c).isLE = true := by
  by_cases e : a.rank = c.rank
  · have hr := Term.rank_le_of_isLE h
    have kr := Term.rank_le_of_isLE k
    rw [← e, (KeyOrder.trans (α := Nat)).eq_swap] at kr
    have e' : a.rank = b.rank := by
      rcases isLE_cases hr with r | r
      · rw [r] at kr
        simp at kr
      · exact KeyOrder.eq_of_cmp r
    match a, b, c with
    | .iri _, .iri _, .iri _ => exact (KeyOrder.trans (α := Iri)).isLE_trans h k
    | .blank _, .blank _, .blank _ => exact (KeyOrder.trans (α := Blank)).isLE_trans h k
    | .literal _, .literal _, .literal _ => exact (KeyOrder.trans (α := Literal)).isLE_trans h k
    | .var _, .var _, .var _ => exact (KeyOrder.trans (α := Variable)).isLE_trans h k
    | .formula ts, .formula us, .formula vs =>
      simp only [Term.cmp] at h k ⊢
      exact Term.cmpAll_isLE_trans ts us vs h k
  · exact Term.cmp_isLE_of_rank
      ((KeyOrder.trans (α := Nat)).isLE_trans (Term.rank_le_of_isLE h) (Term.rank_le_of_isLE k)) e
theorem Term.cmpTriple_isLE_trans (t u v : Statement Term)
    (h : (Term.cmpTriple t u).isLE = true) (k : (Term.cmpTriple u v).isLE = true) :
    (Term.cmpTriple t v).isLE = true := by
  cases t with
  | mk s p o =>
    cases u with
    | mk s' p' o' =>
      cases v with
      | mk s'' p'' o'' =>
        simp only [Term.cmpTriple, isLE_then] at h k ⊢
        have hs := Term.cmp_isLE_trans s s' s''
        have hp := Term.cmp_isLE_trans p p' p''
        have ho := Term.cmp_isLE_trans o o' o''
        have hs' := lt_or_eq_of_isLE Term.eq_of_cmp Term.cmp_swap hs
        have hp' := lt_or_eq_of_isLE Term.eq_of_cmp Term.cmp_swap hp
        rcases h with h | ⟨h, h | ⟨h', h''⟩⟩ <;> rcases k with k | ⟨k, k | ⟨k', k''⟩⟩ <;>
          simp_all
theorem Term.cmpAll_isLE_trans (ts us vs : List (Statement Term))
    (h : (Term.cmpAll ts us).isLE = true) (k : (Term.cmpAll us vs).isLE = true) :
    (Term.cmpAll ts vs).isLE = true := by
  cases ts with
  | nil => cases vs <;> simp [Term.cmpAll]
  | cons t ts =>
    cases us with
    | nil => simp [Term.cmpAll] at h
    | cons u us =>
      cases vs with
      | nil => simp [Term.cmpAll] at k
      | cons v vs =>
        simp only [Term.cmpAll, isLE_then] at h k ⊢
        have ht := lt_or_eq_of_isLE Term.eq_of_cmpTriple Term.cmpTriple_swap
          (Term.cmpTriple_isLE_trans t u v)
        have hts := Term.cmpAll_isLE_trans ts us vs
        rcases h with h | ⟨h, h'⟩ <;> rcases k with k | ⟨k, k'⟩ <;> simp_all
end

instance : KeyOrder Term where
  cmp := Term.cmp
  trans := { eq_swap := Term.cmp_swap _ _, isLE_trans := Term.cmp_isLE_trans _ _ _ }
  lawful := { compare_self := Term.cmp_self _, eq_of_compare := Term.eq_of_cmp _ _ }

instance : KeyOrder Triple where
  cmp := Term.cmpTriple
  trans := { eq_swap := Term.cmpTriple_swap _ _, isLE_trans := Term.cmpTriple_isLE_trans _ _ _ }
  lawful := { compare_self := Term.cmpTriple_self _, eq_of_compare := Term.eq_of_cmpTriple _ _ }

instance : DecidableEq Term := KeyOrder.decidableEq

abbrev TripleSet := SortedSet Triple

def Term.ofTriples (s : TripleSet) : Term := .formula s.toList

end RdfStore
