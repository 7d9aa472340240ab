import RdfStore.Store.Inference
import RdfStore.Proofs.Query.Solving
import RdfStore.Proofs.Row.Merging
import RdfStore.Proofs.Store.Contents
import RdfStore.Proofs.Expr.TermFunctions

/-!
# Variables that stand for other variables

A variable that is bound to another one gets what the value of that one is spelled as. So it is a
copy only where terms are spelled normally, and only there a pattern says of it what it would say of
the other (`StoreM.solutions_copy`).
-/

namespace RdfStore

/-! ## Rows -/

namespace Row

variable {spell : Term → Term} {row b c : Row} {x v y : String} {t : Term}

/-- The row in which a second name has the term of a first, in some spelling. -/
def copied (spell : Term → Term) (x v : String) (row : Row) : Row :=
  match row.find? x with
  | some t => row.insert v (spell t)
  | none => row

/-- The row in which a second name has the term of a first, and the first has none. -/
def moved (x v : String) (row : Row) : Row :=
  match row.find? x with
  | some t => (row.erase x).insert v t
  | none => row

/-- The term of the name, if it has one, is spelled normally. -/
def NormalAt (x : String) (row : Row) : Prop := ∀ t, row.find? x = some t → t.IsNormal

theorem copied_of_find? (h : row.find? x = some t) :
    row.copied spell x v = row.insert v (spell t) := by
  unfold copied
  rw [h]

theorem copied_of_free (h : row.find? x = none) : row.copied spell x v = row := by
  unfold copied
  rw [h]

theorem find?_copied (hv : row.find? v = none) : (row.copied spell x v).find? y =
    if y = v then (row.find? x).map spell else row.find? y := by
  cases hx : row.find? x with
  | none =>
    rw [copied_of_free hx]
    split
    · next hy => rw [hy, hv, Option.map_none]
    · rfl
  | some t => rw [copied_of_find? hx, SortedMap.find?_insert_eq, Option.map_some]

theorem find?_moved (hv : row.find? v = none) : (row.moved x v).find? y =
    if y = v then row.find? x else if y = x then none else row.find? y := by
  unfold moved
  cases hx : row.find? x with
  | none =>
    dsimp only
    split_ifs with hyv hyx
    · rw [hyv, hv]
    · rw [hyx, hx]
    · rfl
  | some t =>
    dsimp only
    rw [SortedMap.find?_insert_eq, SortedMap.find?_erase_eq]

/-- A copy is the row with the same term under both names just if the term is spelled normally. -/
theorem copied_normal_eq_iff (hv : row.find? v = none) :
    row.copied Term.normal x v = row.copied id x v ↔ row.NormalAt x := by
  constructor
  · intro h t ht
    have hfind := congrArg (fun row : Row => row.find? v) h
    simp only [find?_copied hv, if_true, ht, Option.map_some, Option.some.injEq] at hfind
    exact Term.normal_eq_self_iff.1 hfind
  · intro h
    cases hx : row.find? x with
    | none => rw [copied_of_free hx, copied_of_free hx]
    | some t =>
      rw [copied_of_find? hx, copied_of_find? hx, Term.normal_eq_self_iff.2 (h t hx)]
      rfl

/-- For a row that has the same under two names it makes no difference which of them others use. -/
theorem compatible_moved (hb : b.find? v = none) (hc : c.find? v = c.find? x) :
    c.compatible (b.moved x v) = c.compatible b := by
  rw [Bool.eq_iff_iff, compatible_iff, compatible_iff]
  constructor
  · intro h y s t hs ht
    have hyv : y ≠ v := by
      rintro rfl
      exact nomatch hb.symm.trans ht
    by_cases hyx : y = x
    · subst hyx
      refine h v s t (hc.trans hs) ?_
      rw [find?_moved hb, if_pos rfl, ht]
    · refine h y s t hs ?_
      rw [find?_moved hb, if_neg hyv, if_neg hyx, ht]
  · intro h y s t hs ht
    rw [find?_moved hb] at ht
    split_ifs at ht with hyv hyx
    · exact h x s t (hc.symm.trans (hyv ▸ hs)) ht
    · exact h y s t hs ht

theorem compatible_singleton : c.compatible (SortedMap.empty.insert x t) = true ↔
    ∀ u, c.find? x = some u → u = t := by
  rw [compatible_iff]
  constructor
  · intro h u hu
    exact h x u t hu SortedMap.find?_insert_self
  · intro h y u t' hu ht
    rw [SortedMap.find?_insert_eq] at ht
    split at ht
    · next hy => exact (h u (hy ▸ hu)).trans (Option.some.inj ht)
    · exact nomatch ht

theorem moved_singleton :
    moved x v (SortedMap.empty.insert x t) = SortedMap.empty.insert v t := by
  unfold moved
  rw [SortedMap.find?_insert_self]
  refine SortedMap.ext_find? fun y => ?_
  simp only [SortedMap.find?_insert_eq, SortedMap.find?_erase_eq, SortedMap.find?_empty]
  split_ifs <;> rfl

/-- It makes no difference for any other row which of the names it uses just if a copy is exact. -/
theorem compatible_copied_iff (hv : row.find? v = none) :
    (∀ b, b.find? v = none → (row.copied Term.normal x v).compatible (b.moved x v) =
      (row.copied Term.normal x v).compatible b) ↔ row.NormalAt x := by
  by_cases hxv : x = v
  · -- There is nothing to copy.
    subst hxv
    refine iff_of_true (fun b hb => compatible_moved hb rfl) fun t ht => ?_
    exact nomatch hv.symm.trans ht
  constructor
  · intro h t ht
    have hcopy : (row.copied Term.normal x v).find? v = some t.normal := by
      rw [find?_copied hv, if_pos rfl, ht, Option.map_some]
    have hkept : (row.copied Term.normal x v).find? x = some t := by
      rw [find?_copied hv, if_neg hxv, ht]
    -- The row that has just the term under the first name fits, so it does under the second.
    have hfits : (row.copied Term.normal x v).compatible (SortedMap.empty.insert x t) = true := by
      rw [compatible_singleton]
      intro u hu
      exact Option.some.inj (hu.symm.trans hkept)
    have hfree : (SortedMap.empty.insert x t : Row).find? v = none := by
      rw [SortedMap.find?_insert_eq, if_neg (Ne.symm hxv), SortedMap.find?_empty]
    rw [← h _ hfree, moved_singleton, compatible_singleton] at hfits
    exact Term.normal_eq_self_iff.1 (hfits t.normal hcopy)
  · intro h b hb
    refine compatible_moved hb ?_
    rw [find?_copied hv, find?_copied hv, if_pos rfl, if_neg hxv]
    cases hx : row.find? x with
    | none => rfl
    | some t => rw [Option.map_some, Term.normal_eq_self_iff.2 (h t hx)]

end Row

/-! ## Patterns -/

/-- The position, with a second variable where a first one stood. -/
def Slot.put (x v : String) : Slot → Slot
  | .fixed t => .fixed t
  | .var y => .var (if y = x then v else y)

/-- The pattern, with a second variable where a first one stood. -/
def Pattern.put (x v : String) (q : Pattern) : Pattern := q.map (Slot.put x v)

section Put

variable {row row' : Row} {x v : String} {t : Term}

theorem Slot.resolve?_put {s : Slot} (hs : v ∉ s.vars) (hv : row.find? v = none) :
    (s.put x v).resolve? (row.moved x v) = s.resolve? row := by
  cases s with
  | fixed u => rfl
  | var y =>
    have hy : y ≠ v := fun e => hs e.symm
    show (row.moved x v).find? (if y = x then v else y) = row.find? y
    rw [Row.find?_moved hv]
    by_cases hyx : y = x
    · rw [if_pos hyx, if_pos rfl, hyx]
    · rw [if_neg hyx, if_neg hy, if_neg hyx]

theorem Slot.free_of_bind? {s : Slot} (hs : v ∉ s.vars) (hv : row.find? v = none)
    (h : s.bind? t row = some row') : row'.find? v = none := by
  rw [SortedMap.find?_eq_none_iff] at hv ⊢
  exact fun hmem => (((Slot.bind?_eq_some_iff.1 h).1.binds v).1 hmem).elim hv hs

theorem Slot.bind?_put {s : Slot} (hs : v ∉ s.vars) (hv : row.find? v = none) :
    (s.put x v).bind? t (row.moved x v) = (s.bind? t row).map (Row.moved x v) := by
  have hresolve := Slot.resolve?_put (x := x) hs hv
  cases s with
  | fixed u =>
    show (if u = t then some (row.moved x v) else none) =
      (if u = t then some row else none).map (Row.moved x v)
    split <;> rfl
  | var y =>
    have hy : y ≠ v := fun e => hs e.symm
    change (row.moved x v).find? (if y = x then v else y) = row.find? y at hresolve
    unfold put bind?
    dsimp only
    rw [hresolve]
    cases row.find? y with
    | some u =>
      dsimp only
      split <;> rfl
    | none =>
      have hfree : (row.insert y t).find? v = none := by
        rw [SortedMap.find?_insert_eq, if_neg (Ne.symm hy), hv]
      refine congrArg some (SortedMap.ext_find? fun z => ?_)
      rw [Row.find?_moved hfree]
      simp only [SortedMap.find?_insert_eq, Row.find?_moved hv]
      grind

theorem Pattern.bind?_put {q : Pattern} {t : Triple} (hq : v ∉ q.vars) (hv : row.find? v = none) :
    (q.put x v).bind? t (row.moved x v) = (q.bind? t row).map (Row.moved x v) := by
  have hsubject : v ∉ q.subject.vars := fun h => hq (.inl h)
  have hpredicate : v ∉ q.predicate.vars := fun h => hq (.inr (.inl h))
  have hobject : v ∉ q.object.vars := fun h => hq (.inr (.inr h))
  show ((q.subject.put x v).bind? t.subject (row.moved x v)).bind (fun row =>
      ((q.predicate.put x v).bind? t.predicate row).bind ((q.object.put x v).bind? t.object ·)) =
    Option.map _ ((q.subject.bind? t.subject row).bind fun row =>
      (q.predicate.bind? t.predicate row).bind (q.object.bind? t.object ·))
  rw [Slot.bind?_put hsubject hv]
  cases hs : q.subject.bind? t.subject row with
  | none => rfl
  | some row₁ =>
    have hv₁ := Slot.free_of_bind? hsubject hv hs
    rw [Option.map_some, Option.bind_some, Option.bind_some, Slot.bind?_put hpredicate hv₁]
    cases hp : q.predicate.bind? t.predicate row₁ with
    | none => rfl
    | some row₂ => exact Slot.bind?_put hobject (Slot.free_of_bind? hpredicate hv₁ hp)

theorem Pattern.extensions_put (find : Lookup) {q : Pattern} (hq : v ∉ q.vars)
    (hv : row.find? v = none) : (q.put x v).extensions find (row.moved x v) =
      (q.extensions find row).map (Row.moved x v) := by
  show (find ((q.subject.put x v).resolve? _) ((q.predicate.put x v).resolve? _)
    ((q.object.put x v).resolve? _)).filterMap _ = _
  rw [Slot.resolve?_put (fun h => hq (.inl h)) hv,
    Slot.resolve?_put (fun h => hq (.inr (.inl h))) hv,
    Slot.resolve?_put (fun h => hq (.inr (.inr h))) hv]
  unfold Pattern.extensions
  rw [List.map_filterMap]
  exact List.filterMap_congr fun t _ => Pattern.bind?_put hq hv

end Put

/-! ## Solutions -/

section Solutions

variable (s : Session) (now : DateTime) (p : GraphPattern) {x v : String}

/-- A pattern has the same solutions for another variable, which is bound in place of the first. -/
theorem Session.solve_put {q : Pattern} (hq : v ∉ q.vars) :
    s.solve now (.basic [q.put x v]) =
      (s.solve now (.basic [q])).map (List.map (Row.moved x v)) := by
  rw [solve_basic, solve_basic]
  have hempty := Pattern.extensions_put (x := x) (Selection.find s.graphs) hq
    (SortedMap.find?_empty (β := Term))
  show Except.ok ([SortedMap.empty].flatMap _) = .ok (List.map _ ([SortedMap.empty].flatMap _))
  rw [List.flatMap_singleton, List.flatMap_singleton]
  exact congrArg Except.ok hempty

theorem Expr.evaluate_free {row : Row} (h : row.find? x = none) :
    (Expr.var x).evaluate row now = .error (.unbound x) := by
  show row.value x = .error (.unbound x)
  unfold Row.value
  rw [h]

/-- A row is extended by the value of a variable. -/
theorem Row.extended_var : Row.extended now v (.var x) = Row.copied Term.normal x v := by
  funext row
  unfold Row.extended
  cases hx : row.find? x with
  | none => rw [Expr.evaluate_free now hx, Row.copied_of_free hx]
  | some t =>
    rw [(Expr.Denotes.var hx).evaluate_eq, Row.copied_of_find? hx, ← Value.toTerm_ofTerm]

/-- A variable is no fault for a row in which the name is free. -/
theorem extendFault?_var {row : Row} (hv : row.find? v = none) :
    extendFault? now v (.var x) row = none := by
  unfold extendFault? SortedMap.contains Expr.fatal?
  rw [hv, Option.isSome_none, if_neg Bool.false_ne_true]
  cases hx : row.find? x with
  | none =>
    rw [Expr.evaluate_free now hx]
    rfl
  | some t =>
    rw [(Expr.Denotes.var hx).evaluate_eq]
    rfl

theorem Session.solve_copy
    (hv : ∀ rows, s.solve now p = .ok rows → ∀ row ∈ rows, row.find? v = none) :
    s.solve now (.extend p v (.var x)) =
      (s.solve now p).map (List.map (Row.copied Term.normal x v)) := by
  rw [solve_extend, Row.extended_var]
  cases hrows : s.solve now p with
  | error e => rfl
  | ok rows =>
    have hfault : rows.findSome? (extendFault? now v (.var x)) = none :=
      List.findSome?_eq_none_iff.2 fun row hrow => extendFault?_var now (hv rows hrows row hrow)
    show unlessFault (rows.findSome? _) _ = .ok _
    rw [hfault, unlessFault_none]

end Solutions

namespace StoreM

variable (now : DateTime) (s : Session)

/-- **A variable bound to another is a copy of it where terms are spelled normally.** If no
solution of a pattern binds the name, binding it to a variable gives it, in every solution, the
normal spelling of the term of that variable, if this has one. These are the very terms just if all
of them are spelled normally. A pattern has the same solutions for either variable, and just then
it does not matter which of the two a solution that is to be joined has bound. -/
theorem solutions_copy (p : GraphPattern) (x v : String)
    (hv : ∀ rows, s.solve now p = .ok rows → ∀ row ∈ rows, row.find? v = none) :
    (solutions now (.extend p v (.var x))).exec s =
        ((s.solve now p).map (List.map (Row.copied Term.normal x v)), s) ∧
      (∀ rows, s.solve now p = .ok rows →
        ((solutions now (.extend p v (.var x))).exec s = (.ok (rows.map (Row.copied id x v)), s) ↔
          ∀ row ∈ rows, row.NormalAt x) ∧
        ∀ row ∈ rows, (∀ b, b.find? v = none →
            (row.copied Term.normal x v).compatible (b.moved x v) =
              (row.copied Term.normal x v).compatible b) ↔ row.NormalAt x) ∧
      ∀ q : Pattern, v ∉ q.varNames → s.solve now (.basic [q.put x v]) =
        (s.solve now (.basic [q])).map (List.map (Row.moved x v)) := by
  have hexec : (solutions now (.extend p v (.var x))).exec s =
      ((s.solve now p).map (List.map (Row.copied Term.normal x v)), s) :=
    Prod.ext (s.solve_copy now p hv) (readsOnly_solutions now _ s)
  refine ⟨hexec, fun rows hrows => ⟨?_, fun row hrow => ?_⟩, fun q hq => ?_⟩
  · rw [hexec, hrows]
    show (Except.ok (rows.map (Row.copied Term.normal x v)), s) =
      ((.ok (rows.map (Row.copied id x v)) : Except StoreError (List Row)), s) ↔ _
    rw [Prod.mk.injEq, and_iff_left rfl, Except.ok.injEq, List.map_inj_left]
    exact forall₂_congr fun row hrow => Row.copied_normal_eq_iff (hv rows hrows row hrow)
  · exact Row.compatible_copied_iff (hv rows hrows row hrow)
  · exact s.solve_put now fun h => hq (Pattern.mem_varNames.2 h)

/-- A session with a graph in which a number is spelled with a zero in front. -/
def paddedSession : Session :=
  ((addGraph (.ofTriples (some ⟨"urn:stock"⟩)
    [⟨.iri ⟨"urn:box"⟩, .iri ⟨"urn:holds"⟩, .literal ⟨"01", .typed Vocabulary.xsdInteger⟩⟩])
    false).exec ⟨Store.default .new, .new⟩).2

/-- What some box holds. -/
def heldPattern (x : String) : Pattern := ⟨.var "box", .fixed (.iri ⟨"urn:holds"⟩), .var x⟩

/-- A variable for what the box holds stands for the number, but not as it is spelled there. -/
theorem solutions_copy_held :
    let now : DateTime := ⟨2024, 1, 1, 12, 0, 0, 0, 0⟩
    let p : GraphPattern := .basic [heldPattern "x"]
    (∀ rows, paddedSession.solve now p = .ok rows → ∀ row ∈ rows, row.find? "v" = none) ∧
    (paddedSession.solve now p).toOption.map (List.map (·.find? "x")) =
      some [some (.literal ⟨"01", .typed Vocabulary.xsdInteger⟩)] ∧
    ∃ rows, (solutions now (.extend p "v" (.var "x"))).exec paddedSession =
        (.ok rows, paddedSession) ∧
      rows.map (·.find? "v") = [some (.ofInteger 1)] := by
  intro now p
  have hsolve : paddedSession.solve now p =
    .ok (Pattern.joinAll (Selection.find paddedSession.graphs) [.empty] [heldPattern "x"]) := rfl
  have hfree : ∀ row ∈ Pattern.joinAll (Selection.find paddedSession.graphs) [.empty]
      [heldPattern "x"], row.find? "v" = none := by decide +kernel
  have hv : ∀ rows, paddedSession.solve now p = .ok rows →
      ∀ row ∈ rows, row.find? "v" = none := by
    intro rows hrows
    obtain rfl := Except.ok.inj (hsolve.symm.trans hrows)
    exact hfree
  obtain ⟨hexec, -, -⟩ := solutions_copy now paddedSession p "x" "v" hv
  rw [hsolve] at hexec ⊢
  refine ⟨fun rows hrows => hv rows (hsolve.trans hrows), by decide +kernel, _, hexec, ?_⟩
  decide +kernel

/-- The new variable stands for another term than the old one, and what is held under it is
nowhere to be found. -/
theorem copied_held_differs :
    let now : DateTime := ⟨2024, 1, 1, 12, 0, 0, 0, 0⟩
    let p : GraphPattern := .basic [heldPattern "x"]
    let q : GraphPattern := .extend p "v" (.var "x")
    ((solutions now p).exec paddedSession).1.toOption.map (List.map (·.find? "v")) =
        some [none] ∧
      ((solutions now q).exec paddedSession).1.toOption.map
        (List.map fun row => decide (row.find? "v" = row.find? "x")) = some [false] ∧
      ((solutions now (.join q p)).exec paddedSession).1.toOption.map List.length = some 1 ∧
      ((solutions now (.join q (.basic [heldPattern "v"]))).exec paddedSession).1.toOption.map
        List.length = some 0 := by
  decide +kernel

end StoreM

end RdfStore
