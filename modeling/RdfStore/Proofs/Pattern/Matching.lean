import Mathlib.Data.List.Induction
import Mathlib.Data.Set.Insert
import Mathlib.Algebra.BigOperators.Group.List.Basic
import RdfStore.Selection.Graphs
import RdfStore.Proofs.Graph.Lookup

/-!
# Matching patterns

Matching lets a row grow: terms that are bound stay, and just the variables of the pattern are
bound in addition (`Row.Grows`). A row grown by all patterns of a list is reached as often as the
source has the triples that it puts in their places (`Pattern.count_joinAll`), and no other row is
reached (`Pattern.grows_of_mem_joinAll`).
-/

namespace RdfStore

/-! ## Growing rows -/

namespace Row

/-- The second row keeps the terms of the first and binds the names of a set in addition. -/
structure Grows (X : Set String) (a b : Row) : Prop where
  /-- Terms stay. -/
  keeps : ∀ x t, a.find? x = some t → b.find? x = some t
  /-- Names come from the first row or from the set. -/
  binds : ∀ x, x ∈ b.keys ↔ x ∈ a.keys ∨ x ∈ X

variable {X Y : Set String} {a b c : Row}

theorem Grows.refl (a : Row) : Grows ∅ a a where
  keeps _ _ h := h
  binds x := by simp

theorem Grows.trans (h : Grows X a b) (k : Grows Y b c) : Grows (X ∪ Y) a c where
  keeps x t hx := k.keeps x t (h.keeps x t hx)
  binds x := by rw [k.binds, h.binds, Set.mem_union, or_assoc]

/-- A name that a row binds keeps its term. -/
theorem Grows.find?_eq (h : Grows X a b) {x : String} (hx : x ∈ a.keys) :
    b.find? x = a.find? x := by
  obtain ⟨t, ht⟩ := SortedMap.mem_keys_iff.1 hx
  rw [ht, h.keeps x t ht]

/-- Rows that bind the same names and are kept by one row are equal. -/
theorem Grows.left_unique {b' : Row} (h : Grows X b c) (h' : Grows Y b' c)
    (hkeys : ∀ x, x ∈ b.keys ↔ x ∈ b'.keys) : b = b' := by
  refine SortedMap.ext_find? fun x => ?_
  by_cases hx : x ∈ b.keys
  · rw [← h.find?_eq hx, h'.find?_eq ((hkeys x).1 hx)]
  · rw [SortedMap.find?_eq_none_iff.2 hx, SortedMap.find?_eq_none_iff.2 (mt (hkeys x).2 hx)]

/-- A row that binds the names already does not grow. -/
theorem grows_iff_of_bound (hX : ∀ x ∈ X, x ∈ a.keys) : Grows X a b ↔ a = b := by
  constructor
  · intro h
    refine h.left_unique (Grows.refl b) fun x => ?_
    rw [h.binds]
    exact ⟨.inl, fun hx => hx.elim id (hX x)⟩
  · rintro rfl
    exact ⟨fun _ _ h => h, fun x => ⟨.inl, fun hx => hx.elim id (hX x)⟩⟩

/-- Growth by two sets of names passes through a row grown by the first. -/
theorem Grows.split (h : Grows (X ∪ Y) a c) : ∃ b, Grows X a b ∧ Grows Y b c := by
  classical
  -- The row between is what the last row says of the names that count so far.
  refine ⟨c.filter fun x _ => decide (x ∈ a.keys ∨ x ∈ X), ?_, ?_⟩
  · refine ⟨fun x t hx => ?_, fun x => ?_⟩
    · have hkey : x ∈ a.keys := SortedMap.mem_keys_iff.2 ⟨t, hx⟩
      rw [SortedMap.find?_filter, h.keeps x t hx]
      simp [Option.filter, hkey]
    · have hbinds := h.binds x
      simp only [SortedMap.mem_keys_iff, SortedMap.find?_filter, Option.filter_eq_some_iff] at *
      grind
  · refine ⟨fun x t hx => ?_, fun x => ?_⟩
    · rw [SortedMap.find?_filter, Option.filter_eq_some_iff] at hx
      exact hx.1
    · have hbinds := h.binds x
      simp only [SortedMap.mem_keys_iff, SortedMap.find?_filter, Option.filter_eq_some_iff] at *
      grind

/-- Growing by one free name is binding it to a term. -/
theorem grows_singleton_iff {x : String} {t : Term} (hx : a.find? x = none) :
    Grows {x} a b ∧ b.find? x = some t ↔ a.insert x t = b := by
  constructor
  · rintro ⟨h, ht⟩
    -- Names other than the new one are bound in both rows or in neither.
    refine SortedMap.ext_find? fun y => ?_
    rw [SortedMap.find?_insert]
    split
    · next hy => rw [KeyOrder.eq_of_cmp hy, ht]
    · next hy =>
      have hne : y ≠ x := fun e => hy (e ▸ KeyOrder.cmp_self _)
      by_cases hkey : y ∈ a.keys
      · exact (h.find?_eq hkey).symm
      · have hkey' : y ∉ b.keys := fun hb => ((h.binds y).1 hb).elim hkey hne
        rw [SortedMap.find?_eq_none_iff.2 hkey, SortedMap.find?_eq_none_iff.2 hkey']
  · rintro rfl
    refine ⟨⟨fun y u hy => ?_, fun y => ?_⟩, SortedMap.find?_insert_self⟩
    · have hne : KeyOrder.cmp y x ≠ .eq := by
        intro he
        rw [KeyOrder.eq_of_cmp he, hx] at hy
        exact nomatch hy
      rw [SortedMap.find?_insert, if_neg hne, hy]
    · simp only [SortedMap.mem_keys_iff, SortedMap.find?_insert, Set.mem_singleton_iff]
      by_cases he : KeyOrder.cmp y x = .eq
      · simp [KeyOrder.eq_of_cmp he, KeyOrder.cmp_self]
      · have hne : y ≠ x := fun e => he (e ▸ KeyOrder.cmp_self _)
        simp [he, hne]

end Row

/-! ## Slots -/

namespace Slot

/-- The variable of a slot, if there is one. -/
def vars : Slot → Set String
  | fixed _ => ∅
  | var x => {x}

variable {s : Slot} {t : Term} {X : Set String} {a b : Row}

theorem mem_vars {x : String} : x ∈ s.vars ↔ s.varName? = some x := by
  cases s with
  | fixed u => simp [vars, varName?]
  | var y => simp [vars, varName?, eq_comm]

/-- What a slot stands for does not change while the row grows. -/
theorem resolve?_grows (h : a.Grows X b) (ht : s.resolve? a = some t) : s.resolve? b = some t := by
  cases s with
  | fixed u => exact ht
  | var x => exact h.keeps x t ht

/-- A slot whose variable is bound stands for the same in every row that grows. -/
theorem resolve?_eq (h : a.Grows X b) (hs : ∀ x ∈ s.vars, x ∈ a.keys) :
    s.resolve? b = s.resolve? a := by
  cases s with
  | fixed u => rfl
  | var x => exact h.find?_eq (hs x rfl)

/-- A slot is bound to a term by growing just so far that it stands for the term. -/
theorem bind?_eq_some_iff :
    s.bind? t a = some b ↔ a.Grows s.vars b ∧ s.resolve? b = some t := by
  cases s with
  | fixed u =>
    have hgrows : a.Grows (fixed u).vars b ↔ a = b :=
      Row.grows_iff_of_bound fun _ hx => hx.elim
    simp only [bind?, resolve?, hgrows, Option.some.injEq]
    grind
  | var x =>
    simp only [bind?, resolve?, vars]
    cases hx : a.find? x with
    | none =>
      rw [Row.grows_singleton_iff hx]
      exact ⟨Option.some.inj, congrArg some⟩
    | some u =>
      have hbound : ∀ y ∈ ({x} : Set String), y ∈ a.keys := by
        rintro y rfl
        exact SortedMap.mem_keys_iff.2 ⟨u, hx⟩
      rw [Row.grows_iff_of_bound hbound]
      grind

end Slot

/-! ## Patterns -/

namespace Pattern

/-- The variables of a pattern. -/
def vars (p : Pattern) : Set String := p.subject.vars ∪ (p.predicate.vars ∪ p.object.vars)

variable {p : Pattern} {t : Triple} {X : Set String} {a b : Row}

theorem mem_varNames {x : String} : x ∈ p.varNames ↔ x ∈ p.vars := by
  simp only [varNames, SortedSet.mem_ofList, List.mem_filterMap, Statement.toList, vars,
    Set.mem_union, Slot.mem_vars, List.mem_cons, List.not_mem_nil, or_false]
  grind

theorem resolve?_eq_some_iff : p.resolve? a = some t ↔
    p.subject.resolve? a = some t.subject ∧ p.predicate.resolve? a = some t.predicate ∧
      p.object.resolve? a = some t.object := by
  simp only [resolve?, bind, pure, Option.bind_eq_some_iff, Option.some.injEq]
  constructor
  · rintro ⟨s, hs, q, hq, o, ho, rfl⟩
    exact ⟨hs, hq, ho⟩
  · rintro ⟨hs, hq, ho⟩
    exact ⟨_, hs, _, hq, _, ho, rfl⟩

/-- A pattern whose variables are bound stands for the same in every row that grows. -/
theorem resolve?_eq (h : a.Grows X b) (hp : ∀ x ∈ p.vars, x ∈ a.keys) :
    p.resolve? b = p.resolve? a := by
  have hs := Slot.resolve?_eq h fun x hx => hp x (.inl hx)
  have hq := Slot.resolve?_eq h fun x hx => hp x (.inr (.inl hx))
  have ho := Slot.resolve?_eq h fun x hx => hp x (.inr (.inr hx))
  unfold resolve?
  rw [hs, hq, ho]

/-- A pattern whose variables are bound stands for a triple. -/
theorem exists_resolve? (hp : ∀ x ∈ p.vars, x ∈ a.keys) : ∃ t, p.resolve? a = some t := by
  have hslot (s : Slot) (hs : ∀ x ∈ s.vars, x ∈ a.keys) : ∃ t, s.resolve? a = some t := by
    cases s with
    | fixed u => exact ⟨u, rfl⟩
    | var x => exact SortedMap.mem_keys_iff.1 (hs x rfl)
  obtain ⟨s, hs⟩ := hslot p.subject fun x hx => hp x (.inl hx)
  obtain ⟨q, hq⟩ := hslot p.predicate fun x hx => hp x (.inr (.inl hx))
  obtain ⟨o, ho⟩ := hslot p.object fun x hx => hp x (.inr (.inr hx))
  exact ⟨⟨s, q, o⟩, resolve?_eq_some_iff.2 ⟨hs, hq, ho⟩⟩

/-- A pattern is bound to a triple by growing just so far that it stands for the triple. -/
theorem bind?_eq_some_iff :
    p.bind? t a = some b ↔ a.Grows p.vars b ∧ p.resolve? b = some t := by
  simp only [bind?, bind, Option.bind_eq_some_iff, Slot.bind?_eq_some_iff, resolve?_eq_some_iff]
  constructor
  · rintro ⟨c, ⟨hac, hs⟩, d, ⟨hcd, hq⟩, hdb, ho⟩
    exact ⟨hac.trans (hcd.trans hdb),
      Slot.resolve?_grows (hcd.trans hdb) hs, Slot.resolve?_grows hdb hq, ho⟩
  · rintro ⟨hab, hs, hq, ho⟩
    -- The positions are bound one after the other, on the way to the last row.
    obtain ⟨c, hac, hcb⟩ := hab.split
    obtain ⟨d, hcd, hdb⟩ := hcb.split
    refine ⟨c, ⟨hac, ?_⟩, d, ⟨hcd, ?_⟩, hdb, ho⟩
    · rw [← hs]
      exact (Slot.resolve?_eq hcb fun x hx => (hac.binds x).2 (.inr hx)).symm
    · rw [← hq]
      exact (Slot.resolve?_eq hdb fun x hx => (hcd.binds x).2 (.inr hx)).symm

/-- A triple that a pattern stands for later has the terms that the pattern has now. -/
theorem selector_of_grows (h : a.Grows X b) (ht : p.resolve? b = some t) :
    Selector.pattern (p.subject.resolve? a) (p.predicate.resolve? a) (p.object.resolve? a) t =
      true := by
  obtain ⟨hs, hq, ho⟩ := resolve?_eq_some_iff.1 ht
  rw [Selector.pattern_iff]
  refine ⟨fun u hu => ?_, fun u hu => ?_, fun u hu => ?_⟩
  · exact Option.some.inj (hs.symm.trans (Slot.resolve?_grows h hu))
  · exact Option.some.inj (hq.symm.trans (Slot.resolve?_grows h hu))
  · exact Option.some.inj (ho.symm.trans (Slot.resolve?_grows h hu))

end Pattern

/-! ## Joins over a source -/

/-- A source gives each triple so many times, whenever the triple has the terms asked for. -/
def Lookup.Gives (find : Lookup) (n : Triple → Nat) : Prop :=
  ∀ s p o t, (find s p o).count t = if Selector.pattern s p o t = true then n t else 0

/-- A graph gives each of its triples once. -/
theorem Graph.gives_find (g : Graph) : Lookup.Gives g.find fun t => (g.contains t).toNat := by
  intro s p o t
  rw [(g.nodup_find s p o).count]
  simp only [mem_find, ← contains_iff]
  cases g.contains t <;> simp

/-- Several graphs give a triple once for each of them that has it. -/
theorem Selection.gives_find (gs : List Graph) :
    Lookup.Gives (find gs) fun t => gs.countP (·.contains t) := by
  intro s p o t
  induction gs with
  | nil => simp [find]
  | cons g gs ih =>
    have hcons : find (g :: gs) s p o = g.find s p o ++ find gs s p o := rfl
    rw [hcons, List.count_append, ih, g.gives_find]
    by_cases ht : Selector.pattern s p o t = true
    · simp only [if_pos ht, List.countP_cons]
      cases g.contains t <;> simp [Nat.add_comm]
    · simp only [if_neg ht]

/-- The variables of a list of patterns. -/
def patternVars (ps : List Pattern) : Set String := {x | ∃ p ∈ ps, x ∈ p.vars}

/-- How often a source gives the triples that a row puts in the place of patterns: the product
of the numbers for each. -/
def multiplicity (n : Triple → Nat) (row : Row) (ps : List Pattern) : Nat :=
  (ps.map fun p => (p.resolve? row).elim 0 n).prod

theorem patternVars_append {ps qs : List Pattern} :
    patternVars (ps ++ qs) = patternVars ps ∪ patternVars qs := by
  ext x
  simp only [patternVars, List.mem_append, Set.mem_ofPred_eq, Set.mem_union]
  grind

theorem patternVars_singleton {p : Pattern} : patternVars [p] = p.vars := by
  ext x
  simp [patternVars]

theorem multiplicity_append {n : Triple → Nat} {row : Row} {ps qs : List Pattern} :
    multiplicity n row (ps ++ qs) = multiplicity n row ps * multiplicity n row qs := by
  simp [multiplicity]

theorem multiplicity_singleton {n : Triple → Nat} {row : Row} {p : Pattern} :
    multiplicity n row [p] = (p.resolve? row).elim 0 n := by
  simp [multiplicity]

/-- Patterns whose variables are bound have the same multiplicity in every row that grows. -/
theorem multiplicity_grows {n : Triple → Nat} {X : Set String} {a b : Row} {ps : List Pattern}
    (h : a.Grows X b) (hps : ∀ x ∈ patternVars ps, x ∈ a.keys) :
    multiplicity n b ps = multiplicity n a ps := by
  unfold multiplicity
  refine congrArg List.prod (List.map_congr_left fun p hp => ?_)
  rw [Pattern.resolve?_eq h fun x hx => hps x ⟨p, hp, hx⟩]

namespace Pattern

variable {find : Lookup} {n : Triple → Nat} {p : Pattern} {ps : List Pattern} {a row : Row}

theorem joinAll_snoc (find : Lookup) (rows : List Row) (ps : List Pattern) (p : Pattern) :
    joinAll find rows (ps ++ [p]) = (joinAll find rows ps).flatMap (p.extensions find) := by
  unfold joinAll
  rw [List.foldl_append]
  rfl

theorem grows_of_mem_extensions (h : row ∈ p.extensions find a) : a.Grows p.vars row := by
  obtain ⟨t, -, ht⟩ := List.mem_filterMap.1 h
  exact (bind?_eq_some_iff.1 ht).1

/-- A row that grows by a pattern is among the extensions as often as the source has the triple
that the pattern stands for in it. -/
theorem count_extensions (hfind : find.Gives n) (h : a.Grows p.vars row) :
    (p.extensions find a).count row = (p.resolve? row).elim 0 n := by
  obtain ⟨t, ht⟩ := exists_resolve? fun x hx => (h.binds x).2 (.inr hx)
  have hbind (u : Triple) : (p.bind? u a == some row) = true ↔ (u == t) = true := by
    rw [beq_iff_eq, beq_iff_eq, bind?_eq_some_iff, ht, Option.some.injEq]
    exact ⟨fun hu => hu.2.symm, fun hu => ⟨h, hu.symm⟩⟩
  unfold extensions
  rw [List.count_filterMap, List.countP_congr fun u _ => hbind u]
  show List.count t _ = _
  rw [hfind, if_pos (selector_of_grows h ht), ht]
  rfl

/-- Joining binds the variables of the patterns and nothing else. -/
theorem grows_of_mem_joinAll (h : row ∈ joinAll find [a] ps) : a.Grows (patternVars ps) row := by
  induction ps using List.reverseRecOn generalizing row with
  | nil =>
    obtain rfl : row = a := List.mem_singleton.1 h
    have hnil : patternVars [] = ∅ := by simp [patternVars]
    exact hnil ▸ Row.Grows.refl row
  | append_singleton ps p ih =>
    rw [joinAll_snoc] at h
    obtain ⟨b, hb, hrow⟩ := List.mem_flatMap.1 h
    rw [patternVars_append, patternVars_singleton]
    exact (ih hb).trans (grows_of_mem_extensions hrow)

/-- **Bag semantics of joins.** A row that binds just the variables of the patterns in addition
is reached as often as the product of the numbers of its triples in the source. -/
theorem count_joinAll (hfind : find.Gives n) (h : a.Grows (patternVars ps) row) :
    (joinAll find [a] ps).count row = multiplicity n row ps := by
  induction ps using List.reverseRecOn generalizing row with
  | nil =>
    have hnil : ∀ x ∈ patternVars [], x ∈ a.keys := by simp [patternVars]
    obtain rfl := (Row.grows_iff_of_bound hnil).1 h
    exact List.count_singleton_self
  | append_singleton ps p ih =>
    rw [patternVars_append, patternVars_singleton] at h
    -- Every row before the last pattern is the one from which the given row grows.
    obtain ⟨b, hab, hbrow⟩ := h.split
    have honly (c : Row) (hne : c ≠ b) (hc : c ∈ joinAll find [a] ps) :
        (p.extensions find c).count row = 0 := by
      rw [List.count_eq_zero]
      intro hrow
      have hac := grows_of_mem_joinAll hc
      refine hne ((grows_of_mem_extensions hrow).left_unique hbrow fun x => ?_)
      rw [hac.binds, hab.binds]
    have hbefore : multiplicity n row ps = multiplicity n b ps :=
      multiplicity_grows hbrow fun x hx => (hab.binds x).2 (.inr hx)
    rw [joinAll_snoc, List.count_flatMap]
    calc ((joinAll find [a] ps).map (List.count row ∘ p.extensions find)).sum
        = (joinAll find [a] ps).count b • (p.extensions find b).count row :=
          List.sum_map_eq_nsmul_single b _ honly
      _ = multiplicity n row ps * (p.resolve? row).elim 0 n := by
          rw [ih hab, hbefore, count_extensions hfind hbrow, Nat.nsmul_eq_mul]
      _ = multiplicity n row (ps ++ [p]) := by
          rw [multiplicity_append, multiplicity_singleton]

/-- A join reaches the rows that put a triple of the source in the place of each pattern. -/
theorem mem_joinAll (hfind : find.Gives n) : row ∈ joinAll find [a] ps ↔
    a.Grows (patternVars ps) row ∧ ∀ p ∈ ps, ∃ t, p.resolve? row = some t ∧ 0 < n t := by
  have hprod : 0 < multiplicity n row ps ↔ ∀ p ∈ ps, ∃ t, p.resolve? row = some t ∧ 0 < n t := by
    unfold multiplicity
    rw [List.prod_pos_iff_forall_pos_nat, List.forall_mem_map]
    refine forall₂_congr fun p _ => ?_
    cases p.resolve? row with
    | none => simp
    | some t => simp
  constructor
  · intro h
    have hgrows := grows_of_mem_joinAll h
    rw [← List.count_pos_iff, count_joinAll hfind hgrows, hprod] at h
    exact ⟨hgrows, h⟩
  · rintro ⟨hgrows, h⟩
    rw [← List.count_pos_iff, count_joinAll hfind hgrows, hprod]
    exact h

end Pattern

end RdfStore
