import RdfStore.Row.Basic
import RdfStore.Proofs.Pattern.Matching

/-!
# Merging rows

Rows are partial maps. The merge of two rows is the least row of which both are a part
(`Row.merge?_eq_some_iff`), and there is one if they agree where both bind a name. So it makes no
difference which row is gone through, and in which order three rows are merged
(`Row.merge?_comm`, `Row.merge?_assoc`).
-/

namespace RdfStore.Row

variable {X Y : Set String} {a b c d : Row}

/-! ## Parts and compatible rows -/

/-- The second row has the bindings of the first. -/
def IsPart (a b : Row) : Prop := ∀ x t, a.find? x = some t → b.find? x = some t

theorem IsPart.trans (h : a.IsPart b) (k : b.IsPart c) : a.IsPart c :=
  fun x t hx => k x t (h x t hx)

theorem IsPart.mem_keys (h : a.IsPart b) {x : String} (hx : x ∈ a.keys) : x ∈ b.keys := by
  obtain ⟨t, ht⟩ := SortedMap.mem_keys_iff.1 hx
  exact SortedMap.mem_keys_iff.2 ⟨t, h x t ht⟩

/-- Rows are compatible if they agree where both bind a name. -/
theorem compatible_iff : a.compatible b = true ↔
    ∀ x s t, a.find? x = some s → b.find? x = some t → s = t := by
  simp only [compatible, List.all_eq_true]
  constructor
  · intro h x s t hs ht
    have hentry := h (x, s) (SortedMap.find?_eq_some_iff.1 hs)
    rw [ht] at hentry
    exact (of_decide_eq_true hentry).symm
  · rintro h ⟨x, s⟩ he
    have hs := SortedMap.find?_eq_some_iff.2 he
    cases ht : b.find? x with
    | none => rfl
    | some t => exact decide_eq_true (h x s t hs ht).symm

/-- It does not matter whose bindings are gone through. -/
theorem compatible_comm (a b : Row) : a.compatible b = b.compatible a := by
  rw [Bool.eq_iff_iff, compatible_iff, compatible_iff]
  exact ⟨fun h x s t hs ht => (h x t s ht hs).symm, fun h x s t hs ht => (h x t s ht hs).symm⟩

/-- Parts of one row are compatible. -/
theorem compatible_of_isPart (ha : a.IsPart c) (hb : b.IsPart c) : a.compatible b = true := by
  rw [compatible_iff]
  intro x s t hs ht
  exact Option.some.inj ((ha x s hs).symm.trans (hb x t ht))

/-! ## The merge of two rows -/

/-- Adding the entries of a list keeps what is bound and takes the first entry for what is not. -/
theorem find?_addMissing (l : List (String × Term)) (a : Row) (x : String) :
    (l.foldl (fun r e => if r.contains e.1 then r else r.insert e.1 e.2) a).find? x =
      (a.find? x).or (findSorted x l) := by
  induction l generalizing a with
  | nil =>
    unfold findSorted
    rw [List.foldl_nil, Option.or_none]
  | cons e l ih =>
    obtain ⟨y, t⟩ := e
    have hstep : (if a.contains y then a else a.insert y t).find? x =
        (a.find? x).or (if KeyOrder.cmp x y = .eq then some t else none) := by
      cases hy : a.find? y with
      | none =>
        have hc : ¬ a.contains y = true := by simp [SortedMap.contains, hy]
        rw [if_neg hc, SortedMap.find?_insert]
        split
        · next he => rw [KeyOrder.eq_of_cmp he, hy, Option.none_or]
        · rw [Option.or_none]
      | some u =>
        have hc : a.contains y = true := by simp [SortedMap.contains, hy]
        rw [if_pos hc]
        split
        · next he => rw [KeyOrder.eq_of_cmp he, hy, Option.some_or]
        · rw [Option.or_none]
    have hhead : (if KeyOrder.cmp x y = .eq then some t else none).or (findSorted x l) =
        findSorted x ((y, t) :: l) := by
      conv_rhs => unfold findSorted
      split
      · rw [Option.some_or]
      · rw [Option.none_or]
    rw [List.foldl_cons, ih, hstep, Option.or_assoc, hhead]

/-- Compatible rows merge into the row that has what the first one binds, and else what the second
one binds. -/
theorem merge?_eq_some : a.merge? b = some c ↔
    a.compatible b = true ∧ ∀ x, c.find? x = (a.find? x).or (b.find? x) := by
  unfold merge?
  split
  · next h =>
    rw [Option.some.injEq]
    constructor
    · rintro rfl
      exact ⟨h, find?_addMissing b.entries a⟩
    · rintro ⟨-, hc⟩
      exact SortedMap.ext_find? fun x => (find?_addMissing b.entries a x).trans (hc x).symm
  · next h =>
    constructor
    · exact nofun
    · exact fun hc => absurd hc.1 h

/-- **Merges are least upper bounds.** The merge of two rows is the row that has both as a part
and binds nothing else. -/
theorem merge?_eq_some_iff : a.merge? b = some c ↔
    a.IsPart c ∧ b.IsPart c ∧ ∀ x ∈ c.keys, x ∈ a.keys ∨ x ∈ b.keys := by
  rw [merge?_eq_some]
  constructor
  · rintro ⟨hab, hc⟩
    refine ⟨fun x t hx => ?_, fun x t hx => ?_, fun x hx => ?_⟩
    · rw [hc, hx, Option.some_or]
    · rw [hc, hx]
      cases hax : a.find? x with
      | none => rw [Option.none_or]
      | some s => rw [Option.some_or, compatible_iff.1 hab x s t hax hx]
    · obtain ⟨t, ht⟩ := SortedMap.mem_keys_iff.1 hx
      rw [hc, Option.or_eq_some_iff] at ht
      rcases ht with ht | ⟨-, ht⟩
      · exact .inl (SortedMap.mem_keys_iff.2 ⟨t, ht⟩)
      · exact .inr (SortedMap.mem_keys_iff.2 ⟨t, ht⟩)
  · rintro ⟨ha, hb, hkeys⟩
    refine ⟨compatible_of_isPart ha hb, fun x => ?_⟩
    cases hax : a.find? x with
    | some s => rw [ha x s hax, Option.some_or]
    | none =>
      rw [Option.none_or]
      cases hbx : b.find? x with
      | some t => exact hb x t hbx
      | none =>
        refine SortedMap.find?_eq_none_iff.2 fun hx => ?_
        exact (hkeys x hx).elim (SortedMap.find?_eq_none_iff.1 hax)
          (SortedMap.find?_eq_none_iff.1 hbx)

/-- Compatible rows have a merge. -/
theorem exists_merge? (h : a.compatible b = true) : ∃ c, a.merge? b = some c := by
  unfold merge?
  rw [if_pos h]
  exact ⟨_, rfl⟩

/-- Binding a name to a term is merging with the row that binds nothing else. -/
theorem bind?_eq_merge? (x : String) (t : Term) (a : Row) :
    (Slot.var x).bind? t a = a.merge? (SortedMap.empty.insert x t) := by
  have hkeys (y : String) : y ∈ (SortedMap.empty.insert x t : Row).keys ↔ y = x := by
    rw [SortedMap.mem_keys_iff, SortedMap.find?_insert_eq, SortedMap.find?_empty]
    split
    · next hy => exact iff_of_true ⟨t, rfl⟩ hy
    · next hy => exact iff_of_false nofun hy
  have hpart (c : Row) : IsPart (SortedMap.empty.insert x t) c ↔ c.find? x = some t := by
    constructor
    · exact fun h => h x t SortedMap.find?_insert_self
    · intro h y u hy
      rw [SortedMap.find?_insert_eq, SortedMap.find?_empty] at hy
      split at hy
      · next he => rw [he, h, hy]
      · exact nomatch hy
  refine Option.ext fun c => ?_
  rw [Slot.bind?_eq_some_iff, merge?_eq_some_iff, hpart]
  constructor
  · rintro ⟨hgrows, ht⟩
    exact ⟨hgrows.keeps, ht, fun y hy => ((hgrows.binds y).1 hy).imp_right (hkeys y).2⟩
  · rintro ⟨ha, ht, hc⟩
    refine ⟨⟨ha, fun y => ⟨fun hy => (hc y hy).imp_right (hkeys y).1, ?_⟩⟩, ht⟩
    rintro (hy | rfl)
    · exact ha.mem_keys hy
    · exact SortedMap.mem_keys_iff.2 ⟨t, ht⟩

/-- Of two rows that bind sets of names, the merge is the row that grows from the first by the
names of the second, and from the second by the names of the first. -/
theorem merge?_eq_some_iff_grows (ha : Grows X .empty a) (hb : Grows Y .empty b) :
    a.merge? b = some c ↔ Grows Y a c ∧ Grows X b c := by
  have hX (x : String) : x ∈ a.keys ↔ x ∈ X := by
    rw [ha.binds, or_iff_right SortedMap.not_mem_keys_empty]
  have hY (x : String) : x ∈ b.keys ↔ x ∈ Y := by
    rw [hb.binds, or_iff_right SortedMap.not_mem_keys_empty]
  rw [merge?_eq_some_iff]
  constructor
  · rintro ⟨hac, hbc, hkeys⟩
    have hiff (x : String) : x ∈ c.keys ↔ x ∈ a.keys ∨ x ∈ b.keys :=
      ⟨hkeys x, fun hx => hx.elim hac.mem_keys hbc.mem_keys⟩
    refine ⟨⟨hac, fun x => ?_⟩, ⟨hbc, fun x => ?_⟩⟩
    · rw [hiff, hY]
    · rw [hiff, hX, or_comm]
  · rintro ⟨hac, hbc⟩
    refine ⟨hac.keeps, hbc.keeps, fun x hx => ?_⟩
    rw [hY, ← hac.binds]
    exact hx

/-! ## Laws -/

theorem merge?_comm (a b : Row) : a.merge? b = b.merge? a := by
  refine Option.ext fun c => ?_
  rw [merge?_eq_some_iff, merge?_eq_some_iff]
  constructor
  · exact fun ⟨ha, hb, h⟩ => ⟨hb, ha, fun x hx => (h x hx).symm⟩
  · exact fun ⟨hb, ha, h⟩ => ⟨ha, hb, fun x hx => (h x hx).symm⟩

theorem merge?_empty (a : Row) : a.merge? .empty = some a := by
  rw [merge?_eq_some_iff]
  exact ⟨fun _ _ h => h, nofun, fun _ hx => .inl hx⟩

theorem empty_merge? (a : Row) : merge? .empty a = some a := by
  rw [merge?_comm, merge?_empty]

/-- The merge of three rows is the row that has all three as a part and binds nothing else. -/
theorem merge?_bind_eq_some_iff : (b.merge? c).bind (a.merge? ·) = some d ↔
    a.IsPart d ∧ b.IsPart d ∧ c.IsPart d ∧
      ∀ x ∈ d.keys, x ∈ a.keys ∨ x ∈ b.keys ∨ x ∈ c.keys := by
  simp only [Option.bind_eq_some_iff]
  constructor
  · rintro ⟨e, hbc, had⟩
    obtain ⟨hb, hc, he⟩ := merge?_eq_some_iff.1 hbc
    obtain ⟨ha, hed, hd⟩ := merge?_eq_some_iff.1 had
    exact ⟨ha, hb.trans hed, hc.trans hed, fun x hx => (hd x hx).imp_right (he x)⟩
  · rintro ⟨ha, hb, hc, hd⟩
    obtain ⟨e, hbc⟩ := exists_merge? (compatible_of_isPart hb hc)
    obtain ⟨hbe, hce, -⟩ := merge?_eq_some_iff.1 hbc
    -- The merge of the second and third row is a part of any row that has both as a part.
    have hed : e.IsPart d := by
      intro x t hx
      rw [(merge?_eq_some.1 hbc).2, Option.or_eq_some_iff] at hx
      exact hx.elim (hb x t) fun h => hc x t h.2
    refine ⟨e, hbc, merge?_eq_some_iff.2 ⟨ha, hed, fun x hx => ?_⟩⟩
    exact (hd x hx).imp_right fun h => h.elim hbe.mem_keys hce.mem_keys

/-- **Merging is associative**, and one side is defined if the other is. -/
theorem merge?_assoc (a b c : Row) :
    (b.merge? c).bind (a.merge? ·) = (a.merge? b).bind (·.merge? c) := by
  -- Up to the order of merges, the right side is the left side with the outer rows exchanged.
  have hswap : (a.merge? b).bind (·.merge? c) = (b.merge? a).bind (c.merge? ·) := by
    rw [merge?_comm a b]
    exact congrArg _ (funext fun e => merge?_comm e c)
  refine Option.ext fun d => ?_
  have hkeys (x : String) : x ∈ a.keys ∨ x ∈ b.keys ∨ x ∈ c.keys ↔
      x ∈ c.keys ∨ x ∈ b.keys ∨ x ∈ a.keys := by tauto
  rw [hswap, merge?_bind_eq_some_iff, merge?_bind_eq_some_iff]
  simp only [hkeys]
  tauto

end RdfStore.Row
