import Mathlib.Logic.Function.Basic
import RdfStore.Store.Basic
import RdfStore.Proofs.Graph.History

/-!
# What a collection holds

Seen from outside, a collection gives a set of triples to each name in use
(`Collection.contents`). Inside, names lead to references and references to shared graphs. While
every name has a shared graph of its own (`Collection.Coherent`), each operation of a collection
is one update of this view.
-/

namespace RdfStore

namespace Collection

variable {c c' : Collection} {r r' : GraphRef} {g : Graph} {name name' : GraphName}

/-! ## References -/

/-- Every name in use leads to a shared graph, and no two names to the same. -/
structure Coherent (c : Collection) : Prop where
  /-- References lead somewhere. -/
  bounded : ∀ name r, c.ref? name = some r → r.index < c.shared.length
  /-- Names do not share graphs. -/
  separate : ∀ name name' r, c.ref? name = some r → c.ref? name' = some r → name = name'

/-- What a collection holds under each name in use. -/
def contents (c : Collection) (name : GraphName) : Option (Finset Triple) :=
  (c.graph? name).map Graph.members

theorem contents_of_ref? (h : c.ref? name = some r) :
    c.contents name = some (c.deref r).members := by
  unfold contents graph?
  rw [h]
  rfl

theorem contents_eq_none_iff : c.contents name = none ↔ c.ref? name = none := by
  unfold contents graph?
  cases c.ref? name with
  | none => simp
  | some r => simp

theorem coherent_of_ref? (h : ∀ name, c.ref? name = none) : c.Coherent where
  bounded name _ hr := nomatch (h name).symm.trans hr
  separate name _ _ hr := nomatch (h name).symm.trans hr

/-- What is not in use leads nowhere, in a collection without graphs. -/
theorem ref?_of_isEmpty (h : c.isEmpty = true) (name : GraphName) : c.ref? name = none := by
  have hnil : c.directory.entries = [] := List.isEmpty_iff.1 h
  unfold ref? SortedMap.find?
  rw [hnil]
  rfl

/-! ## Writing a graph -/

@[simp] theorem ref?_write : (c.write r g).ref? name = c.ref? name := rfl

theorem contents_write_eq_none_iff :
    (c.write r g).contents name = none ↔ c.contents name = none := by
  rw [contents_eq_none_iff, contents_eq_none_iff, ref?_write]

/-- What is written is read back where it was written, if there is such a place. -/
theorem deref_write : (c.write r g).deref r' =
    if r = r' ∧ r.index < c.shared.length then g else c.deref r' := by
  obtain ⟨i⟩ := r
  obtain ⟨j⟩ := r'
  simp only [deref, write, List.getElem?_set, GraphRef.mk.injEq]
  by_cases hij : i = j
  · subst hij
    by_cases hi : i < c.shared.length
    · simp [hi]
    · simp [hi]
  · simp [hij]

/-- A reference to nothing is to a graph without triples. -/
theorem index_lt_of_mem {t : Triple} (h : t ∈ (c.deref r).triples) :
    r.index < c.shared.length := by
  by_contra hr
  have hnone : c.shared[r.index]? = none := List.getElem?_eq_none (Nat.le_of_not_lt hr)
  unfold deref at h
  rw [hnone] at h
  exact SortedSet.not_mem_empty h

theorem Coherent.write (h : c.Coherent) (r : GraphRef) (g : Graph) : (c.write r g).Coherent where
  bounded name r' hr := by
    show r'.index < (c.shared.set r.index g).length
    rw [List.length_set]
    exact h.bounded name r' hr
  separate := h.separate

/-- Subscribers do not matter. -/
theorem Coherent.notify (h : c.Coherent) (e : GraphEvent) : (c.notify e).Coherent :=
  ⟨h.bounded, h.separate⟩

@[simp] theorem contents_notify {e : GraphEvent} : (c.notify e).contents = c.contents := rfl

theorem Coherent.contents_write (h : c.Coherent) (hr : c.ref? name = some r) (g : Graph) :
    (c.write r g).contents = Function.update c.contents name (some g.members) := by
  funext name'
  by_cases hname : name' = name
  · subst hname
    rw [Function.update_self, contents_of_ref? (c := c.write r g) hr, deref_write,
      if_pos ⟨rfl, h.bounded name' r hr⟩]
  · rw [Function.update_of_ne hname]
    cases hr' : c.ref? name' with
    | none =>
      have hnone := contents_eq_none_iff.2 hr'
      rw [hnone, contents_write_eq_none_iff, hnone]
    | some r' =>
      -- The other name has a graph of its own, which is not written.
      have hne : ¬ (r = r' ∧ r.index < c.shared.length) := by
        rintro ⟨rfl, -⟩
        exact hname (h.separate name' name r hr' hr)
      rw [contents_of_ref? hr', contents_of_ref? (c := c.write r g) hr', deref_write, if_neg hne]

/-! ## Coming and going -/

theorem ref?_enter : (c.enter g).2.ref? name =
    if name = g.name then some (c.enter g).1 else c.ref? name :=
  SortedMap.find?_insert_eq c.directory g.name name (c.enter g).1

/-- The newcomer is shared behind all graphs that were shared before. -/
theorem deref_enter : (c.enter g).2.deref r =
    if r = (c.enter g).1 then g else c.deref r := by
  obtain ⟨i⟩ := r
  show ((c.shared ++ [g])[i]?).getD (.empty none) =
    if (⟨i⟩ : GraphRef) = ⟨c.shared.length⟩ then g else (c.shared[i]?).getD (.empty none)
  simp only [GraphRef.mk.injEq]
  by_cases hi : i = c.shared.length
  · subst hi
    simp
  · rw [if_neg hi, List.getElem?_append]
    split
    · rfl
    · have hlt : c.shared.length < i := by omega
      have hnone : c.shared[i]? = none := List.getElem?_eq_none (Nat.le_of_lt hlt)
      have hnone' : [g][i - c.shared.length]? = none := List.getElem?_eq_none (by simp; omega)
      rw [hnone, hnone']

theorem Coherent.ne_enter (h : c.Coherent) (hr : c.ref? name = some r) : r ≠ (c.enter g).1 := by
  rintro rfl
  exact absurd (h.bounded name _ hr) (Nat.lt_irrefl _)

theorem Coherent.enter (h : c.Coherent) (g : Graph) : (c.enter g).2.Coherent where
  bounded name r hr := by
    show r.index < (c.shared ++ [g]).length
    rw [List.length_append, List.length_singleton]
    rw [ref?_enter] at hr
    split at hr
    · cases hr
      exact Nat.lt_succ_self _
    · exact Nat.lt_succ_of_lt (h.bounded name r hr)
  separate name name' r hr hr' := by
    rw [ref?_enter] at hr hr'
    split at hr
    · next hname =>
      split at hr'
      · next hname' => rw [hname, hname']
      · cases hr
        exact absurd rfl (h.ne_enter hr')
    · split at hr'
      · cases hr'
        exact absurd rfl (h.ne_enter hr)
      · exact h.separate name name' r hr hr'

theorem Coherent.contents_enter (h : c.Coherent) (g : Graph) :
    (c.enter g).2.contents = Function.update c.contents g.name (some g.members) := by
  funext name
  by_cases hname : name = g.name
  · have hr : (c.enter g).2.ref? name = some (c.enter g).1 := by rw [ref?_enter, if_pos hname]
    rw [contents_of_ref? hr, deref_enter, if_pos rfl, hname, Function.update_self]
  · have hr : (c.enter g).2.ref? name = c.ref? name := by rw [ref?_enter, if_neg hname]
    rw [Function.update_of_ne hname]
    cases hr' : c.ref? name with
    | none => rw [contents_eq_none_iff.2 hr', contents_eq_none_iff.2 (hr.trans hr')]
    | some r =>
      rw [contents_of_ref? hr', contents_of_ref? (hr.trans hr'), deref_enter,
        if_neg (h.ne_enter hr')]

theorem add_of_none {merge : Bool} (h : c.ref? g.name = none) :
    c.add g merge = .ok (c.enter g) := by
  unfold add
  rw [h]

theorem add_of_some {merge : Bool} (h : c.ref? g.name = some r) : c.add g merge =
    if merge then .ok (r, (c.write r ((c.deref r).merge g).1).notify (.merged g.name))
    else .error ⟨g.name⟩ := by
  unfold add
  rw [h]

/-- The triples of a graph that is added come to those that are there under its name. -/
theorem Coherent.add (h : c.Coherent) {merge : Bool} (hadd : c.add g merge = .ok (r, c')) :
    c'.Coherent ∧ c'.contents = Function.update c.contents g.name
      (some ((c.contents g.name).getD ∅ ∪ g.members)) := by
  cases hr : c.ref? g.name with
  | none =>
    rw [add_of_none hr, Except.ok.injEq] at hadd
    obtain rfl : (c.enter g).2 = c' := congrArg Prod.snd hadd
    refine ⟨h.enter g, ?_⟩
    rw [h.contents_enter, contents_eq_none_iff.2 hr, Option.getD_none, Finset.empty_union]
  | some r' =>
    rw [add_of_some hr] at hadd
    split at hadd
    · rw [Except.ok.injEq] at hadd
      obtain rfl := congrArg Prod.snd hadd
      refine ⟨(h.write r' _).notify _, ?_⟩
      rw [contents_notify, h.contents_write hr, contents_of_ref? hr, Option.getD_some]
      exact congrArg (fun S => Function.update c.contents g.name (some S)) Graph.members_assertAll
    · exact nomatch hadd

/-- A graph is refused if there is one of its name and it may not be merged. -/
theorem add_eq_error_iff {merge : Bool} {e : GraphExists} : c.add g merge = .error e ↔
    c.contents g.name ≠ none ∧ merge = false ∧ e = ⟨g.name⟩ := by
  rw [ne_eq, contents_eq_none_iff]
  cases hr : c.ref? g.name with
  | none => simp [add_of_none hr]
  | some r => cases merge <;> simp [add_of_some hr, eq_comm]

theorem getOrCreate_of_none (h : c.ref? name = none) :
    c.getOrCreate name = c.enter (.empty name) := by
  unfold getOrCreate
  rw [h]

theorem getOrCreate_of_some (h : c.ref? name = some r) : c.getOrCreate name = (r, c) := by
  unfold getOrCreate
  rw [h]

/-- A graph that is asked for is there afterwards, and no triple comes or goes. -/
theorem Coherent.getOrCreate (h : c.Coherent) (name : GraphName) :
    (c.getOrCreate name).2.Coherent ∧
      (c.getOrCreate name).2.ref? name = some (c.getOrCreate name).1 ∧
      (c.getOrCreate name).2.contents =
        Function.update c.contents name (some ((c.contents name).getD ∅)) := by
  cases hr : c.ref? name with
  | none =>
    rw [getOrCreate_of_none hr]
    refine ⟨h.enter _, ref?_enter.trans (if_pos rfl), ?_⟩
    rw [h.contents_enter, contents_eq_none_iff.2 hr]
    rfl
  | some r =>
    rw [getOrCreate_of_some hr]
    refine ⟨h, hr, ?_⟩
    rw [contents_of_ref? hr, Option.getD_some, ← contents_of_ref? hr, Function.update_eq_self]

theorem remove_of_none (h : c.ref? name = none) : c.remove name = (none, c) := by
  unfold remove
  rw [h]

theorem remove_of_some (h : c.ref? name = some r) : c.remove name =
    (some r, { c with directory := c.directory.erase name }.notify (.removed name)) := by
  unfold remove
  rw [h]

theorem ref?_remove : (c.remove name).2.ref? name' =
    if name' = name then none else c.ref? name' := by
  cases hr : c.ref? name with
  | none =>
    rw [remove_of_none hr]
    split
    · next hname => rw [hname, hr]
    · rfl
  | some r =>
    rw [remove_of_some hr]
    exact SortedMap.find?_erase_eq c.directory name name'

theorem shared_remove : (c.remove name).2.shared = c.shared := by
  cases hr : c.ref? name with
  | none => rw [remove_of_none hr]
  | some r =>
    rw [remove_of_some hr]
    rfl

theorem Coherent.remove (h : c.Coherent) (name : GraphName) : (c.remove name).2.Coherent where
  bounded name' r hr := by
    rw [ref?_remove] at hr
    split at hr
    · exact nomatch hr
    · rw [shared_remove]
      exact h.bounded name' r hr
  separate name' name'' r hr hr' := by
    rw [ref?_remove] at hr hr'
    split at hr
    · exact nomatch hr
    · split at hr'
      · exact nomatch hr'
      · exact h.separate name' name'' r hr hr'

theorem contents_remove (c : Collection) (name : GraphName) :
    (c.remove name).2.contents = Function.update c.contents name none := by
  funext name'
  by_cases hname : name' = name
  · rw [hname, Function.update_self, contents_eq_none_iff, ref?_remove, if_pos rfl]
  · have hr : (c.remove name).2.ref? name' = c.ref? name' := by rw [ref?_remove, if_neg hname]
    have hderef (r : GraphRef) : (c.remove name).2.deref r = c.deref r := by
      unfold deref
      rw [shared_remove]
    rw [Function.update_of_ne hname]
    unfold contents graph?
    rw [hr]
    exact congrArg _ (congrArg (Option.map · _) (funext hderef))

/-! ## All triples -/

/-- The triples of all graphs. -/
def everything (c : Collection) : Set Triple :=
  {t | t ∈ Selection.triples (Scope.everything.graphs c)}

theorem mem_refs : r ∈ c.refs ↔ ∃ name, c.ref? name = some r := by
  unfold refs SortedMap.values ref?
  simp only [List.mem_map, SortedMap.find?_eq_some_iff]
  constructor
  · rintro ⟨e, he, rfl⟩
    exact ⟨e.1, he⟩
  · rintro ⟨name, h⟩
    exact ⟨(name, r), h, rfl⟩

theorem mem_everything {t : Triple} :
    t ∈ c.everything ↔ ∃ name S, c.contents name = some S ∧ t ∈ S := by
  show t ∈ (c.refs.map c.deref).flatMap (fun g => g.triples.toList) ↔ _
  simp only [List.mem_flatMap, List.mem_map, mem_refs]
  constructor
  · rintro ⟨_, ⟨r, ⟨name, hr⟩, rfl⟩, ht⟩
    exact ⟨name, _, contents_of_ref? hr, Graph.mem_members.2 ht⟩
  · rintro ⟨name, S, hS, ht⟩
    cases hr : c.ref? name with
    | none => exact nomatch (contents_eq_none_iff.2 hr).symm.trans hS
    | some r =>
      obtain rfl := Option.some.inj ((contents_of_ref? hr).symm.trans hS)
      exact ⟨_, ⟨r, ⟨name, hr⟩, rfl⟩, Graph.mem_members.1 ht⟩

/-- Where triples come in under a name, all triples are those from before and these. -/
theorem everything_of_update {T : Finset Triple}
    (h : c'.contents = Function.update c.contents name (some ((c.contents name).getD ∅ ∪ T))) :
    c'.everything = c.everything ∪ T := by
  ext t
  rw [Set.mem_union, Finset.mem_coe, mem_everything, mem_everything]
  constructor
  · rintro ⟨name', S, hS, ht⟩
    rw [h] at hS
    by_cases hname : name' = name
    · rw [hname, Function.update_self, Option.some.injEq] at hS
      rw [← hS, Finset.mem_union] at ht
      cases hc : c.contents name with
      | none =>
        rw [hc, Option.getD_none] at ht
        exact ht.elim (fun h => absurd h (Finset.notMem_empty t)) .inr
      | some S' =>
        rw [hc, Option.getD_some] at ht
        exact ht.imp (fun h => ⟨name, S', hc, h⟩) id
    · rw [Function.update_of_ne hname] at hS
      exact .inl ⟨name', S, hS, ht⟩
  · rintro (⟨name', S, hS, ht⟩ | ht)
    · by_cases hname : name' = name
      · refine ⟨name, _, by rw [h, Function.update_self], ?_⟩
        rw [← hname, hS, Option.getD_some]
        exact Finset.mem_union_left T ht
      · exact ⟨name', S, by rw [h, Function.update_of_ne hname, hS], ht⟩
    · exact ⟨name, _, by rw [h, Function.update_self], Finset.mem_union_right _ ht⟩

end Collection

end RdfStore
