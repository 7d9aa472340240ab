import RdfStore.Proofs.Pattern.Matching
import RdfStore.Proofs.Store.ReadOnly

/-!
# Bag semantics of basic patterns

The solutions of a list of triple patterns in a scope form a bag: how often a row is in it is
the product, over the patterns, of the number of graphs in scope that have the triple the pattern
stands for (`StoreM.solutions_basic`).
-/

namespace RdfStore

/-- The row binds the variables of the patterns and nothing else. -/
def Row.BindsJust (row : Row) (ps : List Pattern) : Prop :=
  ∀ x, x ∈ row.keys ↔ ∃ p ∈ ps, x ∈ p.varNames

/-- How many graphs in scope have the triple that a pattern stands for in a row. -/
def Session.support (s : Session) (row : Row) (p : Pattern) : Nat :=
  s.graphs.countP fun g => (p.resolve? row).any g.contains

/-- A row that grows from nothing binds just the variables. -/
theorem Row.grows_empty_iff {ps : List Pattern} {row : Row} :
    Row.Grows (patternVars ps) .empty row ↔ row.BindsJust ps := by
  have hvars (x : String) : (∃ p ∈ ps, x ∈ p.varNames) ↔ x ∈ patternVars ps := by
    simp only [Pattern.mem_varNames, patternVars, Set.mem_ofPred_eq]
  constructor
  · intro h x
    rw [h.binds, hvars]
    exact ⟨fun hx => hx.resolve_left SortedMap.not_mem_keys_empty, .inr⟩
  · intro h
    refine ⟨fun x t hx => ?_, fun x => ?_⟩
    · exact absurd (SortedMap.mem_keys_iff.2 ⟨t, hx⟩) SortedMap.not_mem_keys_empty
    · rw [h x, hvars]
      exact ⟨.inr, fun hx => hx.resolve_left SortedMap.not_mem_keys_empty⟩

namespace Session

variable {s : Session} {row : Row} {ps : List Pattern}

/-- The multiplicity of a row over the graphs in scope is the product of the supports. -/
theorem multiplicity_graphs (s : Session) (row : Row) (ps : List Pattern) :
    multiplicity (fun t => s.graphs.countP (·.contains t)) row ps =
      (ps.map (s.support row)).prod := by
  unfold multiplicity
  refine congrArg List.prod (List.map_congr_left fun p _ => ?_)
  unfold support
  cases p.resolve? row with
  | none => simp
  | some t => rfl

/-- A scope of its own has one graph. -/
theorem length_graphs (h : s.handle.isScoped = true) : s.graphs.length = 1 := by
  unfold Handle.isScoped at h
  unfold graphs
  split at h
  · exact nomatch h
  · next hscope =>
    cases hc : s.handle.current with
    | everything => exact absurd hc hscope
    | graph r => rfl
    | merged g => rfl

/-- With one graph in scope no support exceeds one, and so no product of supports does. -/
theorem prod_support_le_one (h : s.graphs.length = 1) : (ps.map (s.support row)).prod ≤ 1 := by
  have hone (p : Pattern) : s.support row p ≤ 1 := h ▸ List.countP_le_length
  induction ps with
  | nil => exact Nat.le_refl 1
  | cons p ps ih =>
    rw [List.map_cons, List.prod_cons]
    exact Nat.mul_le_mul (hone p) ih

end Session

namespace StoreM

theorem exec_solutions_basic (now : DateTime) (ps : List Pattern) (s : Session) :
    (solutions now (.basic ps)).exec s =
      (.ok (Pattern.joinAll (Selection.find s.graphs) [.empty] ps), s) := rfl

/-- **Bag semantics of basic patterns.** In every session and for every list of patterns, a row
that binds just their variables is a solution as often as the product of its supports, and there
are no other solutions. In a scope of one graph every solution is there once. -/
theorem solutions_basic (now : DateTime) (ps : List Pattern) (s : Session) :
    ∃ rows, (solutions now (.basic ps)).exec s = (.ok rows, s) ∧
      (∀ row, row.BindsJust ps → rows.count row = (ps.map (s.support row)).prod) ∧
      (∀ row ∈ rows, row.BindsJust ps) ∧
      (s.handle.isScoped = true → ∀ row ∈ rows, rows.count row = 1) := by
  refine ⟨_, exec_solutions_basic now ps s, ?_⟩
  have hcount (row : Row) (h : row.BindsJust ps) :
      (Pattern.joinAll (Selection.find s.graphs) [.empty] ps).count row =
        (ps.map (s.support row)).prod := by
    rw [Pattern.count_joinAll (Selection.gives_find s.graphs) (Row.grows_empty_iff.2 h),
      s.multiplicity_graphs]
  have hbinds (row : Row)
      (h : row ∈ Pattern.joinAll (Selection.find s.graphs) [.empty] ps) : row.BindsJust ps :=
    Row.grows_empty_iff.1 (Pattern.grows_of_mem_joinAll h)
  refine ⟨hcount, hbinds, fun hs row hrow => ?_⟩
  -- A row that is there counts at least once, and a product of supports is at most one.
  have hle : (ps.map (s.support row)).prod ≤ 1 :=
    Session.prod_support_le_one (Session.length_graphs hs)
  have hpos := List.count_pos_iff.2 hrow
  rw [hcount row (hbinds row hrow)] at hpos ⊢
  omega

end StoreM

end RdfStore
