import RdfStore.Proofs.Query.Solving
import RdfStore.Proofs.Query.JoinAlgebra

/-!
# Optional joins

An optional join goes through the rows of two lists, judges every merge by the condition and
remembers whether a row has been matched. What comes of it is said without that loop: it is the
join under the condition with the unmatched rows of the first list, and it fails where that join
fails (`Session.solve_leftJoin_perm`).
-/

namespace RdfStore

open StoreM

variable {now : DateTime} {condition : Option Expr} {l m row : Row} {left right : List Row}

/-! ## Rows that meet -/

/-- A row passes a condition just if it is kept by it. -/
theorem Expr.passes_eq_ok_true_iff {e : Expr} :
    e.passes now row = .ok true ↔ e.keeps now row = true := by
  unfold passes keeps
  cases e.holds row now with
  | ok b => simp
  | error err =>
    dsimp only
    split <;> simp

theorem conditionKeeps_iff :
    conditionKeeps now condition row = true ↔ ∀ e ∈ condition, e.passes now row = .ok true := by
  cases condition with
  | none => simp [conditionKeeps]
  | some e => simp [conditionKeeps, Expr.passes_eq_ok_true_iff]

namespace Row

/-- Two rows are compatible, and their merge passes the condition, if there is one. -/
def Meets (now : DateTime) (condition : Option Expr) (l r : Row) : Prop :=
  ∃ m, l.merge? r = some m ∧ ∀ e ∈ condition, e.passes now m = .ok true

theorem meets_iff {r : Row} :
    l.Meets now condition r ↔ (l.merge? r).any (conditionKeeps now condition) = true := by
  simp only [Meets, Option.any_eq_true, conditionKeeps_iff]

instance (r : Row) : Decidable (l.Meets now condition r) := decidable_of_iff' _ meets_iff

/-- No merge is kept just if the row meets none of the others. -/
theorem filter_mergeWith_eq_nil_iff :
    (l.mergeWith right).filter (conditionKeeps now condition) = [] ↔
      ∀ r ∈ right, ¬ l.Meets now condition r := by
  simp only [List.filter_eq_nil_iff, mergeWith, List.mem_filterMap, meets_iff, Option.any_eq_true]
  constructor
  · rintro h r hr ⟨m, hm, hkeeps⟩
    exact h m ⟨r, hr, hm⟩ hkeeps
  · rintro h m ⟨r, hr, hm⟩ hkeeps
    exact h r hr ⟨m, hm, hkeeps⟩

/-- The merges come first, and the row itself only where there are none. -/
theorem optional_eq_append {merges : List Row} :
    l.optional merges = merges ++ if merges = [] then [l] else [] := by
  cases merges with
  | nil => rfl
  | cons m ms => rw [if_neg (List.cons_ne_nil m ms), List.append_nil]; rfl

end Row

/-! ## Lists of rows -/

theorem flatMap_ite_singleton {α : Type} (p : α → Prop) [DecidablePred p] (xs : List α) :
    (xs.flatMap fun x => if p x then [x] else []) = xs.filter p := by
  induction xs with
  | nil => rfl
  | cons x xs ih =>
    rw [List.flatMap_cons, ih, List.filter_cons]
    by_cases h : p x
    · simp [h]
    · simp [h]

/-- Row by row, an optional join has the kept merges or the row; all in all, it has the kept rows
of the join and the rows that meet none. -/
theorem flatMap_optional_perm (now : DateTime) (condition : Option Expr) (left right : List Row) :
    (left.flatMap fun l => l.optional
      ((l.mergeWith right).filter (conditionKeeps now condition))).Perm
      ((joinRows left right).filter (conditionKeeps now condition) ++
        left.filter fun l => ∀ r ∈ right, ¬ l.Meets now condition r) := by
  have hunmatched (l : Row) :
      (if (l.mergeWith right).filter (conditionKeeps now condition) = [] then [l] else []) =
        if ∀ r ∈ right, ¬ l.Meets now condition r then [l] else [] :=
    if_congr Row.filter_mergeWith_eq_nil_iff rfl rfl
  have hjoin : (joinRows left right).filter (conditionKeeps now condition) =
      left.flatMap fun l => (l.mergeWith right).filter (conditionKeeps now condition) :=
    List.filter_flatMap
  simp only [Row.optional_eq_append, hunmatched]
  rw [hjoin, ← flatMap_ite_singleton]
  exact (List.flatMap_append_perm left _ _).symm

/-! ## Patterns -/

/-- The pattern under a condition, if there is one. -/
def GraphPattern.filtered (condition : Option Expr) (p : GraphPattern) : GraphPattern :=
  match condition with
  | some e => .filter e p
  | none => p

namespace Session

variable {s : Session} {p q : GraphPattern}

/-- A join under a condition has the rows that are kept, unless the condition is fatal for one. -/
theorem solve_filtered_join (hp : s.solve now p = .ok left) (hq : s.solve now q = .ok right) :
    s.solve now (.filtered condition (.join p q)) =
      unlessFault (((joinRows left right).findSome? (conditionFatal? now condition)).map .eval)
        ((joinRows left right).filter (conditionKeeps now condition)) := by
  have hjoin : s.solve now (.join p q) = .ok (joinRows left right) := by
    rw [solve_join, hp, hq]
    rfl
  cases condition with
  | none =>
    have hkeeps : (joinRows left right).filter (conditionKeeps now none) = joinRows left right :=
      List.filter_eq_self.2 fun _ _ => rfl
    rw [findSome?_conditionFatal?_none, hkeeps]
    exact hjoin
  | some e =>
    show s.solve now (.filter e (.join p q)) = _
    rw [solve_filter, hjoin]
    rfl

/-- **An optional join is the join with the unmatched rows.** Of two patterns that have solutions,
the optional join under a condition, or under none, fails just if the join under the condition
does, and with the same error. Otherwise it has, up to their order, the rows of that join and, as
often as they occur, those rows of the first pattern that meet no row of the second. -/
theorem solve_leftJoin_perm (now : DateTime) (s : Session) (p q : GraphPattern)
    (condition : Option Expr) {left right : List Row} (hp : s.solve now p = .ok left)
    (hq : s.solve now q = .ok right) :
    (∀ e, s.solve now (.leftJoin p q condition) = .error e ↔
      s.solve now (.filtered condition (.join p q)) = .error e) ∧
    ∀ joined, s.solve now (.filtered condition (.join p q)) = .ok joined →
      ∃ rows, s.solve now (.leftJoin p q condition) = .ok rows ∧
        rows.Perm (joined ++ left.filter fun l => ∀ r ∈ right, ¬ l.Meets now condition r) := by
  have hleftJoin : s.solve now (.leftJoin p q condition) =
      unlessFault (((joinRows left right).findSome? (conditionFatal? now condition)).map .eval)
        (left.flatMap fun l => l.optional
          ((l.mergeWith right).filter (conditionKeeps now condition))) := by
    rw [solve_leftJoin, hp, hq]
    rfl
  rw [hleftJoin, solve_filtered_join hp hq]
  refine ⟨fun e => ?_, fun joined hjoined => ?_⟩
  · rw [unlessFault_eq_error_iff, unlessFault_eq_error_iff]
  · obtain ⟨hfault, rfl⟩ := unlessFault_eq_ok_iff.1 hjoined
    exact ⟨_, unlessFault_eq_ok_iff.2 ⟨hfault, rfl⟩, flatMap_optional_perm now condition left right⟩

/-- Children with grandchildren where the grandchild is a given one: one child has it and one is
left as it is. Under a condition that is fatal both joins fail alike. -/
theorem solve_leftJoin_perm_family :
    let now : DateTime := ⟨2024, 1, 1, 12, 0, 0, 0, 0⟩
    let p : GraphPattern := .basic [childPattern "x" "y"]
    let q : GraphPattern := .basic [childPattern "y" "z"]
    let isCid : Expr := .call .sameTerm [.var "z", .const (.iri ⟨"urn:cid"⟩)]
    let missing : Expr := .call (.unknown ⟨"urn:missing"⟩) []
    ∃ left right joined rows, familySession.solve now p = .ok left ∧
      familySession.solve now q = .ok right ∧
      familySession.solve now (.filter isCid (.join p q)) = .ok joined ∧
      familySession.solve now (.leftJoin p q (some isCid)) = .ok rows ∧
      rows.Perm (joined ++ left.filter fun l => ∀ r ∈ right, ¬ l.Meets now (some isCid) r) ∧
      joined.length = 1 ∧ rows.length = 2 ∧
      ∃ e, familySession.solve now (.leftJoin p q (some missing)) = .error e ∧
        familySession.solve now (.filter missing (.join p q)) = .error e := by
  intro now p q isCid missing
  obtain ⟨-, h⟩ := solve_leftJoin_perm now familySession p q (some isCid) rfl rfl
  obtain ⟨rows, hrows, hperm⟩ := h _ rfl
  have herror := (solve_leftJoin_perm now familySession p q (some missing) rfl rfl).1
  refine ⟨_, _, _, rows, rfl, rfl, rfl, hrows, hperm, ?_, ?_, _, (herror _).2 rfl, rfl⟩
  · decide +kernel
  · rw [hperm.length_eq]
    decide +kernel

end Session

end RdfStore
