import RdfStore.Query.Evaluate
import RdfStore.Proofs.Expr.Fatal

/-!
# Conditions and extensions on lists of rows

A list of rows is gone through until something is wrong with a row. So each of the three ways to
use an expression on a list is said in one equation: which row is the first that something is wrong
with, and what comes of the list if there is none (`filterRows_eq`, `leftJoinRows_eq`,
`extendRows_eq`).
-/

namespace RdfStore

/-! ## Results and faults -/

section Faults

variable {ε α : Type} {fault : Option ε} {a b : α} {e : ε}

/-- A result, unless there is a fault. -/
def unlessFault (fault : Option ε) (a : α) : Except ε α :=
  match fault with
  | some e => .error e
  | none => .ok a

@[simp] theorem unlessFault_some : unlessFault (some e) a = .error e := rfl

@[simp] theorem unlessFault_none : unlessFault (none : Option ε) a = .ok a := rfl

theorem unlessFault_eq_ok_iff : unlessFault fault a = .ok b ↔ fault = none ∧ a = b := by
  cases fault with
  | none => simp
  | some e => simp

theorem unlessFault_eq_error_iff : unlessFault fault a = .error e ↔ fault = some e := by
  cases fault with
  | none => simp
  | some e => simp

end Faults

/-! ## One row -/

/-- The fatal error of an expression for a row, if it has one. -/
def Expr.fatal? (now : DateTime) (e : Expr) (row : Row) : Option EvalError :=
  match e.evaluate row now with
  | .ok _ => none
  | .error err => if err.isRecoverable then none else some err

/-- Whether a row is kept by a condition: it is not by one that fails. -/
def Expr.keeps (now : DateTime) (e : Expr) (row : Row) : Bool :=
  match e.holds row now with
  | .ok b => b
  | .error _ => false

theorem Expr.fatal?_eq_some_iff {now : DateTime} {e : Expr} {row : Row} {err : EvalError} :
    e.fatal? now row = some err ↔ e.evaluate row now = .error err ∧ err.isRecoverable = false := by
  unfold fatal?
  cases e.evaluate row now with
  | ok v => simp
  | error err' =>
    simp only [Except.error.injEq]
    constructor
    · intro h
      split at h
      · exact nomatch h
      · next hfatal =>
        cases h
        exact ⟨rfl, by simpa using hfatal⟩
    · rintro ⟨rfl, hfatal⟩
      rw [hfatal]
      rfl

theorem Expr.passes_eq (now : DateTime) (e : Expr) (row : Row) :
    e.passes now row = unlessFault (e.fatal? now row) (e.keeps now row) := by
  unfold passes keeps fatal? holds Outcome.truth
  cases e.evaluate row now with
  | error err =>
    show (if err.isRecoverable then .ok false else .error err : Except EvalError Bool) =
      unlessFault (if err.isRecoverable then none else some err) false
    split
    · rfl
    · rfl
  | ok v =>
    show (match v.truth with
      | .ok b => .ok b
      | .error err => if err.isRecoverable then .ok false else .error err) =
        Except.ok (match v.truth with | .ok b => b | .error _ => false)
    cases h : v.truth with
    | ok b => rfl
    | error err =>
      have hrecoverable : err.isRecoverable = true :=
        EvalError.isRecoverable_of_isAboutValues (v.mild_truth err h)
      dsimp only
      rw [if_pos hrecoverable]

/-! ## Conditions -/

/-- A condition keeps the rows that pass it, unless it is fatal for one of them. -/
theorem filterRows_eq (now : DateTime) (e : Expr) (rows : List Row) : filterRows now e rows =
    unlessFault (rows.findSome? (e.fatal? now)) (rows.filter (e.keeps now)) := by
  induction rows with
  | nil => rfl
  | cons row rows ih =>
    unfold filterRows
    rw [e.passes_eq, ih, List.findSome?_cons, List.filter_cons]
    cases e.fatal? now row with
    | some err => rfl
    | none =>
      cases rows.findSome? (e.fatal? now) with
      | some err => rfl
      | none => rfl

/-- The fatal error of a condition for a row; where there is no condition there is none. -/
def conditionFatal? (now : DateTime) (condition : Option Expr) (row : Row) : Option EvalError :=
  condition.bind fun e => e.fatal? now row

theorem conditionFatal?_some (now : DateTime) (e : Expr) :
    conditionFatal? now (some e) = e.fatal? now := rfl

theorem findSome?_conditionFatal?_none (now : DateTime) (rows : List Row) :
    rows.findSome? (conditionFatal? now none) = none :=
  List.findSome?_eq_none_iff.2 fun _ _ => rfl

/-- Whether a row is kept by a condition, if there is one. -/
def conditionKeeps (now : DateTime) (condition : Option Expr) (row : Row) : Bool :=
  condition.all fun e => e.keeps now row

/-- The merges of a row, or the row itself if it has none. -/
def Row.optional (l : Row) (merges : List Row) : List Row :=
  if merges.isEmpty then [l] else merges

/-- The first row of an optional join comes with its merges, and the others come after it. -/
theorem leftJoinRows_cons (now : DateTime) (condition : Option Expr) (right : List Row) (l : Row)
    (left : List Row) : leftJoinRows now condition right (l :: left) = do
      let kept ← unlessFault ((l.mergeWith right).findSome? (conditionFatal? now condition))
        ((l.mergeWith right).filter (conditionKeeps now condition))
      let rest ← leftJoinRows now condition right left
      return l.optional kept ++ rest := by
  cases condition with
  | some e =>
    exact congrArg (· >>= fun kept => leftJoinRows now (some e) right left >>= fun rest =>
      pure (l.optional kept ++ rest)) (filterRows_eq now e (l.mergeWith right))
  | none =>
    have hkeeps : (l.mergeWith right).filter (conditionKeeps now none) = l.mergeWith right :=
      List.filter_eq_self.2 fun _ _ => rfl
    rw [findSome?_conditionFatal?_none, hkeeps]
    rfl

/-- An optional join keeps, for each row of the first list, its merges that pass the condition or
the row itself, unless the condition is fatal for a merge. -/
theorem leftJoinRows_eq (now : DateTime) (condition : Option Expr) (right left : List Row) :
    leftJoinRows now condition right left =
      unlessFault ((joinRows left right).findSome? (conditionFatal? now condition))
        (left.flatMap fun l => l.optional
          ((l.mergeWith right).filter (conditionKeeps now condition))) := by
  induction left with
  | nil => rfl
  | cons l left ih =>
    have hjoin : joinRows (l :: left) right = l.mergeWith right ++ joinRows left right := rfl
    rw [leftJoinRows_cons, ih, hjoin, List.findSome?_append, List.flatMap_cons]
    cases (l.mergeWith right).findSome? (conditionFatal? now condition) with
    | some err => rfl
    | none =>
      cases (joinRows left right).findSome? (conditionFatal? now condition) with
      | some err => rfl
      | none => rfl

/-! ## Extensions -/

/-- What is wrong with a row that is to be extended: that the variable is bound, or that the
expression is fatal. -/
def extendFault? (now : DateTime) (name : String) (e : Expr) (row : Row) : Option StoreError :=
  if row.contains name then some (.alreadyBound name) else (e.fatal? now row).map .eval

/-- The row with one more variable, or as it is if the expression has no value. -/
def Row.extended (now : DateTime) (name : String) (e : Expr) (row : Row) : Row :=
  match e.evaluate row now with
  | .ok v => row.insert name v.toTerm
  | .error _ => row

/-- An extension extends every row, unless something is wrong with one. -/
theorem extendRows_eq (now : DateTime) (name : String) (e : Expr) (rows : List Row) :
    extendRows now name e rows =
      unlessFault (rows.findSome? (extendFault? now name e)) (rows.map (Row.extended now name e)) := by
  induction rows with
  | nil => rfl
  | cons row rows ih =>
    unfold extendRows
    rw [List.findSome?_cons, List.map_cons, ih]
    unfold extendFault? Row.extended Expr.fatal?
    split
    · rfl
    · have hmap (row' : Row) (fault : Option StoreError) (rows' : List Row) :
          (unlessFault fault rows').map (row' :: ·) = unlessFault fault (row' :: rows') := by
        cases fault with
        | none => rfl
        | some err => rfl
      cases e.evaluate row now with
      | ok v => exact hmap _ _ _
      | error err =>
        dsimp only
        split
        · exact hmap _ _ _
        · rfl

end RdfStore
