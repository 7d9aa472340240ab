import RdfStore.Proofs.Expr.Visiting

/-!
# Connectives of any shape

A connective takes two sides, so a condition with many members is a tree of calls. What it comes to
does not depend on the shape of the tree, only on the members from left to right: the first fatal
error counts most, then the decisive truth, then the first other error (`Outcome.verdict`). Two
sides are joined by the same weights (`Outcome.join_eq_ite`). So joining is associative, and the
verdict on a list is joined from the verdicts on its two halves (`Outcome.verdict_append`). Negation
turns each connective into the other, errors included (`Expr.connectives_regroup`).
-/

namespace RdfStore

namespace Outcome

variable {d : Bool} {o l r other : Except EvalError Bool} {n : ℕ}
  {os : List (Except EvalError Bool)}

/-! ## Weights -/

/-- How much a truth counts where one of the two truths is decisive. A fatal error counts most, then
the decisive truth, then any other error; the other truth does not count. -/
def weight (decisive : Bool) : Except EvalError Bool → ℕ
  | .error err => if err.isRecoverable then 1 else 3
  | .ok b => if b = decisive then 2 else 0

theorem weight_le_three (d : Bool) (o : Except EvalError Bool) : weight d o ≤ 3 := by
  unfold weight
  repeat' split
  all_goals omega

theorem weight_eq_zero_iff : weight d o = 0 ↔ o = .ok !d := by
  cases o with
  | ok b => cases b <;> cases d <;> simp [weight]
  | error err => cases h : err.isRecoverable <;> simp [weight, h]

/-- Of two sides the one that counts more is taken, and the left one if both count alike. -/
theorem join_eq_ite (d : Bool) (l r : Except EvalError Bool) :
    join d l r = if weight d l < weight d r then r else l := by
  cases l with
  | ok a =>
    cases r with
    | ok b => cases a <;> cases b <;> cases d <;> rfl
    | error err => cases a <;> cases d <;> cases h : err.isRecoverable <;> simp [join, weight, h]
  | error err =>
    cases r with
    | ok b => cases b <;> cases d <;> cases h : err.isRecoverable <;> simp [join, weight, h]
    | error err' =>
      cases h : err.isRecoverable <;> cases h' : err'.isRecoverable <;> simp [join, weight, h, h']

theorem join_eq_left (h : weight d r ≤ weight d l) : join d l r = l := by
  rw [join_eq_ite, if_neg (Nat.not_lt.2 h)]

theorem join_eq_right (h : weight d l < weight d r) : join d l r = r := by
  rw [join_eq_ite, if_pos h]

theorem join_assoc (d : Bool) (a b c : Except EvalError Bool) :
    join d (join d a b) c = join d a (join d b c) := by
  simp only [join_eq_ite]
  grind

theorem join_neutral_left (d : Bool) (o : Except EvalError Bool) : join d (.ok !d) o = o := by
  have hneutral : weight d (.ok !d) = 0 := weight_eq_zero_iff.2 rfl
  by_cases ho : weight d o = 0
  · rw [join_eq_left (by omega), weight_eq_zero_iff.1 ho]
  · exact join_eq_right (by omega)

theorem join_neutral_right (d : Bool) (o : Except EvalError Bool) : join d o (.ok !d) = o :=
  join_eq_left (weight_eq_zero_iff.2 rfl ▸ Nat.zero_le _)

/-! ## Verdicts -/

/-- The first truth of a weight, or another one if there is none. -/
def firstOr (decisive : Bool) (n : ℕ) (os : List (Except EvalError Bool))
    (other : Except EvalError Bool) : Except EvalError Bool :=
  (os.find? fun o => weight decisive o = n).getD other

/-- What many truths come to: to the first fatal error; without any to the decisive truth; without
this to the first error; and without any to the other truth. -/
def verdict (decisive : Bool) (os : List (Except EvalError Bool)) : Except EvalError Bool :=
  firstOr decisive 3 os <| firstOr decisive 2 os <| firstOr decisive 1 os <| .ok !decisive

theorem firstOr_cons_of_eq (h : weight d o = n) : firstOr d n (o :: os) other = o := by
  unfold firstOr
  rw [List.find?_cons_of_pos (by simpa using h), Option.getD_some]

theorem firstOr_cons_of_ne (h : weight d o ≠ n) :
    firstOr d n (o :: os) other = firstOr d n os other := by
  unfold firstOr
  rw [List.find?_cons_of_neg (by simpa using h)]

/-- The first truth of a greater weight is joined as it is. -/
theorem join_firstOr_of_lt (h : weight d o < n) :
    join d o (firstOr d n os other) = firstOr d n os (join d o other) := by
  unfold firstOr
  cases hfind : os.find? fun o => weight d o = n with
  | none => rfl
  | some v =>
    have hv : weight d v = n := by simpa using List.find?_some hfind
    show join d o v = v
    exact join_eq_right (by omega)

/-- The first truth of no greater weight does not count beside another. -/
theorem join_firstOr_of_le (h : n ≤ weight d o) (hother : join d o other = o) :
    join d o (firstOr d n os other) = o := by
  unfold firstOr
  cases hfind : os.find? fun o => weight d o = n with
  | none => exact hother
  | some v =>
    have hv : weight d v = n := by simpa using List.find?_some hfind
    show join d o v = o
    exact join_eq_left (by omega)

/-- One step: the first of many truths is joined to the verdict on the rest. -/
theorem verdict_cons (d : Bool) (o : Except EvalError Bool) (os : List (Except EvalError Bool)) :
    verdict d (o :: os) = join d o (verdict d os) := by
  have hle := weight_le_three d o
  have hneutral := join_neutral_right d o
  unfold verdict
  -- Before the first truth the rest is searched for all that counts more, and for nothing else.
  obtain h | h | h | h : weight d o = 3 ∨ weight d o = 2 ∨ weight d o = 1 ∨ weight d o = 0 := by
    omega
  · rw [firstOr_cons_of_eq h, join_eq_left]
    rw [h]
    exact weight_le_three d _
  · have hone : join d o (firstOr d 1 os (.ok !d)) = o := join_firstOr_of_le (by omega) hneutral
    rw [firstOr_cons_of_ne (by omega), firstOr_cons_of_eq h, join_firstOr_of_lt (by omega),
      join_firstOr_of_le (Nat.le_of_eq h.symm) hone]
  · rw [firstOr_cons_of_ne (by omega), firstOr_cons_of_ne (by omega), firstOr_cons_of_eq h,
      join_firstOr_of_lt (by omega), join_firstOr_of_lt (by omega),
      join_firstOr_of_le (Nat.le_of_eq h.symm) hneutral]
  · rw [firstOr_cons_of_ne (by omega), firstOr_cons_of_ne (by omega), firstOr_cons_of_ne (by omega),
      weight_eq_zero_iff.1 h, join_neutral_left]

theorem verdict_singleton (d : Bool) (o : Except EvalError Bool) : verdict d [o] = o := by
  rw [verdict_cons]
  exact join_neutral_right d o

/-- **The verdict on a list is joined from those on its halves.** -/
theorem verdict_append (d : Bool) (os os' : List (Except EvalError Bool)) :
    verdict d (os ++ os') = join d (verdict d os) (verdict d os') := by
  induction os with
  | nil => exact (join_neutral_left d _).symm
  | cons o os ih => rw [List.cons_append, verdict_cons, verdict_cons, ih, join_assoc]

-- The decisive truth makes up for an error, but not for one that is fatal.
example : verdict false [.error .divisionByZero, .ok false] = .ok false := rfl
example : verdict false [.error .divisionByZero, .ok false, .error (.unevaluable "f")] =
    .error (.unevaluable "f") := rfl

/-! ## Negation -/

theorem weight_map_not (d : Bool) (o : Except EvalError Bool) :
    weight (!d) (o.map (!·)) = weight d o := by
  cases o with
  | error err => rfl
  | ok b => cases b <;> cases d <;> rfl

theorem map_not_join (d : Bool) (l r : Except EvalError Bool) :
    (join d l r).map (!·) = join (!d) (l.map (!·)) (r.map (!·)) := by
  rw [join_eq_ite, join_eq_ite, weight_map_not, weight_map_not]
  split <;> rfl

theorem truth_map_boolean (o : Except EvalError Bool) : truth (o.map Value.boolean) = o := by
  cases o <;> rfl

end Outcome

namespace Expr

variable (row : Row) (now : DateTime)

theorem evaluate_not (a : Expr) :
    (call .not [a]).evaluate row now = ((a.holds row now).map (!·)).map Value.boolean := by
  rw [evaluate_strict rfl rfl, evaluateAll_eq, List.map_singleton]
  show (Outcome.all [a.evaluate row now] >>= Function.not.apply) =
    ((Outcome.truth (a.evaluate row now)).map (!·)).map Value.boolean
  cases a.evaluate row now with
  | error err => rfl
  | ok v =>
    show (v.truth >>= fun b => Except.ok (Value.boolean !b)) = (v.truth.map (!·)).map Value.boolean
    cases v.truth <;> rfl

theorem holds_not (a : Expr) : (call .not [a]).holds row now = (a.holds row now).map (!·) := by
  show Outcome.truth ((call .not [a]).evaluate row now) = _
  rw [evaluate_not, Outcome.truth_map_boolean]

/-! ## Trees of calls -/

/-- The connective that one of the two truths decides. -/
def connective (decisive : Bool) : Function := if decisive then .or else .and

theorem evaluate_connective (d : Bool) (a b : Expr) :
    (call (connective d) [a, b]).evaluate row now =
      (Outcome.join d (a.holds row now) (b.holds row now)).map Value.boolean := by
  cases d <;> rfl

theorem holds_connective (d : Bool) (a b : Expr) : (call (connective d) [a, b]).holds row now =
    Outcome.join d (a.holds row now) (b.holds row now) := by
  show Outcome.truth ((call (connective d) [a, b]).evaluate row now) = _
  rw [evaluate_connective, Outcome.truth_map_boolean]

/-- Expressions in a row, grouped two by two. -/
inductive Grouping where
  | single (e : Expr)
  | pair (left right : Grouping)

namespace Grouping

/-- The members from left to right. -/
def members : Grouping → List Expr
  | single e => [e]
  | pair l r => l.members ++ r.members

/-- The tree of calls of a function that is grouped so. -/
def calls (f : Function) : Grouping → Expr
  | single e => e
  | pair l r => .call f [l.calls f, r.calls f]

/-- A tree of a connective is as true as the verdict on its members. -/
theorem holds_calls (d : Bool) (g : Grouping) : (g.calls (connective d)).holds row now =
    Outcome.verdict d (g.members.map (holds row now)) := by
  induction g with
  | single e => exact (Outcome.verdict_singleton d _).symm
  | pair l r ihl ihr =>
    show (call (connective d) [_, _]).holds row now =
      Outcome.verdict d ((l.members ++ r.members).map (holds row now))
    rw [holds_connective, ihl, ihr, List.map_append, Outcome.verdict_append]

theorem evaluate_pair (d : Bool) (l r : Grouping) :
    ((l.pair r).calls (connective d)).evaluate row now =
      (Outcome.verdict d ((l.pair r).members.map (holds row now))).map Value.boolean := by
  rw [← holds_calls]
  show (call (connective d) [_, _]).evaluate row now = _
  rw [evaluate_connective, ← holds_connective]
  rfl

end Grouping

theorem evaluate_not_connective (d : Bool) (a b : Expr) :
    (call .not [call (connective d) [a, b]]).evaluate row now =
      (call (connective !d) [call .not [a], call .not [b]]).evaluate row now := by
  rw [evaluate_not, holds_connective, evaluate_connective, holds_not, holds_not,
    Outcome.map_not_join]

/-- **Grouping does not matter.** However two or more conditions are grouped in a conjunction, it
comes to the first fatal error among their truths; without any to false, if a truth is false;
without that to the first error; and without any to true. For a disjunction true and false are
exchanged. The negation of a conjunction is the disjunction of the negations, and has its errors. -/
theorem connectives_regroup :
    (∀ l r : Grouping, ((l.pair r).calls .and).evaluate row now =
      (Outcome.verdict false ((l.pair r).members.map (holds row now))).map Value.boolean) ∧
    (∀ l r : Grouping, ((l.pair r).calls .or).evaluate row now =
      (Outcome.verdict true ((l.pair r).members.map (holds row now))).map Value.boolean) ∧
    ∀ a b : Expr, (call .not [call .and [a, b]]).evaluate row now =
      (call .or [call .not [a], call .not [b]]).evaluate row now :=
  ⟨Grouping.evaluate_pair row now false, Grouping.evaluate_pair row now true,
    evaluate_not_connective row now false⟩

end Expr

end RdfStore
