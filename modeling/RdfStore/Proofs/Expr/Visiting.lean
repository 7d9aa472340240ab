import RdfStore.Proofs.Expr.Fatal

/-!
# Visited expressions

Evaluation does not go to every part of an expression: an alternative may be settled before its
last argument, a choice leaves one side out, and a call stops at the first argument that fails. The
parts that it goes to are the visited ones (`Expr.Visits`). A fatal error is never caught: an
expression is fatal if and only if it visits a call of a function without implementation
(`Expr.fatal_evaluate_iff`).
-/

namespace RdfStore

/-! ## Lists up to a stop -/

section UpTo

variable {α β : Type} {stops : α → Bool} {a b : α} {l : List α}

/-- The beginning of a list, up to and with the first member that stops. -/
def upTo (stops : α → Bool) : List α → List α
  | [] => []
  | a :: as => if stops a then [a] else a :: upTo stops as

@[simp] theorem not_mem_upTo_nil : a ∉ upTo stops [] := List.not_mem_nil

@[simp] theorem mem_upTo_cons :
    a ∈ upTo stops (b :: l) ↔ a = b ∨ stops b = false ∧ a ∈ upTo stops l := by
  show a ∈ (if stops b then [b] else b :: upTo stops l) ↔ _
  cases stops b with
  | true => simp
  | false => simp

theorem mem_of_mem_upTo (h : a ∈ upTo stops l) : a ∈ l := by
  induction l with
  | nil => exact absurd h not_mem_upTo_nil
  | cons b l ih =>
    rcases mem_upTo_cons.1 h with rfl | ⟨-, h⟩
    · exact List.mem_cons_self
    · exact List.mem_cons_of_mem b (ih h)

theorem upTo_map (stops : β → Bool) (f : α → β) (l : List α) :
    upTo stops (l.map f) = (upTo (fun a => stops (f a)) l).map f := by
  induction l with
  | nil => rfl
  | cons a l ih =>
    rw [List.map_cons]
    unfold upTo
    split
    · rfl
    · rw [ih, List.map_cons]

/-- What a search finds, it finds at a member that it gets to. -/
theorem findSome?_eq_some_iff_upTo {f : α → Option β} {y : β} :
    l.findSome? f = some y ↔ ∃ a ∈ upTo (fun a => (f a).isSome) l, f a = some y := by
  induction l with
  | nil => simp
  | cons a l ih =>
    rw [List.findSome?_cons]
    cases h : f a with
    | none => simp [ih, h]
    | some z => simp [h]

end UpTo

/-! ## Outcomes -/

namespace Outcome

variable {o : Outcome} {os : List Outcome}

/-- Whether there is a value. -/
def hasValue : Outcome → Bool
  | .ok _ => true
  | .error _ => false

@[simp] theorem hasValue_ok {v : Value} : hasValue (.ok v) = true := rfl

@[simp] theorem hasValue_error {err : EvalError} : hasValue (.error err) = false := rfl

theorem fatal_truth_iff : Fatal o.truth ↔ Fatal o := by
  refine fatal_bind_iff.trans ⟨?_, .inl⟩
  rintro (h | ⟨v, -, h⟩)
  · exact h
  · exact absurd h v.mild_truth.not_fatal

/-- Of outcomes that are all needed, those up to the first error count. -/
theorem fatal_all_iff : Fatal (all os) ↔ ∃ o ∈ upTo (fun o => !o.hasValue) os, Fatal o := by
  induction os with
  | nil => simp [all]
  | cons o os ih =>
    unfold all
    rw [fatal_bind_iff]
    cases o with
    | error err => simp
    | ok v =>
      have hrest : Fatal (do return v :: (← all os)) ↔ Fatal (all os) := fatal_map_iff
      simp only [not_fatal_ok, false_or, Except.ok.injEq, exists_eq_left', hrest, ih, mem_upTo_cons,
        hasValue_ok, Bool.not_true, true_and, exists_eq_or_imp]

theorem all_eq_mapM (os : List Outcome) : all os = os.mapM id := by
  induction os with
  | nil => rfl
  | cons o os ih =>
    rw [all, List.mapM_cons, ih]
    rfl

theorem all_eq_ok_iff {vs : List Value} : all os = .ok vs ↔ os = vs.map .ok := by
  rw [all_eq_mapM]
  exact mapM_eq_ok_iff fun _ _ => Iff.rfl

theorem length_of_all_eq_ok {vs : List Value} (h : all os = .ok vs) : vs.length = os.length := by
  rw [all_eq_ok_iff.1 h, List.length_map]

/-- Of alternatives, those up to the first value count. -/
theorem fatal_firstOf_iff {last : EvalError} (hlast : last.isRecoverable = true) :
    Fatal (firstOf last os) ↔ ∃ o ∈ upTo hasValue os, Fatal o := by
  induction os generalizing last with
  | nil => simp [firstOf, hlast]
  | cons o os ih =>
    unfold firstOf
    cases o with
    | ok v => simp
    | error err =>
      cases h : err.isRecoverable with
      | true => simp [h, ih h]
      | false => simp [h]

/-- A decisive side does not win over a fatal one. -/
theorem fatal_join_iff {decisive : Bool} {l r : Except EvalError Bool} :
    Fatal (join decisive l r) ↔ Fatal l ∨ Fatal r := by
  have hside (err : EvalError) (side : Bool) :
      Fatal (if err.isRecoverable ∧ side = decisive then .ok decisive else .error err :
        Except EvalError Bool) ↔ err.isRecoverable = false := by
    cases h : err.isRecoverable with
    | false => simp [h]
    | true => split <;> simp [h]
  unfold join
  cases l with
  | ok a =>
    cases r with
    | ok b => simp
    | error err => simp [hside]
  | error err =>
    cases r with
    | ok b => simp [hside]
    | error err' =>
      dsimp only
      cases h : err.isRecoverable with
      | false => simp [h]
      | true => cases h' : err'.isRecoverable <;> simp [h, h']

end Outcome

/-! ## Visited parts -/

/-- Most functions are applied to the values of all their arguments. -/
theorem Function.combine_of_isStrict {f : Function} {row : Row} {now : DateTime} {args : List Expr}
    {os : List Outcome} (hstrict : f.isStrict = true) :
    f.combine row now args os = Outcome.all os >>= f.apply := by
  cases f with
  | and | or | bound | choose | coalesce | now | unknown => exact nomatch hstrict
  | _ => rfl

namespace Expr

variable {row : Row} {now : DateTime} {f : Function} {args : List Expr} {e e' : Expr}

/-- The arguments that the evaluation of a call goes to. With a wrong number of arguments it goes to
none, and neither do the functions that know their answer without. Connectives go to both sides,
a choice to its condition and the side that it chooses, alternatives up to the first value, and
all other functions up to the first argument without one. -/
def visitedArguments (row : Row) (now : DateTime) (f : Function) (args : List Expr) : List Expr :=
  if (f.arityError? args.length).isSome then []
  else
    match f, args with
    | .unknown _, _ | .bound, _ | .now, _ => []
    | .and, args | .or, args => args
    | .choose, [c, a, b] =>
      match c.holds row now with
      | .ok true => [c, a]
      | .ok false => [c, b]
      | .error _ => [c]
    | .coalesce, args => upTo (fun a => (a.evaluate row now).hasValue) args
    | _, args => upTo (fun a => !(a.evaluate row now).hasValue) args

/-- The evaluation of an expression goes to a part of it, the expression itself among them. -/
inductive Visits (row : Row) (now : DateTime) : Expr → Expr → Prop where
  /-- It begins at the root. -/
  | root (e : Expr) : Visits row now e e
  /-- It goes to arguments, and from there on. -/
  | argument {f : Function} {args : List Expr} {a e : Expr}
    (ha : a ∈ visitedArguments row now f args) (h : Visits row now a e) :
    Visits row now (.call f args) e

theorem visitedArguments_subset : visitedArguments row now f args ⊆ args := by
  intro a ha
  unfold visitedArguments at ha
  split at ha
  · exact absurd ha List.not_mem_nil
  · split at ha
    · exact absurd ha List.not_mem_nil
    · exact absurd ha List.not_mem_nil
    · exact absurd ha List.not_mem_nil
    · exact ha
    · exact ha
    · split at ha
      all_goals
        simp only [List.mem_cons, List.not_mem_nil, or_false] at ha ⊢
        tauto
    · exact mem_of_mem_upTo ha
    · exact mem_of_mem_upTo ha

/-- What holds of leaves, and of a call if it holds of the arguments, holds of all expressions. -/
theorem inductionOnArguments {P : Expr → Prop} (const : ∀ t, P (.const t)) (var : ∀ x, P (.var x))
    (call : ∀ f args, (∀ a ∈ args, P a) → P (.call f args)) : ∀ e, P e
  | .const t => const t
  | .var x => var x
  | .call f args => call f args fun a _ha => inductionOnArguments const var call a
termination_by e => e
decreasing_by
  have := List.sizeOf_lt_of_mem _ha
  simp only [Expr.call.sizeOf_spec]
  omega

theorem evaluateAll_eq (row : Row) (now : DateTime) (args : List Expr) :
    evaluateAll row now args = args.map (evaluate row now) := by
  induction args with
  | nil => rfl
  | cons a args ih =>
    unfold evaluateAll
    rw [ih, List.map_cons]

/-- The outcomes of arguments, up to a stop, are those of the arguments up to there. -/
theorem fatal_upTo_evaluateAll_iff (stops : Outcome → Bool) :
    (∃ o ∈ upTo stops (evaluateAll row now args), Fatal o) ↔
      ∃ a ∈ upTo (fun a => stops (a.evaluate row now)) args, Fatal (a.evaluate row now) := by
  simp only [evaluateAll_eq, upTo_map, List.mem_map, exists_exists_and_eq_and]

theorem evaluate_call_of_arityError {err : EvalError} (h : f.arityError? args.length = some err) :
    (call f args).evaluate row now = .error err := by
  rw [evaluate, h]

theorem evaluate_call (h : f.arityError? args.length = none) :
    (call f args).evaluate row now = f.combine row now args (evaluateAll row now args) := by
  rw [evaluate, h]

/-- The values of all arguments are as many as these. -/
theorem arityError?_of_all {vs : List Value} (h : f.arityError? args.length = none)
    (hvs : Outcome.all (evaluateAll row now args) = .ok vs) : f.arityError? vs.length = none := by
  have hlength := Outcome.length_of_all_eq_ok hvs
  rw [evaluateAll_eq, List.length_map] at hlength
  rw [hlength]
  exact h

theorem evaluate_strict (hstrict : f.isStrict = true) (h : f.arityError? args.length = none) :
    (call f args).evaluate row now = Outcome.all (evaluateAll row now args) >>= f.apply := by
  rw [evaluate_call h, Function.combine_of_isStrict hstrict]

theorem visitedArguments_of_isStrict (hstrict : f.isStrict = true)
    (h : f.arityError? args.length = none) :
    visitedArguments row now f args = upTo (fun a => !(a.evaluate row now).hasValue) args := by
  unfold visitedArguments
  rw [h]
  cases f with
  | and | or | bound | choose | coalesce | now | unknown => exact nomatch hstrict
  | _ => rfl

theorem fatal_strict_iff (hstrict : f.isStrict = true) (h : f.arityError? args.length = none) :
    Fatal ((call f args).evaluate row now) ↔
      ∃ a ∈ visitedArguments row now f args, Fatal (a.evaluate row now) := by
  rw [evaluate_strict hstrict h, visitedArguments_of_isStrict hstrict h,
    ← fatal_upTo_evaluateAll_iff (fun o => !o.hasValue), ← Outcome.fatal_all_iff, fatal_bind_iff]
  refine ⟨?_, .inl⟩
  rintro (hall | ⟨vs, hvs, hfatal⟩)
  · exact hall
  · -- All arguments have values, and no function is fatal for values.
    exact absurd hfatal (Function.tame_apply hstrict (arityError?_of_all h hvs)).1.not_fatal

theorem visitedArguments_coalesce (h : (Function.coalesce).arityError? args.length = none) :
    visitedArguments row now .coalesce args =
      upTo (fun a => (a.evaluate row now).hasValue) args := by
  unfold visitedArguments
  rw [h]
  rfl

theorem evaluate_choose (c a b : Expr) : (call .choose [c, a, b]).evaluate row now =
    (c.holds row now >>= fun t => if t then a.evaluate row now else b.evaluate row now) := rfl

theorem visitedArguments_choose (c a b : Expr) : visitedArguments row now .choose [c, a, b] =
    match c.holds row now with
    | .ok true => [c, a]
    | .ok false => [c, b]
    | .error _ => [c] := rfl

theorem fatal_choose_iff {c a b : Expr} : Fatal ((call .choose [c, a, b]).evaluate row now) ↔
    ∃ e ∈ visitedArguments row now .choose [c, a, b], Fatal (e.evaluate row now) := by
  have hcondition : Fatal (c.evaluate row now) ↔ Fatal (c.holds row now) :=
    Outcome.fatal_truth_iff.symm
  rw [evaluate_choose, visitedArguments_choose, fatal_bind_iff]
  cases h : c.holds row now with
  | error err => simp [hcondition, h]
  | ok t =>
    cases t with
    | true => simp [hcondition, h]
    | false => simp [hcondition, h]

/-- Both sides of a connective count, whatever the connective decides by. -/
theorem fatal_connective_iff (decisive : Bool) (a b : Expr) :
    Fatal ((Outcome.join decisive (a.holds row now) (b.holds row now)).map Value.boolean) ↔
      ∃ e ∈ [a, b], Fatal (e.evaluate row now) := by
  have hside (e : Expr) : Fatal (e.holds row now) ↔ Fatal (e.evaluate row now) :=
    Outcome.fatal_truth_iff
  rw [fatal_map_iff, Outcome.fatal_join_iff, hside, hside]
  simp

/-- **A call is fatal** only of itself, having no implementation, or by an argument that its
evaluation goes to. -/
theorem fatal_call_iff : Fatal ((call f args).evaluate row now) ↔
    (∃ i, f = .unknown i) ∨ ∃ a ∈ visitedArguments row now f args, Fatal (a.evaluate row now) := by
  by_cases hknown : ∃ i, f = .unknown i
  · obtain ⟨i, rfl⟩ := hknown
    exact iff_of_true ⟨i.text, rfl⟩ (.inl ⟨i, rfl⟩)
  rw [or_iff_right hknown]
  cases harity : f.arityError? args.length with
  | some err =>
    rw [evaluate_call_of_arityError harity, fatal_error_iff,
      Function.isRecoverable_of_arityError? harity]
    unfold visitedArguments
    rw [harity]
    simp
  | none =>
    cases Function.takes harity with
    | strict hstrict => exact fatal_strict_iff hstrict harity
    | unknown i => exact absurd ⟨i, rfl⟩ hknown
    | now => exact iff_of_false not_fatal_ok fun ⟨a, ha, _⟩ => absurd ha List.not_mem_nil
    | bound a =>
      refine iff_of_false ?_ fun ⟨a, ha, _⟩ => absurd ha List.not_mem_nil
      cases a with
      | var x => exact not_fatal_ok
      | const t => exact fun h => nomatch fatal_error_iff.1 h
      | call g bs => exact fun h => nomatch fatal_error_iff.1 h
    | and a b => exact fatal_connective_iff false a b
    | or a b => exact fatal_connective_iff true a b
    | choose c a b => exact fatal_choose_iff
    | coalesce =>
      rw [evaluate_call harity, visitedArguments_coalesce harity,
        ← fatal_upTo_evaluateAll_iff Outcome.hasValue]
      exact Outcome.fatal_firstOf_iff rfl

/-- **A fatal error is never caught.** An expression is fatal for a row if and only if its
evaluation goes to a call of a function without implementation. -/
theorem fatal_evaluate_iff (row : Row) (now : DateTime) (e : Expr) :
    Fatal (e.evaluate row now) ↔ ∃ i args, e.Visits row now (.call (.unknown i) args) := by
  constructor
  · induction e using inductionOnArguments with
    | const t => exact fun h => absurd h not_fatal_ok
    | var x =>
      intro h
      unfold evaluate Row.value at h
      split at h
      · exact absurd h not_fatal_ok
      · exact nomatch fatal_error_iff.1 h
    | call f args ih =>
      intro h
      rcases fatal_call_iff.1 h with ⟨i, rfl⟩ | ⟨a, ha, h⟩
      · exact ⟨i, args, .root _⟩
      · obtain ⟨i, args', hvisits⟩ := ih a (visitedArguments_subset ha) h
        exact ⟨i, args', .argument ha hvisits⟩
  · rintro ⟨i, args, h⟩
    generalize he : Expr.call (.unknown i) args = e' at h
    induction h with
    | root e =>
      subst he
      exact fatal_call_iff.2 (.inl ⟨i, rfl⟩)
    | argument ha _ ih => exact fatal_call_iff.2 (.inr ⟨_, ha, ih he⟩)

end Expr

end RdfStore
