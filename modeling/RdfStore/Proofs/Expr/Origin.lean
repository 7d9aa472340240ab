import RdfStore.Proofs.Expr.Visiting

/-!
# Where errors come from

Evaluation passes errors on and never makes one up on the way: an error that is not about the values
of some function is that of a part which the evaluation goes to (`Expr.exists_of_call_eq_error`). So
an error about a number of arguments is that of a call which is visited, and says of it what is so
(`Expr.exists_visits_of_arity`).
-/

namespace RdfStore

/-! ## Outcomes -/

section Error

variable {α β : Type} {o : Except EvalError α} {err : EvalError}

theorem bind_eq_error_iff {f : α → Except EvalError β} :
    o >>= f = .error err ↔ o = .error err ∨ ∃ a, o = .ok a ∧ f a = .error err := by
  cases o with
  | error err' =>
    show Except.error err' = .error err ↔ _
    simp
  | ok a =>
    show f a = .error err ↔ _
    simp

theorem map_eq_error_iff {f : α → β} : o.map f = .error err ↔ o = .error err := by
  cases o with
  | error err' =>
    show Except.error err' = .error err ↔ _
    simp
  | ok a => exact iff_of_false nofun nofun

end Error

namespace Outcome

variable {o : Outcome} {os : List Outcome} {err : EvalError}

/-- The truth of an outcome has the error of the outcome, or one about the value. -/
theorem eq_error_of_truth (h : o.truth = .error err) :
    o = .error err ∨ err.isAboutValues = true := by
  rcases bind_eq_error_iff.1 h with h | ⟨v, -, h⟩
  · exact .inl h
  · exact .inr (v.mild_truth err h)

theorem mem_of_all_eq_error (h : all os = .error err) :
    .error err ∈ upTo (fun o => !o.hasValue) os := by
  induction os with
  | nil => exact nomatch h
  | cons o os ih =>
    rw [mem_upTo_cons]
    rcases bind_eq_error_iff.1 h with rfl | ⟨v, rfl, h⟩
    · exact .inl rfl
    · exact .inr ⟨rfl, ih (map_eq_error_iff.1 h)⟩

theorem mem_of_firstOf_eq_error {last : EvalError} (h : firstOf last os = .error err) :
    err = last ∨ .error err ∈ upTo hasValue os := by
  induction os generalizing last with
  | nil =>
    cases h
    exact .inl rfl
  | cons o os ih =>
    rw [mem_upTo_cons]
    cases o with
    | ok v => exact nomatch h
    | error err' =>
      unfold firstOf at h
      split at h
      · rcases ih h with rfl | hmem
        · exact .inr (.inl rfl)
        · exact .inr (.inr ⟨rfl, hmem⟩)
      · cases h
        exact .inr (.inl rfl)

/-- Two truths that are joined have an error of one of them, if any. -/
theorem eq_error_of_join {decisive : Bool} {l r : Except EvalError Bool}
    (h : join decisive l r = .error err) : l = .error err ∨ r = .error err := by
  unfold join at h
  cases l with
  | ok a =>
    cases r with
    | ok b => exact nomatch h
    | error err' =>
      dsimp only at h
      split at h
      · exact nomatch h
      · exact .inr h
  | error err' =>
    cases r with
    | ok b =>
      dsimp only at h
      split at h
      · exact nomatch h
      · exact .inl h
    | error err'' =>
      dsimp only at h
      split at h
      · exact .inr h
      · exact .inl h

end Outcome

/-! ## Calls -/

namespace Expr

variable {row : Row} {now : DateTime} {f : Function} {args : List Expr} {err : EvalError}

theorem eq_error_of_holds {e : Expr} (hvalues : err.isAboutValues = false)
    (h : e.holds row now = .error err) : e.evaluate row now = .error err :=
  (Outcome.eq_error_of_truth h).resolve_right (ne_true_of_eq_false hvalues)

/-- An error of the outcomes of arguments, up to a stop, is one of an argument up to there. -/
theorem exists_of_error_mem_upTo {stops : Outcome → Bool}
    (h : .error err ∈ upTo stops (evaluateAll row now args)) :
    ∃ a ∈ upTo (fun a => stops (a.evaluate row now)) args, a.evaluate row now = .error err := by
  rw [evaluateAll_eq, upTo_map, List.mem_map] at h
  exact h

theorem exists_of_strict_eq_error (hstrict : f.isStrict = true)
    (harity : f.arityError? args.length = none) (hvalues : err.isAboutValues = false)
    (h : (call f args).evaluate row now = .error err) :
    ∃ a ∈ visitedArguments row now f args, a.evaluate row now = .error err := by
  rw [evaluate_strict hstrict harity, bind_eq_error_iff] at h
  rw [visitedArguments_of_isStrict hstrict harity]
  rcases h with hall | ⟨vs, hvs, happly⟩
  · exact exists_of_error_mem_upTo (Outcome.mem_of_all_eq_error hall)
  · -- With values for all arguments, the error is about them.
    have habout := (Function.tame_apply hstrict (arityError?_of_all harity hvs)).1 err happly
    exact absurd habout (ne_true_of_eq_false hvalues)

theorem exists_of_connective_eq_error {a b : Expr} (decisive : Bool)
    (hvalues : err.isAboutValues = false)
    (h : (Outcome.join decisive (a.holds row now) (b.holds row now)).map Value.boolean =
      .error err) :
    ∃ e ∈ [a, b], e.evaluate row now = .error err := by
  rcases Outcome.eq_error_of_join (map_eq_error_iff.1 h) with ha | hb
  · exact ⟨a, by simp, eq_error_of_holds hvalues ha⟩
  · exact ⟨b, by simp, eq_error_of_holds hvalues hb⟩

theorem exists_of_choose_eq_error {c a b : Expr} (hvalues : err.isAboutValues = false)
    (h : (call .choose [c, a, b]).evaluate row now = .error err) :
    ∃ e ∈ visitedArguments row now .choose [c, a, b], e.evaluate row now = .error err := by
  rw [evaluate_choose, bind_eq_error_iff] at h
  rw [visitedArguments_choose]
  rcases h with hc | ⟨t, hc, h⟩
  · rw [hc]
    exact ⟨c, by simp, eq_error_of_holds hvalues hc⟩
  · rw [hc]
    cases t with
    | true => exact ⟨a, by simp, h⟩
    | false => exact ⟨b, by simp, h⟩

/-- An error of a call that is not about values is its own, for the number of its arguments or for
want of an implementation, or that of an argument which its evaluation goes to. -/
theorem exists_of_call_eq_error (hvalues : err.isAboutValues = false)
    (h : (call f args).evaluate row now = .error err) :
    f.arityError? args.length = some err ∨ (∃ i, f = .unknown i ∧ err = .unevaluable i.text) ∨
      ∃ a ∈ visitedArguments row now f args, a.evaluate row now = .error err := by
  cases harity : f.arityError? args.length with
  | some err' =>
    rw [evaluate_call_of_arityError harity] at h
    cases h
    exact .inl rfl
  | none =>
    right
    cases Function.takes harity with
    | strict hstrict => exact .inr (exists_of_strict_eq_error hstrict harity hvalues h)
    | unknown i =>
      cases h
      exact .inl ⟨i, rfl, rfl⟩
    | now => exact nomatch h
    | bound a =>
      cases a with
      | var x => exact nomatch h
      | const t =>
        cases h
        exact nomatch hvalues
      | call g bs =>
        cases h
        exact nomatch hvalues
    | and a b => exact .inr (exists_of_connective_eq_error false hvalues h)
    | or a b => exact .inr (exists_of_connective_eq_error true hvalues h)
    | choose c a b => exact .inr (exists_of_choose_eq_error hvalues h)
    | coalesce =>
      rw [evaluate_call harity] at h
      rw [visitedArguments_coalesce harity]
      rcases Outcome.mem_of_firstOf_eq_error h with rfl | hmem
      · exact nomatch hvalues
      · exact .inr (exists_of_error_mem_upTo hmem)

/-! ## Numbers of arguments -/

/-- An error about a number of arguments is that of a call which evaluation goes to. -/
theorem exists_visits_of_arity {e : Expr} {name expected : String} {count : ℕ}
    (h : e.evaluate row now = .error (.arity name expected count)) :
    ∃ f args, e.Visits row now (.call f args) ∧
      f.arityError? args.length = some (.arity name expected count) := by
  induction e using inductionOnArguments with
  | const t => cases h
  | var x =>
    unfold evaluate Row.value at h
    split at h
    · cases h
    · cases h
  | call f args ih =>
    rcases exists_of_call_eq_error rfl h with harity | ⟨i, -, hi⟩ | ⟨a, ha, h⟩
    · exact ⟨f, args, .root _, harity⟩
    · cases hi
    · obtain ⟨g, bs, hvisits, harity⟩ := ih a (visitedArguments_subset ha) h
      exact ⟨g, bs, .argument ha hvisits, harity⟩

end Expr

end RdfStore
