import Mathlib.Data.List.Basic
import RdfStore.Expr.Evaluate

/-!
# Fatal errors

Of all errors of an evaluation just one is fatal, that a function has no implementation. No
function that has one fails so: whatever values it is given, as many as it takes, its error is about
these values, and its value is plain (`Function.tame_apply`).
-/

namespace RdfStore

/-! ## Fatal outcomes -/

theorem bind_eq_ok_iff {ε α β : Type} {x : Except ε α} {f : α → Except ε β} {b : β} :
    (x >>= f) = .ok b ↔ ∃ a, x = .ok a ∧ f a = .ok b := by
  cases x with
  | error e => exact iff_of_false nofun fun ⟨_, h, _⟩ => nomatch h
  | ok a => exact ⟨fun h => ⟨a, rfl, h⟩, fun ⟨_, h, hb⟩ => Except.ok.inj h ▸ hb⟩

/-- If each result shows what it is the result of, so do the results of a list. -/
theorem mapM_eq_ok_iff {ε α β : Type} {f : α → Except ε β} {g : β → α}
    (h : ∀ a b, f a = .ok b ↔ a = g b) {l : List α} {m : List β} :
    l.mapM f = .ok m ↔ l = m.map g := by
  induction l generalizing m with
  | nil =>
    cases m with
    | nil => exact iff_of_true rfl rfl
    | cons b m => exact iff_of_false nofun nofun
  | cons a l ih =>
    rw [List.mapM_cons, bind_eq_ok_iff]
    constructor
    · rintro ⟨b, hb, hl⟩
      obtain ⟨m', hm, hl⟩ := bind_eq_ok_iff.1 hl
      obtain rfl := Except.ok.inj hl
      rw [(h a b).1 hb, ih.1 hm]
      rfl
    · intro hcons
      obtain ⟨b, m', rfl, hb, hm⟩ := List.map_eq_cons_iff.1 hcons.symm
      exact ⟨b, (h a b).2 hb.symm, bind_eq_ok_iff.2 ⟨m', ih.2 hm.symm, rfl⟩⟩

section Fatal

variable {α β : Type} {a : α} {err : EvalError} {o : Except EvalError α}

/-- The error is that a function has no implementation. -/
def Fatal (o : Except EvalError α) : Prop := ∃ f, o = .error (.unevaluable f)

@[simp] theorem not_fatal_ok : ¬Fatal (.ok a) := fun ⟨_, h⟩ => nomatch h

@[simp] theorem fatal_error_iff :
    Fatal (.error err : Except EvalError α) ↔ err.isRecoverable = false := by
  constructor
  · rintro ⟨f, h⟩
    cases h
    rfl
  · intro h
    cases err with
    | unevaluable f => exact ⟨f, rfl⟩
    | _ => exact nomatch h

theorem fatal_bind_iff {f : α → Except EvalError β} :
    Fatal (o >>= f) ↔ Fatal o ∨ ∃ a, o = .ok a ∧ Fatal (f a) := by
  cases o with
  | error err =>
    show Fatal (.error err) ↔ _
    simp
  | ok a =>
    show Fatal (f a) ↔ _
    simp

theorem fatal_map_iff {f : α → β} : Fatal (o.map f) ↔ Fatal o := by
  cases o with
  | error err =>
    show Fatal (.error err) ↔ _
    simp
  | ok a =>
    show Fatal (.ok (f a)) ↔ _
    simp

/-- The error is about the values that a function is given. -/
def EvalError.isAboutValues : EvalError → Bool
  | .unevaluable _ | .unbound _ | .arity .. => false
  | _ => true

theorem EvalError.isRecoverable_of_isAboutValues (h : err.isAboutValues = true) :
    err.isRecoverable = true := by
  cases err with
  | unevaluable f => exact nomatch h
  | _ => rfl

/-- An error of the outcome can only be about values. -/
def Mild (o : Except EvalError α) : Prop := ∀ err, o = .error err → err.isAboutValues = true

theorem mild_ok : Mild (.ok a) := nofun

theorem mild_error (h : err.isAboutValues = true) : Mild (.error err : Except EvalError α) := by
  intro err' herr
  cases herr
  exact h

theorem Mild.not_fatal (h : Mild o) : ¬Fatal o := by
  rintro ⟨f, rfl⟩
  exact nomatch h _ rfl

/-- A sequence of mild steps is mild. -/
theorem Mild.bind {f : α → Except EvalError β} (ho : Mild o) (hf : ∀ a, Mild (f a)) :
    Mild (o >>= f) := by
  cases o with
  | error err => exact mild_error (ho err rfl)
  | ok a => exact hf a

theorem Mild.map {f : α → β} (ho : Mild o) : Mild (o.map f) := by
  cases o with
  | error err => exact mild_error (ho err rfl)
  | ok a => exact mild_ok

theorem mild_mapM {f : α → Except EvalError β} (hf : ∀ a, Mild (f a)) (l : List α) :
    Mild (l.mapM f) := by
  induction l with
  | nil =>
    rw [List.mapM_nil]
    exact mild_ok
  | cons a l ih =>
    rw [List.mapM_cons]
    exact (hf a).bind fun b => ih.bind fun bs => mild_ok

end Fatal

/-! ## Functions of values -/

/-- The value has no blank nodes: it is an IRI or no term. -/
def Value.IsPlain : Value → Prop
  | .term t => t.isIri = true
  | _ => True

/-- The outcome is a plain value, or an error about values. -/
def Tame (o : Outcome) : Prop := Mild o ∧ ∀ v, o = .ok v → v.IsPlain

theorem tame_ok {v : Value} (h : v.IsPlain) : Tame (.ok v) :=
  ⟨mild_ok, fun _ hv => Except.ok.inj hv ▸ h⟩

theorem tame_error {err : EvalError} (h : err.isAboutValues = true) : Tame (.error err) :=
  ⟨mild_error h, nofun⟩

theorem tame_bind {α : Type} {o : Except EvalError α} {f : α → Outcome} (ho : Mild o)
    (hf : ∀ a, Tame (f a)) : Tame (o >>= f) := by
  refine ⟨ho.bind fun a => (hf a).1, fun v hv => ?_⟩
  cases o with
  | error err => exact nomatch hv
  | ok a => exact (hf a).2 v hv

theorem Value.mild_truth (v : Value) : Mild v.truth := by
  unfold truth
  split
  · exact mild_ok
  · exact mild_error rfl

namespace Function

variable {f : Function} {v w : Value}

theorem mild_number : Mild (f.number v) := by
  unfold number
  split
  · exact mild_ok
  · exact mild_error rfl

theorem mild_textOf : Mild (f.textOf v) := by
  unfold textOf
  split
  · exact mild_ok
  · exact mild_error rfl

theorem tame_misapplied : Tame (.error (f.misapplied v)) := tame_error rfl

theorem tame_exact {i : Int} : Tame (f.exact i) := by
  unfold exact
  split
  · exact tame_ok trivial
  · exact tame_error rfl

theorem tame_finite {x y : Float} : Tame (f.finite x y) := by
  unfold finite
  split
  · exact tame_ok trivial
  · exact tame_error rfl

theorem tame_integerArithmetic {op : ArithmeticOp} {i j : Int64} :
    Tame (integerArithmetic op i j) := by
  cases op with
  | divide =>
    unfold integerArithmetic
    dsimp only
    split
    · exact tame_error rfl
    · exact tame_ok trivial
  | _ => exact tame_exact

theorem tame_doubleArithmetic {op : ArithmeticOp} {x y : Float} :
    Tame (doubleArithmetic op x y) := by
  cases op with
  | divide =>
    unfold doubleArithmetic
    dsimp only
    split
    · exact tame_error rfl
    · exact tame_ok trivial
  | _ => exact tame_ok trivial

theorem tame_applyArithmetic {op : ArithmeticOp} : Tame (applyArithmetic op v w) := by
  unfold applyArithmetic
  split
  · exact tame_integerArithmetic
  · exact tame_bind mild_number fun x => tame_bind mild_number fun y =>
      tame_doubleArithmetic

theorem tame_applyRelation {r : Relation} : Tame (applyRelation r v w) := by
  unfold applyRelation
  split
  · exact tame_ok trivial
  · exact tame_error rfl

theorem tame_concatenate {vs : List Value} : Tame (concatenate vs) :=
  tame_bind (mild_mapM (fun _ => mild_textOf) vs) fun _ => tame_ok trivial

theorem tame_magnitude : Tame (magnitude v) := by
  unfold magnitude
  split
  · exact tame_exact
  · exact tame_ok trivial
  · exact tame_misapplied

theorem tame_rounded {m : RoundingMode} : Tame (rounded m v) := by
  unfold rounded
  split
  · exact tame_ok trivial
  · exact tame_ok trivial
  · exact tame_misapplied

theorem tame_applyPower : Tame (applyPower v w) := by
  have hreal : Tame (do
      let b ← pow.number v
      let e ← pow.number w
      pow.finite b (b.pow e)) :=
    tame_bind mild_number fun b => tame_bind mild_number fun e => tame_finite
  unfold applyPower
  dsimp only
  split
  · split
    · exact tame_exact
    · exact hreal
  · exact hreal

theorem tame_applyStr : Tame (applyStr v) := by
  unfold applyStr
  split
  · exact tame_ok trivial
  · exact tame_ok trivial
  · exact tame_misapplied

theorem tame_applyLang : Tame (applyLang v) := by
  unfold applyLang
  split
  · exact tame_ok trivial
  · exact tame_misapplied

theorem tame_applyDatatype : Tame (applyDatatype v) := by
  unfold applyDatatype
  split
  · exact tame_ok rfl
  · exact tame_misapplied

theorem mild_search {text pattern flags : String} : Mild (Regex.search text pattern flags) := by
  refine Mild.bind ?_ fun flags => ?_
  · cases Regex.Flags.off.read flags.toList with
    | ok _ => exact mild_ok
    | error fault => exact mild_error rfl
  · split
    · exact mild_ok
    · exact mild_error rfl

theorem tame_applyRegex {flags : Option Value} : Tame (applyRegex v w flags) := by
  have hsearch (t p f : String) : Tame (do return Value.boolean (← Regex.search t p f)) :=
    tame_bind mild_search fun b => tame_ok trivial
  refine tame_bind mild_textOf fun t => tame_bind mild_textOf fun p => ?_
  cases flags with
  | none => exact hsearch t.1 p.1 ""
  | some u => exact tame_bind mild_textOf.map (hsearch t.1 p.1)

/-! ## All functions -/

/-- Whether the function needs the values of all its arguments, and nothing else. -/
def isStrict : Function → Bool
  | and | or | bound | choose | coalesce | now | unknown _ => false
  | _ => true

section Takes

variable {n : Nat} {a : Arity} {vs : List Value}

theorem accepts_of_arityError?_eq_none (ha : f.arity? = some a) (h : f.arityError? n = none) :
    a.accepts n = true := by
  unfold arityError? at h
  rw [ha] at h
  dsimp only at h
  split at h
  · assumption
  · exact nomatch h

theorem eq_of_takes {k : Nat} (ha : f.arity? = some (.exactly k)) (h : f.arityError? n = none) :
    n = k := by
  simpa [Arity.accepts] using accepts_of_arityError?_eq_none ha h

theorem takes_one (ha : f.arity? = some (.exactly 1)) (h : f.arityError? vs.length = none) :
    ∃ v, vs = [v] :=
  List.length_eq_one_iff.1 (eq_of_takes ha h)

theorem takes_two (ha : f.arity? = some (.exactly 2)) (h : f.arityError? vs.length = none) :
    ∃ v w, vs = [v, w] :=
  List.length_eq_two.1 (eq_of_takes ha h)

theorem takes_two_or_three (ha : f.arity? = some (.between 2 3))
    (h : f.arityError? vs.length = none) :
    (∃ v w, vs = [v, w]) ∨ ∃ v w u, vs = [v, w, u] := by
  have hlength : 2 ≤ vs.length ∧ vs.length ≤ 3 := by
    simpa [Arity.accepts] using accepts_of_arityError?_eq_none ha h
  have hcases : vs.length = 2 ∨ vs.length = 3 := by omega
  exact hcases.imp List.length_eq_two.1 List.length_eq_three.1

/-- A function with as many arguments as it takes. Strict functions treat all arguments alike; of
every other function the arguments are known one by one, where their number is. -/
inductive Takes {α : Type} : Function → List α → Prop where
  | strict {f : Function} {l : List α} (hstrict : f.isStrict = true)
    (h : f.arityError? l.length = none) : Takes f l
  | unknown (i : Iri) (l : List α) : Takes (unknown i) l
  | now : Takes now []
  | bound (a : α) : Takes bound [a]
  | and (a b : α) : Takes and [a, b]
  | or (a b : α) : Takes or [a, b]
  | choose (c a b : α) : Takes choose [c, a, b]
  | coalesce {l : List α} (h : coalesce.arityError? l.length = none) : Takes coalesce l

theorem takes {α : Type} {l : List α} (h : f.arityError? l.length = none) : Takes f l := by
  have hcount {k : ℕ} (hk : f.arity? = some (.exactly k)) : l.length = k := eq_of_takes hk h
  cases hstrict : f.isStrict with
  | true => exact .strict hstrict h
  | false =>
    cases f with
    | unknown i => exact .unknown i l
    | coalesce => exact .coalesce h
    | now =>
      obtain rfl := List.length_eq_zero_iff.1 (hcount rfl)
      exact .now
    | bound =>
      obtain ⟨a, rfl⟩ := List.length_eq_one_iff.1 (hcount rfl)
      exact .bound a
    | and =>
      obtain ⟨a, b, rfl⟩ := List.length_eq_two.1 (hcount rfl)
      exact .and a b
    | or =>
      obtain ⟨a, b, rfl⟩ := List.length_eq_two.1 (hcount rfl)
      exact .or a b
    | choose =>
      obtain ⟨c, a, b, rfl⟩ := List.length_eq_three.1 (hcount rfl)
      exact .choose c a b
    | _ => exact nomatch hstrict

end Takes

theorem arityError?_eq_some_iff {n : ℕ} {err : EvalError} :
    f.arityError? n = some err ↔
      ∃ a, f.arity? = some a ∧ a.accepts n = false ∧ err = .arity f.name a.text n := by
  unfold arityError?
  constructor
  · intro h
    split at h
    · next a ha =>
      split at h
      · exact nomatch h
      · next hrejects => exact ⟨a, ha, by simpa using hrejects, (Option.some.inj h).symm⟩
    · exact nomatch h
  · rintro ⟨a, ha, hrejects, rfl⟩
    rw [ha]
    dsimp only
    rw [hrejects, if_neg Bool.false_ne_true]

/-- A wrong number of arguments is not fatal. -/
theorem isRecoverable_of_arityError? {n : ℕ} {err : EvalError} (h : f.arityError? n = some err) :
    err.isRecoverable = true := by
  obtain ⟨a, -, -, rfl⟩ := arityError?_eq_some_iff.1 h
  rfl

/-- A function that is given as many values as it takes comes to a plain value or to an error about
them. -/
theorem tame_apply {vs : List Value} (hstrict : f.isStrict = true)
    (h : f.arityError? vs.length = none) : Tame (f.apply vs) := by
  cases f with
  | arithmetic op =>
    obtain ⟨v, w, rfl⟩ := takes_two rfl h
    exact tame_applyArithmetic
  | equal | notEqual | sameTerm =>
    obtain ⟨v, w, rfl⟩ := takes_two rfl h
    exact tame_ok trivial
  | relation r =>
    obtain ⟨v, w, rfl⟩ := takes_two rfl h
    exact tame_applyRelation
  | not =>
    obtain ⟨v, rfl⟩ := takes_one rfl h
    exact tame_bind v.mild_truth fun b => tame_ok trivial
  | str =>
    obtain ⟨v, rfl⟩ := takes_one rfl h
    exact tame_applyStr
  | lang =>
    obtain ⟨v, rfl⟩ := takes_one rfl h
    exact tame_applyLang
  | datatype =>
    obtain ⟨v, rfl⟩ := takes_one rfl h
    exact tame_applyDatatype
  | kindTest k =>
    obtain ⟨v, rfl⟩ := takes_one rfl h
    exact tame_ok trivial
  | length | upper | lower | encode =>
    obtain ⟨v, rfl⟩ := takes_one rfl h
    exact tame_bind mild_textOf fun t => tame_ok trivial
  | concat => exact tame_concatenate
  | partTest p =>
    obtain ⟨v, w, rfl⟩ := takes_two rfl h
    exact tame_bind mild_textOf fun t => tame_bind mild_textOf fun part =>
      tame_ok trivial
  | regex =>
    rcases takes_two_or_three rfl h with ⟨v, w, rfl⟩ | ⟨v, w, u, rfl⟩
    · show Tame (applyRegex v w none)
      exact tame_applyRegex
    · show Tame (applyRegex v w (some u))
      exact tame_applyRegex
  | abs =>
    obtain ⟨v, rfl⟩ := takes_one rfl h
    exact tame_magnitude
  | round m =>
    obtain ⟨v, rfl⟩ := takes_one rfl h
    exact tame_rounded
  | real g =>
    obtain ⟨v, rfl⟩ := takes_one rfl h
    exact tame_bind mild_number fun x => tame_finite
  | pow =>
    obtain ⟨v, w, rfl⟩ := takes_two rfl h
    exact tame_applyPower
  | and | or | bound | choose | coalesce | now | unknown => exact nomatch hstrict

end Function

end RdfStore
