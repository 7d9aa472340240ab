import RdfStore.Proofs.Expr.Visiting
import RdfStore.Proofs.Row.Renaming

/-!
# Expressions do not see the names of blank nodes

A value keeps the name of a blank node only if it is a term. Functions compare such values, tell
their kind or refuse them, and none makes a new one; so what a function comes to for renamed values
is what it comes to for the values as they were (`Function.apply_rename`). Expressions can pass a
blank node on, which then has its new name (`Expr.evaluate_rename`).
-/

namespace RdfStore

variable {π : Equiv.Perm Blank}

/-! ## Values -/

namespace Term

variable {t : Term}

theorem isIri_rename : (t.rename π).isIri = t.isIri := by
  cases t <;> rfl

theorem isBlank_rename : (t.rename π).isBlank = t.isBlank := by
  cases t <;> rfl

theorem isLiteral_rename : (t.rename π).isLiteral = t.isLiteral := by
  cases t <;> rfl

end Term

namespace Value

/-- The value with other names for the blank nodes of a term. -/
def rename (π : Equiv.Perm Blank) : Value → Value
  | term t => term (t.rename π)
  | v => v

def InOrder : Value → Prop
  | term t => t.InOrder
  | _ => True

variable {v w : Value} {t : Term}

theorem IsPlain.rename_eq (h : v.IsPlain) : v.rename π = v := by
  cases v with
  | term t =>
    cases t with
    | iri i => rfl
    | _ => exact nomatch h
  | _ => rfl

theorem IsPlain.inOrder (h : v.IsPlain) : v.InOrder := by
  cases v with
  | term t =>
    cases t with
    | iri i => trivial
    | _ => exact nomatch h
  | _ => trivial

theorem inOrder_literal (l : Literal) : (Term.literal l).InOrder := trivial

/-- The value of a typed literal is no term. -/
theorem isPlain_of_ofTyped? {s : String} {d : Iri} (h : ofTyped? s d = some v) : v.IsPlain := by
  have hmap {β : Type} {o : Option β} (f : β → Value) (hf : ∀ b, (f b).IsPlain)
      (h : o.map f = some v) : v.IsPlain := by
    obtain ⟨b, -, rfl⟩ := Option.map_eq_some_iff.1 h
    exact hf b
  unfold ofTyped? at h
  dsimp only at h
  repeat' split at h
  · exact Option.some.inj h ▸ trivial
  · exact hmap .integer (fun _ => trivial) h
  · exact hmap .double (fun _ => trivial) h
  · exact hmap .boolean (fun _ => trivial) h
  · exact hmap .dateTime (fun _ => trivial) h
  · exact nomatch h

theorem ofTerm_rename (t : Term) : ofTerm (t.rename π) = (ofTerm t).rename π := by
  cases t with
  | literal l =>
    obtain ⟨s, kind⟩ := l
    cases kind with
    | typed d =>
      show (ofTyped? s d).getD (.term (.literal ⟨s, .typed d⟩)) =
        ((ofTyped? s d).getD (.term (.literal ⟨s, .typed d⟩))).rename π
      cases h : ofTyped? s d with
      | none => rfl
      | some v => exact (isPlain_of_ofTyped? h).rename_eq.symm
    | _ => rfl
  | _ => rfl

theorem inOrder_ofTerm (h : t.InOrder) : (ofTerm t).InOrder := by
  cases t with
  | literal l =>
    obtain ⟨s, kind⟩ := l
    cases kind with
    | typed d =>
      show ((ofTyped? s d).getD (.term (.literal ⟨s, .typed d⟩))).InOrder
      cases hv : ofTyped? s d with
      | none => exact inOrder_literal ⟨s, .typed d⟩
      | some v => exact (isPlain_of_ofTyped? hv).inOrder
    | _ => trivial
  | _ => exact h

/-- A text is written as a literal. -/
theorem exists_textTerm (s : String) (g : Option String) : ∃ l, textTerm s g = .literal l := by
  unfold textTerm
  split
  · exact ⟨_, rfl⟩
  · split
    · exact ⟨_, rfl⟩
    · exact ⟨_, rfl⟩

theorem toTerm_rename (v : Value) : (v.rename π).toTerm = v.toTerm.rename π := by
  cases v with
  | text s g =>
    obtain ⟨l, hl⟩ := exists_textTerm s g
    show textTerm s g = (textTerm s g).rename π
    rw [hl]
    rfl
  | _ => rfl

theorem inOrder_toTerm (h : v.InOrder) : v.toTerm.InOrder := by
  cases v with
  | term t => exact h
  | text s g =>
    obtain ⟨l, hl⟩ := exists_textTerm s g
    show (textTerm s g).InOrder
    rw [hl]
    exact inOrder_literal l
  | _ => exact inOrder_literal _

/-! What functions look at in a value, it keeps under other names. -/

theorem kindName_rename : (v.rename π).kindName = v.kindName := by
  cases v with
  | term t => cases t <;> rfl
  | _ => rfl

theorem isNumeric_rename : (v.rename π).isNumeric = v.isNumeric := by
  cases v <;> rfl

theorem toFloat?_rename : (v.rename π).toFloat? = v.toFloat? := by
  cases v <;> rfl

theorem truth_rename : (v.rename π).truth = v.truth := by
  cases v with
  | term t => cases t <;> rfl
  | _ => rfl

theorem order?_rename : (v.rename π).order? (w.rename π) = v.order? w := by
  cases v <;> cases w <;> rfl

theorem same_rename (hv : v.InOrder) (hw : w.InOrder) :
    (v.rename π).same (w.rename π) = v.same w := by
  have hterms : ((v.rename π).toTerm = (w.rename π).toTerm) ↔ v.toTerm = w.toTerm := by
    rw [toTerm_rename, toTerm_rename, Term.rename_inj (inOrder_toTerm hv) (inOrder_toTerm hw)]
  have hplain : (if (v.rename π).isNumeric && (w.rename π).isNumeric then
        decide ((v.rename π).order? (w.rename π) = some .eq)
      else decide ((v.rename π).toTerm = (w.rename π).toTerm)) =
      if v.isNumeric && w.isNumeric then decide (v.order? w = some .eq)
      else decide (v.toTerm = w.toTerm) := by
    simp only [isNumeric_rename, order?_rename, hterms]
  -- Only two instants are compared in another way, and those have no names.
  cases v with
  | dateTime s =>
    cases w with
    | dateTime t => rfl
    | _ => exact hplain
  | _ => cases w <;> exact hplain

end Value

/-! ## Functions of values -/

namespace Function

variable {f : Function} {v w : Value}

theorem misapplied_rename : f.misapplied (v.rename π) = f.misapplied v := by
  unfold misapplied
  rw [Value.kindName_rename]

theorem number_rename : f.number (v.rename π) = f.number v := by
  unfold number
  rw [Value.toFloat?_rename, misapplied_rename]

theorem textOf_rename : f.textOf (v.rename π) = f.textOf v := by
  cases v with
  | term t => exact congrArg Except.error (misapplied_rename (v := .term t))
  | _ => rfl

theorem applyArithmetic_rename {op : ArithmeticOp} :
    applyArithmetic op (v.rename π) (w.rename π) = applyArithmetic op v w := by
  have hreal : (do
        let x ← (arithmetic op).number (v.rename π)
        let y ← (arithmetic op).number (w.rename π)
        doubleArithmetic op x y) = (do
        let x ← (arithmetic op).number v
        let y ← (arithmetic op).number w
        doubleArithmetic op x y) := by
    simp only [number_rename]
  cases v with
  | integer i =>
    cases w with
    | integer j => rfl
    | _ => exact hreal
  | _ => exact hreal

theorem applyRelation_rename {r : Relation} :
    applyRelation r (v.rename π) (w.rename π) = applyRelation r v w := by
  unfold applyRelation
  rw [Value.order?_rename, Value.kindName_rename, Value.kindName_rename]

theorem applyStr_rename : applyStr (v.rename π) = applyStr v := by
  unfold applyStr
  rw [Value.toTerm_rename, misapplied_rename]
  cases v.toTerm <;> rfl

theorem applyLang_rename : applyLang (v.rename π) = applyLang v := by
  unfold applyLang
  rw [Value.toTerm_rename, misapplied_rename]
  cases v.toTerm <;> rfl

theorem applyDatatype_rename : applyDatatype (v.rename π) = applyDatatype v := by
  unfold applyDatatype
  rw [Value.toTerm_rename, misapplied_rename]
  cases v.toTerm <;> rfl

theorem holds_rename {k : KindTest} : k.holds (v.rename π) = k.holds v := by
  cases k with
  | iri => exact (congrArg _ v.toTerm_rename).trans Term.isIri_rename
  | blank => exact (congrArg _ v.toTerm_rename).trans Term.isBlank_rename
  | literal => exact (congrArg _ v.toTerm_rename).trans Term.isLiteral_rename
  | numeric => exact Value.isNumeric_rename

theorem concatenate_rename (vs : List Value) :
    concatenate (vs.map (Value.rename π)) = concatenate vs := by
  have hparts : (vs.map (Value.rename π)).mapM concat.textOf = vs.mapM concat.textOf := by
    induction vs with
    | nil => rfl
    | cons v vs ih => rw [List.map_cons, List.mapM_cons, List.mapM_cons, textOf_rename, ih]
  unfold concatenate
  rw [hparts]

theorem magnitude_rename : magnitude (v.rename π) = magnitude v := by
  cases v with
  | term t => exact congrArg Except.error (misapplied_rename (v := .term t))
  | _ => rfl

theorem rounded_rename {m : RoundingMode} : rounded m (v.rename π) = rounded m v := by
  cases v with
  | term t => exact congrArg Except.error (misapplied_rename (v := .term t))
  | _ => rfl

theorem applyPower_rename : applyPower (v.rename π) (w.rename π) = applyPower v w := by
  have hreal : (do
        let b ← pow.number (v.rename π)
        let e ← pow.number (w.rename π)
        pow.finite b (b.pow e)) = (do
        let b ← pow.number v
        let e ← pow.number w
        pow.finite b (b.pow e)) := by
    simp only [number_rename]
  cases v with
  | integer i =>
    cases w with
    | integer j => rfl
    | _ => exact hreal
  | _ => exact hreal

theorem applyRegex_rename (flags : Option Value) :
    applyRegex (v.rename π) (w.rename π) (flags.map (Value.rename π)) = applyRegex v w flags := by
  unfold applyRegex
  cases flags with
  | none => simp only [textOf_rename, Option.map_none]
  | some u => simp only [textOf_rename, Option.map_some]

/-- **Functions do not see names.** A function that is given as many values as it takes comes to the
same under other names of their blank nodes. -/
theorem apply_rename {vs : List Value} (hstrict : f.isStrict = true)
    (h : f.arityError? vs.length = none) (hvs : ∀ v ∈ vs, v.InOrder) :
    f.apply (vs.map (Value.rename π)) = f.apply vs := by
  have htext {g : Function} {v : Value} (k : String × Option String → Outcome) :
      (g.textOf (v.rename π) >>= k) = (g.textOf v >>= k) := by
    rw [textOf_rename]
  cases f with
  | arithmetic op =>
    obtain ⟨v, w, rfl⟩ := takes_two rfl h
    exact applyArithmetic_rename
  | equal =>
    obtain ⟨v, w, rfl⟩ := takes_two rfl h
    exact congrArg (fun b => Except.ok (Value.boolean b))
      (Value.same_rename (hvs v (by simp)) (hvs w (by simp)))
  | notEqual =>
    obtain ⟨v, w, rfl⟩ := takes_two rfl h
    exact congrArg (fun b => Except.ok (Value.boolean (!b)))
      (Value.same_rename (hvs v (by simp)) (hvs w (by simp)))
  | sameTerm =>
    obtain ⟨v, w, rfl⟩ := takes_two rfl h
    have hv := Value.inOrder_toTerm (hvs v (by simp))
    have hw := Value.inOrder_toTerm (hvs w (by simp))
    show Except.ok (Value.boolean (decide ((v.rename π).toTerm = (w.rename π).toTerm))) =
      .ok (.boolean (decide (v.toTerm = w.toTerm)))
    simp only [Value.toTerm_rename, Term.rename_inj hv hw]
  | relation r =>
    obtain ⟨v, w, rfl⟩ := takes_two rfl h
    exact applyRelation_rename
  | not =>
    obtain ⟨v, rfl⟩ := takes_one rfl h
    exact congrArg (· >>= fun b => pure (Value.boolean (!b))) Value.truth_rename
  | str =>
    obtain ⟨v, rfl⟩ := takes_one rfl h
    exact applyStr_rename
  | lang =>
    obtain ⟨v, rfl⟩ := takes_one rfl h
    exact applyLang_rename
  | datatype =>
    obtain ⟨v, rfl⟩ := takes_one rfl h
    exact applyDatatype_rename
  | kindTest k =>
    obtain ⟨v, rfl⟩ := takes_one rfl h
    exact congrArg (fun b => Except.ok (Value.boolean b)) holds_rename
  | length | upper | lower | encode =>
    obtain ⟨v, rfl⟩ := takes_one rfl h
    exact htext _
  | concat => exact concatenate_rename vs
  | partTest p =>
    obtain ⟨v, w, rfl⟩ := takes_two rfl h
    refine (htext _).trans ?_
    exact bind_congr fun _ => htext _
  | regex =>
    rcases takes_two_or_three rfl h with ⟨v, w, rfl⟩ | ⟨v, w, u, rfl⟩
    · exact applyRegex_rename none
    · exact applyRegex_rename (some u)
  | abs =>
    obtain ⟨v, rfl⟩ := takes_one rfl h
    exact magnitude_rename
  | round m =>
    obtain ⟨v, rfl⟩ := takes_one rfl h
    exact rounded_rename
  | real g =>
    obtain ⟨v, rfl⟩ := takes_one rfl h
    exact congrArg (· >>= _) number_rename
  | pow =>
    obtain ⟨v, w, rfl⟩ := takes_two rfl h
    exact applyPower_rename
  | and | or | bound | choose | coalesce | now | unknown => exact nomatch hstrict

end Function

/-! ## Corresponding outcomes -/

/-- Both results are related values, or both are errors, recoverable or not. -/
inductive Corresponds {α : Type} (R : α → α → Prop) :
    Except EvalError α → Except EvalError α → Prop
  | ok {a b : α} : R a b → Corresponds R (.ok a) (.ok b)
  | error {e e' : EvalError} : e.isRecoverable = e'.isRecoverable →
      Corresponds R (.error e) (.error e')

/-- The second value is the first one, whose formulas are in order, under other names. -/
def Value.Renamed (π : Equiv.Perm Blank) (v w : Value) : Prop := v.InOrder ∧ v.rename π = w

namespace Corresponds

variable {α β : Type} {R : α → α → Prop} {S : β → β → Prop} {o o' : Except EvalError α}

theorem refl (r : Except EvalError α) : Corresponds Eq r r := by
  cases r with
  | error e => exact .error rfl
  | ok a => exact .ok rfl

theorem bind {f g : α → Except EvalError β} (h : Corresponds R o o')
    (hfg : ∀ a b, R a b → Corresponds S (f a) (g b)) : Corresponds S (o >>= f) (o' >>= g) := by
  cases h with
  | ok hab => exact hfg _ _ hab
  | error he => exact .error he

theorem plain {v : Value} (h : v.IsPlain) : Corresponds (Value.Renamed π) (.ok v) (.ok v) :=
  .ok ⟨h.inOrder, h.rename_eq⟩

theorem truth {o o' : Outcome} (h : Corresponds (Value.Renamed π) o o') :
    Corresponds Eq o.truth o'.truth := by
  refine h.bind fun v w hvw => ?_
  obtain ⟨-, rfl⟩ := hvw
  rw [Value.truth_rename]
  exact refl _

/-- All outcomes have values if the corresponding ones do. -/
theorem all {os os' : List Outcome} (h : List.Forall₂ (Corresponds (Value.Renamed π)) os os') :
    Corresponds (fun vs ws => (∀ v ∈ vs, v.InOrder) ∧ vs.map (Value.rename π) = ws)
      (Outcome.all os) (Outcome.all os') := by
  induction h with
  | nil => exact .ok ⟨nofun, rfl⟩
  | cons ho _ ih =>
    refine ho.bind fun v w hvw => ih.bind fun vs ws hvs => .ok ?_
    obtain ⟨hv, rfl⟩ := hvw
    obtain ⟨hvs, rfl⟩ := hvs
    exact ⟨List.forall_mem_cons.2 ⟨hv, hvs⟩, rfl⟩

theorem firstOf {os os' : List Outcome}
    (h : List.Forall₂ (Corresponds (Value.Renamed π)) os os') {last last' : EvalError}
    (hlast : last.isRecoverable = last'.isRecoverable) :
    Corresponds (Value.Renamed π) (Outcome.firstOf last os) (Outcome.firstOf last' os') := by
  induction h generalizing last last' with
  | nil => exact .error hlast
  | cons ho _ ih =>
    unfold Outcome.firstOf
    cases ho with
    | ok hvw => exact .ok hvw
    | @error e e' he =>
      dsimp only
      rw [he]
      split
      · exact ih he
      · exact .error he

theorem join (decisive : Bool) {l l' r r' : Except EvalError Bool} (hl : Corresponds Eq l l')
    (hr : Corresponds Eq r r') :
    Corresponds Eq (Outcome.join decisive l r) (Outcome.join decisive l' r') := by
  unfold Outcome.join
  cases hl with
  | ok hl =>
    obtain rfl := hl
    cases hr with
    | ok hr =>
      obtain rfl := hr
      exact refl _
    | error he =>
      dsimp only
      rw [he]
      split
      · exact refl _
      · exact .error he
  | error he =>
    cases hr with
    | ok hr =>
      obtain rfl := hr
      dsimp only
      rw [he]
      split
      · exact refl _
      · exact .error he
    | error he' =>
      dsimp only
      rw [he, he']
      split
      · exact .error he'
      · exact .error he

theorem map_boolean {o o' : Except EvalError Bool} (h : Corresponds Eq o o') :
    Corresponds (Value.Renamed π) (o.map .boolean) (o'.map .boolean) := by
  cases h with
  | ok hab =>
    obtain rfl := hab
    exact plain trivial
  | error he => exact .error he

end Corresponds

/-- A function that is applied to renamed values comes to what it came to. -/
theorem Function.corresponds_apply {f : Function} {vs : List Value} (hstrict : f.isStrict = true)
    (h : f.arityError? vs.length = none) (hvs : ∀ v ∈ vs, v.InOrder) :
    Corresponds (Value.Renamed π) (f.apply vs) (f.apply (vs.map (Value.rename π))) := by
  rw [apply_rename hstrict h hvs]
  cases hv : f.apply vs with
  | error e => exact .error rfl
  | ok v => exact .plain ((tame_apply hstrict h).2 v hv)

/-! ## Expressions -/

namespace Expr

mutual
/-- The expression with other names for the blank nodes of its terms. -/
def rename (π : Equiv.Perm Blank) : Expr → Expr
  | .const t => .const (t.rename π)
  | .var x => .var x
  | .call f args => .call f (renameAll π args)
def renameAll (π : Equiv.Perm Blank) : List Expr → List Expr
  | [] => []
  | e :: es => e.rename π :: renameAll π es
end

mutual
def InOrder : Expr → Prop
  | .const t => t.InOrder
  | .var _ => True
  | .call _ args => AllInOrder args
def AllInOrder : List Expr → Prop
  | [] => True
  | e :: es => e.InOrder ∧ AllInOrder es
end

theorem renameAll_eq (π : Equiv.Perm Blank) (es : List Expr) :
    renameAll π es = es.map (rename π) := by
  induction es with
  | nil => rfl
  | cons e es ih =>
    unfold renameAll
    rw [ih]
    rfl

theorem allInOrder_iff {es : List Expr} : AllInOrder es ↔ ∀ e ∈ es, e.InOrder := by
  induction es with
  | nil =>
    unfold AllInOrder
    simp
  | cons e es ih =>
    unfold AllInOrder
    rw [ih, List.forall_mem_cons]

variable {row : Row} {now : DateTime} {f : Function} {args : List Expr} {e : Expr}

theorem corresponds_value (hrow : row.InOrder) (x : String) :
    Corresponds (Value.Renamed π) (row.value x) ((row.rename π).value x) := by
  unfold Row.value
  rw [Row.find?_rename]
  cases h : row.find? x with
  | none => exact .error rfl
  | some t => exact .ok ⟨Value.inOrder_ofTerm (hrow x t h), (Value.ofTerm_rename t).symm⟩

section Calls

variable (h : ∀ a ∈ args, Corresponds (Value.Renamed π) (a.evaluate row now)
  ((a.rename π).evaluate (row.rename π) now))

include h

theorem corresponds_outcomes : List.Forall₂ (Corresponds (Value.Renamed π))
    (evaluateAll row now args) (evaluateAll (row.rename π) now (args.map (rename π))) := by
  rw [evaluateAll_eq, evaluateAll_eq, List.forall₂_map_left_iff, List.map_map,
    List.forall₂_map_right_iff, List.forall₂_same]
  exact h

/-- A function that evaluates all its arguments sees their values only. -/
theorem corresponds_strict (hstrict : f.isStrict = true)
    (harity : f.arityError? args.length = none)
    (harity' : f.arityError? (args.map (rename π)).length = none) :
    Corresponds (Value.Renamed π) ((call f args).evaluate row now)
      ((call f (args.map (rename π))).evaluate (row.rename π) now) := by
  rw [evaluate_strict hstrict harity, evaluate_strict hstrict harity']
  have hall := Corresponds.all (corresponds_outcomes h)
  generalize hvalues : Outcome.all (evaluateAll row now args) = o at hall ⊢
  generalize Outcome.all (evaluateAll (row.rename π) now (args.map (rename π))) = o' at hall ⊢
  cases hall with
  | error he => exact .error he
  | @ok vs _ hvs =>
    obtain ⟨hvs, rfl⟩ := hvs
    exact Function.corresponds_apply hstrict (arityError?_of_all harity hvalues) hvs

/-- A call corresponds if its arguments do. Only the functions that look at their arguments in a way
of their own need more than that functions do not see names. -/
theorem corresponds_call : Corresponds (Value.Renamed π) ((call f args).evaluate row now)
    ((call f (args.map (rename π))).evaluate (row.rename π) now) := by
  have hlength : (args.map (rename π)).length = args.length := List.length_map _
  cases harity : f.arityError? args.length with
  | some err =>
    rw [evaluate_call_of_arityError harity, evaluate_call_of_arityError (hlength ▸ harity)]
    exact .error rfl
  | none =>
    cases Function.takes harity with
    | strict hstrict => exact corresponds_strict h hstrict harity (hlength ▸ harity)
    | unknown i => exact .error rfl
    | now => exact .plain trivial
    | bound a =>
      cases a with
      | var x =>
        show Corresponds (Value.Renamed π) (.ok (.boolean (row.contains x)))
          (.ok (.boolean ((row.rename π).contains x)))
        rw [Row.contains_rename]
        exact .plain trivial
      | const t => exact .error rfl
      | call g bs => exact .error rfl
    | and a b => exact .map_boolean (.join false (h a (by simp)).truth (h b (by simp)).truth)
    | or a b => exact .map_boolean (.join true (h a (by simp)).truth (h b (by simp)).truth)
    | choose c a b =>
      refine (h c (by simp)).truth.bind fun t t' ht => ?_
      obtain rfl := ht
      cases t with
      | true => exact h a (by simp)
      | false => exact h b (by simp)
    | coalesce =>
      rw [evaluate_call harity, evaluate_call (hlength ▸ harity)]
      exact .firstOf (corresponds_outcomes h) rfl

end Calls

/-- **Expressions do not see names.** Under other names of blank nodes, in the expression and in the
row, an expression has the value that it had, under its new name, or an error that is recoverable if
it was. -/
theorem evaluate_rename (hrow : row.InOrder) (now : DateTime) (he : e.InOrder) :
    Corresponds (Value.Renamed π) (e.evaluate row now)
      ((e.rename π).evaluate (row.rename π) now) := by
  induction e using inductionOnArguments with
  | const t => exact .ok ⟨Value.inOrder_ofTerm he, (Value.ofTerm_rename t).symm⟩
  | var x => exact corresponds_value hrow x
  | call f args ih =>
    have hargs : ∀ a ∈ args, a.InOrder := allInOrder_iff.1 he
    have hrename : (call f args).rename π = call f (args.map (rename π)) := by
      rw [← renameAll_eq]
      rfl
    rw [hrename]
    exact corresponds_call fun a ha => ih a ha (hargs a ha)

end Expr

end RdfStore
