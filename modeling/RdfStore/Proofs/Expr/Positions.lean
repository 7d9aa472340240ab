import RdfStore.Proofs.Expr.Origin

/-!
# Arguments by position

A call checks the number of its arguments, and from there on everything that it does with them
relies on that check: arguments and values are read at fixed places, functions that evaluate their
arguments themselves are told apart from those that are applied to values, and functions of a real
number from all others. Here evaluation is written down in this way, with a fault wherever it would
be stuck (`Expr.run`). No expression runs into one, and the number of arguments that an error
complains about is that of a call which the evaluation goes to (`Expr.run_faultless`).
-/

namespace RdfStore

/-! ## Evaluation that can be stuck -/

/-- What no error of an evaluation reports. -/
inductive Fault where
  /-- A list is read at a place that it does not have. -/
  | outside (place count : ℕ)
  /-- A function that evaluates its arguments itself is applied to values. -/
  | preEvaluated (f : Function)
  /-- A function of anything else is applied to a real number. -/
  | notReal (f : Function)
  deriving DecidableEq

/-- An evaluation with a value or an error, unless it runs into a fault. -/
abbrev Guarded (α : Type) := ExceptT EvalError (Except Fault) α

namespace Guarded

variable {α β : Type}

/-- A value or an error, and no fault. -/
def of (o : Except EvalError α) : Guarded α := ExceptT.mk (.ok o)

def fault (x : Fault) : Guarded α := ExceptT.mk (.error x)

/-- The member of a list at a place. -/
def item (l : List α) (place : ℕ) : Guarded α :=
  match l[place]? with
  | some a => of (.ok a)
  | none => fault (.outside place l.length)

/-- The value of the argument at a place, by the evaluations of all arguments. -/
def valueAt (results : List (Guarded Value)) (place : ℕ) : Guarded Value := do
  let result ← item results place
  result

/-- The truth of the argument at a place. -/
def truthAt (results : List (Guarded Value)) (place : ℕ) : Guarded Bool := do
  let v ← valueAt results place
  of v.truth

/-- What an evaluation comes to, without its error being an error here. -/
def attempt (g : Guarded α) : Guarded (Except EvalError α) :=
  ExceptT.mk (g.run.map .ok)

theorem of_ne_fault {o : Except EvalError α} {x : Fault} : of o ≠ fault x := nofun

theorem of_bind (o : Except EvalError α) (f : α → Except EvalError β) :
    of (o >>= f) = of o >>= fun a => of (f a) := by
  cases o with
  | error err => rfl
  | ok a => rfl

section At

variable {results : List (Guarded Value)} {place : ℕ} {o : Outcome}

theorem valueAt_eq (h : results[place]? = some (of o)) : valueAt results place = of o := by
  unfold valueAt item
  rw [h]
  rfl

theorem truthAt_eq (h : results[place]? = some (of o)) : truthAt results place = of o.truth := by
  unfold truthAt
  rw [valueAt_eq h, ← of_bind]
  rfl

end At

end Guarded

/-! ## Functions -/

namespace Function

open Guarded (of fault item valueAt truthAt attempt)

/-- A function of a real number, at a value. -/
def realAt (f : Function) (v : Value) : Guarded Value := do
  let x ← of (f.number v)
  match f with
  | real g => of (f.finite x (g.apply x))
  | f => fault (.notReal f)

/-- The value of a function for values, which it reads one by one. -/
def applyAt (f : Function) (vs : List Value) : Guarded Value :=
  match f with
  | arithmetic op => do of (applyArithmetic op (← item vs 0) (← item vs 1))
  | equal => do return .boolean ((← item vs 0).same (← item vs 1))
  | notEqual => do return .boolean (!(← item vs 0).same (← item vs 1))
  | relation r => do of (applyRelation r (← item vs 0) (← item vs 1))
  | not => do return .boolean (!(← of (← item vs 0).truth))
  | str => do of (applyStr (← item vs 0))
  | lang => do of (applyLang (← item vs 0))
  | datatype => do of (applyDatatype (← item vs 0))
  | kindTest k => do return .boolean (k.holds (← item vs 0))
  | sameTerm => do return .boolean ((← item vs 0).toTerm = (← item vs 1).toTerm)
  | length => do
    let (s, _) ← of (length.textOf (← item vs 0))
    return .integer (Int64.ofNat s.length)
  | upper => do
    let (s, language) ← of (upper.textOf (← item vs 0))
    return .text (String.ofList (Text.upper s.toList)) language
  | lower => do
    let (s, language) ← of (lower.textOf (← item vs 0))
    return .text (String.ofList (Text.lower s.toList)) language
  | concat => of (concatenate vs)
  | partTest p => do
    let (s, _) ← of ((partTest p).textOf (← item vs 0))
    let (part, _) ← of ((partTest p).textOf (← item vs 1))
    return .boolean (p.holds s part)
  | regex => do
    let (s, _) ← of (regex.textOf (← item vs 0))
    let (pattern, _) ← of (regex.textOf (← item vs 1))
    -- Only the flags may be missing.
    let flags ←
      match vs[2]? with
      | some v => of ((regex.textOf v).map Prod.fst)
      | none => of (.ok "")
    return .boolean (← of (Regex.search s pattern flags))
  | encode => do
    let (s, _) ← of (encode.textOf (← item vs 0))
    return .text (String.ofList (Text.percentEncode isUnreserved s.toList)) none
  | abs => do of (magnitude (← item vs 0))
  | round m => do of (rounded m (← item vs 0))
  | real g => do (real g).realAt (← item vs 0)
  | pow => do of (applyPower (← item vs 0) (← item vs 1))
  | f => fault (.preEvaluated f)

/-- A connective of the arguments at the first two places. -/
def connectiveAt (decisive : Bool) (results : List (Guarded Value)) : Guarded Value := do
  let left ← attempt (truthAt results 0)
  let right ← attempt (truthAt results 1)
  of ((Outcome.join decisive left right).map .boolean)

/-- The choice between the arguments at the second and third place by the one at the first. -/
def chooseAt (results : List (Guarded Value)) : Guarded Value := do
  if ← truthAt results 0 then valueAt results 1 else valueAt results 2

/-- The first value, if only recoverable errors come before it; without any value the last error. -/
def firstOfAt (last : EvalError) : List (Guarded Value) → Guarded Value
  | [] => of (.error last)
  | result :: results => do
    match ← attempt result with
    | .ok v => return v
    | .error err => if err.isRecoverable then firstOfAt err results else of (.error err)

/-- What a function makes of the evaluations of its arguments. -/
def combineAt (f : Function) (row : Row) (now : DateTime) (args : List Expr)
    (results : List (Guarded Value)) : Guarded Value :=
  match f with
  | .unknown i => of (.error (.unevaluable i.text))
  | .and => connectiveAt false results
  | .or => connectiveAt true results
  | .bound => do
    match ← item args 0 with
    | .var x => return .boolean (row.contains x)
    | e => of (.error (.kind bound.name ("non-variable " ++ e.text)))
  | .choose => chooseAt results
  | .coalesce => firstOfAt (.kind coalesce.name "no arguments") results
  | .now => return .dateTime now.toUniversal
  | f => do f.applyAt (← results.mapM id)

end Function

namespace Expr

mutual
/-- The evaluation of an expression that reads arguments and values by position. -/
def run (row : Row) (now : DateTime) : Expr → Guarded Value
  | .const t => .of (.ok (.ofTerm t))
  | .var x => .of (row.value x)
  | .call f args =>
    match f.arityError? args.length with
    | some err => .of (.error err)
    | none => f.combineAt row now args (runAll row now args)
def runAll (row : Row) (now : DateTime) : List Expr → List (Guarded Value)
  | [] => []
  | e :: es => e.run row now :: runAll row now es
end

end Expr

/-! ## No faults -/

namespace Function

open Guarded (of of_bind valueAt_eq truthAt_eq)

variable {f : Function} {row : Row} {now : DateTime}

theorem realAt_real (g : RealFunction) (v : Value) :
    (real g).realAt v = of ((real g).apply [v]) := (of_bind _ _).symm

/-- A function that is given as many values as it takes reads no other ones. -/
theorem applyAt_eq {vs : List Value} (hstrict : f.isStrict = true)
    (h : f.arityError? vs.length = none) : f.applyAt vs = of (f.apply vs) := by
  cases f with
  | arithmetic op | equal | notEqual | relation r | sameTerm | pow =>
    obtain ⟨v, w, rfl⟩ := takes_two rfl h
    rfl
  | str | lang | datatype | kindTest k | abs | round m =>
    obtain ⟨v, rfl⟩ := takes_one rfl h
    rfl
  | not | length | upper | lower | encode =>
    obtain ⟨v, rfl⟩ := takes_one rfl h
    exact (of_bind _ _).symm
  | real g =>
    obtain ⟨v, rfl⟩ := takes_one rfl h
    exact realAt_real g v
  | concat => rfl
  | partTest p =>
    obtain ⟨v, w, rfl⟩ := takes_two rfl h
    simp only [apply, of_bind]
    rfl
  | regex =>
    rcases takes_two_or_three rfl h with ⟨v, w, rfl⟩ | ⟨v, w, u, rfl⟩
    · simp only [apply, applyRegex, of_bind]
      rfl
    · simp only [apply, applyRegex, of_bind]
      rfl
  | and | or | bound | choose | coalesce | now | unknown => exact nomatch hstrict

-- With another number of values it may read one that is not there.
example : str.applyAt [] = .fault (.outside 0 0) := rfl

theorem connectiveAt_eq (decisive : Bool) (o o' : Outcome) : connectiveAt decisive [of o, of o'] =
    of ((Outcome.join decisive o.truth o'.truth).map .boolean) := by
  unfold connectiveAt
  rw [truthAt_eq rfl, truthAt_eq rfl]
  rfl

theorem chooseAt_eq (c a b : Outcome) : chooseAt [of c, of a, of b] =
    of (c.truth >>= fun t => if t then a else b) := by
  unfold chooseAt
  rw [truthAt_eq rfl, valueAt_eq rfl, valueAt_eq rfl, of_bind]
  cases c.truth with
  | error err => rfl
  | ok t => cases t <;> rfl

theorem firstOfAt_eq (last : EvalError) (os : List Outcome) :
    firstOfAt last (os.map of) = of (Outcome.firstOf last os) := by
  induction os generalizing last with
  | nil => rfl
  | cons o os ih =>
    cases o with
    | ok v => rfl
    | error err =>
      show (if err.isRecoverable then firstOfAt err (os.map of) else of (.error err)) =
        of (if err.isRecoverable then Outcome.firstOf err os else .error err)
      rw [ih]
      split <;> rfl

theorem mapM_id_eq (os : List Outcome) : (os.map of).mapM id = of (Outcome.all os) := by
  induction os with
  | nil => rfl
  | cons o os ih =>
    rw [List.map_cons, List.mapM_cons, ih, Outcome.all, of_bind]
    simp only [of_bind]
    rfl

/-- A call with the right number of arguments reads them without a fault, if none is in them. -/
theorem combineAt_eq {args : List Expr} (h : f.arityError? args.length = none) :
    f.combineAt row now args ((Expr.evaluateAll row now args).map of) =
      of (f.combine row now args (Expr.evaluateAll row now args)) := by
  cases takes h with
  | strict hstrict =>
    have hcombineAt (results : List (Guarded Value)) :
        f.combineAt row now args results = results.mapM id >>= fun vs => f.applyAt vs := by
      cases f with
      | and | or | bound | choose | coalesce | now | unknown => exact nomatch hstrict
      | _ => rfl
    rw [hcombineAt, combine_of_isStrict hstrict, mapM_id_eq]
    cases hall : Outcome.all (Expr.evaluateAll row now args) with
    | error err => rfl
    | ok vs => exact applyAt_eq hstrict (Expr.arityError?_of_all h hall)
  | unknown i => rfl
  | now => rfl
  | bound a =>
    cases a with
    | var x => rfl
    | const t => rfl
    | call g bs => rfl
  | and a b => exact connectiveAt_eq false _ _
  | or a b => exact connectiveAt_eq true _ _
  | choose c a b => exact chooseAt_eq _ _ _
  | coalesce => exact firstOfAt_eq _ _

end Function

namespace Expr

theorem runAll_eq (row : Row) (now : DateTime) (args : List Expr) :
    runAll row now args = args.map (run row now) := by
  induction args with
  | nil => rfl
  | cons a args ih =>
    unfold runAll
    rw [ih, List.map_cons]

/-- Reading by position runs into no fault, and comes to what evaluation comes to. -/
theorem run_eq (row : Row) (now : DateTime) (e : Expr) :
    e.run row now = .of (e.evaluate row now) := by
  induction e using inductionOnArguments with
  | const t => rfl
  | var x => rfl
  | call f args ih =>
    unfold run evaluate
    cases h : f.arityError? args.length with
    | some err => rfl
    | none =>
      have hall : runAll row now args = (evaluateAll row now args).map Guarded.of := by
        rw [runAll_eq, evaluateAll_eq, List.map_map]
        exact List.map_congr_left ih
      dsimp only
      rw [hall]
      exact Function.combineAt_eq h

end Expr

/-! ## Faults and numbers of arguments -/

namespace Expr

/-- **No list of arguments is read past its end**, and no function is applied to what it is not made
for: the evaluation that reads by position has no faults, and it is evaluation. An error about a
number of arguments is that of a call which the evaluation goes to, and it says what the function
takes and what it is given; and a call with a number of arguments that the function does not take
has that error. -/
theorem run_faultless (row : Row) (now : DateTime) (e : Expr) :
    (∀ x, e.run row now ≠ .fault x) ∧ e.run row now = .of (e.evaluate row now) ∧
      (∀ name expected count, e.evaluate row now = .error (.arity name expected count) →
        ∃ f args a, e.Visits row now (.call f args) ∧ f.arity? = some a ∧
          a.accepts args.length = false ∧ name = f.name ∧ expected = a.text ∧
          count = args.length) ∧
      ∀ f args a, e = .call f args → f.arity? = some a → a.accepts args.length = false →
        e.evaluate row now = .error (.arity f.name a.text args.length) := by
  have hrun := run_eq row now e
  refine ⟨fun x => hrun ▸ Guarded.of_ne_fault, hrun, ?_, ?_⟩
  · intro name expected count h
    obtain ⟨f, args, hvisits, harity⟩ := exists_visits_of_arity h
    obtain ⟨a, ha, hrejects, herr⟩ := Function.arityError?_eq_some_iff.1 harity
    cases herr
    exact ⟨f, args, a, hvisits, ha, hrejects, rfl, rfl, rfl⟩
  · rintro f args a rfl ha hrejects
    exact evaluate_call_of_arityError (Function.arityError?_eq_some_iff.2 ⟨a, ha, hrejects, rfl⟩)

/-- The text of nothing. -/
def textless : Expr := .call .str []

/-- The question whether such a text is an IRI, denied. -/
def unasked : Expr := .call .not [.call (.kindTest .iri) [textless]]

/-- An error from two calls further down. -/
theorem run_faultless_unasked :
    let now : DateTime := ⟨2024, 1, 1, 12, 0, 0, 0, 0⟩
    textless.evaluate ∅ now = .error (.arity "STR" "1" 0) ∧
      unasked.evaluate ∅ now = .error (.arity "STR" "1" 0) ∧
      ∃ f args a, unasked.Visits ∅ now (.call f args) ∧ f.arity? = some a ∧
        a.accepts args.length = false ∧ "STR" = f.name ∧ "1" = a.text ∧ 0 = args.length := by
  intro now
  have hone : (Arity.exactly 1).text = "1" := by decide +kernel
  have htextless := (run_faultless ∅ now textless).2.2.2 .str [] (.exactly 1) rfl rfl rfl
  have hunasked : unasked.evaluate ∅ now =
      .error (.arity "STR" (Arity.exactly 1).text 0) := rfl
  rw [hone] at htextless hunasked
  exact ⟨htextless, hunasked, (run_faultless ∅ now unasked).2.2.1 _ _ _ hunasked⟩

end Expr

end RdfStore
