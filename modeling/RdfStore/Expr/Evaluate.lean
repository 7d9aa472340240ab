import RdfStore.Expr.Basic
import RdfStore.Expr.Functions
import RdfStore.Row.Basic

/-!
# Evaluation of expressions

An expression has a value for a row and a time, or a reason why it has none. Most functions
evaluate all their arguments, and the first error among them is theirs. Conjunction and
disjunction let a decisive side win over a recoverable error of the other side, and an
alternative goes on from recoverable errors; a function without an implementation is an error
everywhere (`EvalError.isRecoverable`).
-/

namespace RdfStore

abbrev Outcome := Except EvalError Value

def Row.value (row : Row) (name : String) : Outcome :=
  match row.find? name with
  | some t => .ok (.ofTerm t)
  | none => .error (.unbound name)

namespace Outcome

def truth (o : Outcome) : Except EvalError Bool := o.bind Value.truth

def all : List Outcome → Except EvalError (List Value)
  | [] => .ok []
  | o :: os => do return (← o) :: (← all os)

/-- Two truths joined, where one of them being `decisive` settles the answer. An error that is
not recoverable wins over everything, then a decisive side, then the first error. -/
def join (decisive : Bool) (left right : Except EvalError Bool) : Except EvalError Bool :=
  match left, right with
  | .ok l, .ok r => .ok (if l = decisive || r = decisive then decisive else !decisive)
  | .ok l, .error e => if e.isRecoverable && l = decisive then .ok decisive else .error e
  | .error e, .ok r => if e.isRecoverable && r = decisive then .ok decisive else .error e
  | .error e, .error e' =>
    if e.isRecoverable && !e'.isRecoverable then .error e' else .error e

/-- The first value, if only recoverable errors come before it; without any value the last
error. -/
def firstOf (last : EvalError) : List Outcome → Outcome
  | [] => .error last
  | .ok v :: _ => .ok v
  | .error e :: os => if e.isRecoverable then firstOf e os else .error e

end Outcome

/-- What a function makes of the outcomes of its arguments. The arguments themselves matter to
the test whether a variable is bound. The time is given in universal time. -/
def Function.combine (f : Function) (row : Row) (now : DateTime) (args : List Expr)
    (outcomes : List Outcome) : Outcome :=
  match f, args, outcomes with
  | .unknown i, _, _ => .error (.unevaluable i.text)
  | .and, _, [a, b] => (Outcome.join false a.truth b.truth).map .boolean
  | .or, _, [a, b] => (Outcome.join true a.truth b.truth).map .boolean
  | .bound, [.var x], _ => .ok (.boolean (row.contains x))
  | .bound, [e], _ => .error (.kind f.name ("non-variable " ++ e.text))
  | .choose, _, [c, a, b] => do if ← c.truth then a else b
  | .coalesce, _, os => Outcome.firstOf (.kind f.name "no arguments") os
  | .now, _, _ => .ok (.dateTime now.toUniversal)
  | f, _, os => do f.apply (← Outcome.all os)

namespace Expr

mutual
def evaluate (row : Row) (now : DateTime) : Expr → Outcome
  | .const t => .ok (.ofTerm t)
  | .var x => row.value x
  | .call f args =>
    match f.arityError? args.length with
    | some e => .error e
    | none => f.combine row now args (evaluateAll row now args)
def evaluateAll (row : Row) (now : DateTime) : List Expr → List Outcome
  | [] => []
  | e :: es => e.evaluate row now :: evaluateAll row now es
end

def holds (row : Row) (now : DateTime) (e : Expr) : Except EvalError Bool :=
  Outcome.truth (e.evaluate row now)

end Expr

end RdfStore
