import RdfStore.Expr.Error
import RdfStore.Term.Notation
import RdfStore.Sorted.Set

/-!
# Expressions

Trees of constants, variables and calls. A call can be built with or without a check of the
number of its arguments.
-/

namespace RdfStore

inductive Expr where
  | const (t : Term)
  | var (name : String)
  | call (f : Function) (args : List Expr)
  deriving Inhabited

namespace Expr

mutual
def decideEq : (a b : Expr) → Decidable (a = b)
  | .const t, .const u =>
    if h : t = u then isTrue (h ▸ rfl) else isFalse fun e => h (Expr.const.inj e)
  | .var x, .var y =>
    if h : x = y then isTrue (h ▸ rfl) else isFalse fun e => h (Expr.var.inj e)
  | .call f as, .call g bs =>
    if h : f = g then
      match decideEqAll as bs with
      | isTrue k => isTrue (by rw [h, k])
      | isFalse k => isFalse fun e => k (Expr.call.inj e).2
    else isFalse fun e => h (Expr.call.inj e).1
  | .const _, .var _ => isFalse nofun
  | .const _, .call _ _ => isFalse nofun
  | .var _, .const _ => isFalse nofun
  | .var _, .call _ _ => isFalse nofun
  | .call _ _, .const _ => isFalse nofun
  | .call _ _, .var _ => isFalse nofun
def decideEqAll : (as bs : List Expr) → Decidable (as = bs)
  | [], [] => isTrue rfl
  | [], _ :: _ => isFalse nofun
  | _ :: _, [] => isFalse nofun
  | a :: as, b :: bs =>
    match decideEq a b with
    | isTrue h =>
      match decideEqAll as bs with
      | isTrue k => isTrue (by rw [h, k])
      | isFalse k => isFalse fun e => k (List.cons.inj e).2
    | isFalse h => isFalse fun e => h (List.cons.inj e).1
end

instance : DecidableEq Expr := decideEq

/-- The variable that a name with or without marks stands for. -/
def ofName (name : String) : Expr := .var (stripMarks name)

def checkedCall (f : Function) (args : List Expr) : Except EvalError Expr :=
  match f.arityError? args.length with
  | some e => .error e
  | none => .ok (.call f args)

def arguments : Expr → List Expr
  | .call _ args => args
  | _ => []

def rootName : Expr → String
  | .const t => t.text
  | .var x => "?" ++ x
  | .call f _ => f.name

/-- The same root over other arguments, as many as before. -/
def withArguments (e : Expr) (args : List Expr) : Except EvalError Expr :=
  if args.length = e.arguments.length then
    match e with
    | .call f _ => .ok (.call f args)
    | leaf => .ok leaf
  else .error (.arity e.rootName (Number.natText e.arguments.length) args.length)

mutual
def text : Expr → String
  | .const t => t.text
  | .var x => "?" ++ x
  | .call f args =>
    match f.isOperator, texts args with
    | true, [a, b] => "(" ++ a ++ " " ++ f.name ++ " " ++ b ++ ")"
    | _, ts =>
      if f = .not then "!" ++ Text.join ", " ts
      else if f.isExtension then "<" ++ f.name ++ ">(" ++ Text.join ", " ts ++ ")"
      else f.name ++ "(" ++ Text.join ", " ts ++ ")"
def texts : List Expr → List String
  | [] => []
  | e :: es => e.text :: texts es
end

mutual
/-- The variables of an expression, in the order of their occurrences. -/
def mentions : Expr → List String
  | .const _ => []
  | .var x => [x]
  | .call _ args => mentionsAll args
def mentionsAll : List Expr → List String
  | [] => []
  | e :: es => e.mentions ++ mentionsAll es
end

def varNames (e : Expr) : SortedSet String := .ofList e.mentions

end Expr

end RdfStore
