import RdfStore.Number.Decimal
import RdfStore.Expr.Function

/-!
# Errors of evaluation

Why an expression has no value. Only a function without an implementation is fatal; every other
cause is recoverable, which conditions, alternatives and extensions make use of.
-/

namespace RdfStore

inductive PatternFault where
  | flag (c : Char)
  | form
  deriving DecidableEq, Repr

inductive EvalError where
  | unevaluable (function : String)
  | domain (function : String) (argument : Float)
  | unbound (name : String)
  | kind (function found : String)
  | divisionByZero
  | overflow (function : String)
  | arity (function expected : String) (actual : Nat)
  | pattern (text : String) (fault : PatternFault)

def PatternFault.message : PatternFault → String
  | flag c => "unsupported flag '" ++ String.singleton c ++ "'"
  | form => "malformed pattern"

namespace EvalError

def message : EvalError → String
  | unevaluable f => "No implementation for " ++ f ++ " available"
  | domain f x => f ++ " is undefined for input " ++ Number.floatText x
  | unbound x => "variable ?" ++ x ++ " is not bound"
  | kind f found => f ++ " cannot be applied to " ++ found
  | divisionByZero => "division by zero"
  | overflow f => "integer overflow in " ++ f
  | arity f expected actual =>
    f ++ " expects " ++ expected ++ " argument(s), got " ++ Number.natText actual
  | pattern text fault => "invalid regular expression '" ++ text ++ "': " ++ fault.message

/-- Whether an evaluation may go on without the value. -/
def isRecoverable : EvalError → Bool
  | unevaluable _ => false
  | _ => true

end EvalError

/-- The error of a call with the wrong number of arguments, if it is wrong. -/
def Function.arityError? (f : Function) (count : Nat) : Option EvalError :=
  match f.arity? with
  | some a => if a.accepts count then none else some (.arity f.name a.text count)
  | none => none

end RdfStore
