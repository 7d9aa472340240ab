import RdfStore.Term.Build

/-!
# Functions of expressions

Every function that an expression can call, the name it is written with, and how many arguments
it takes. Keywords are found in any case of ASCII letters; the mathematical extensions have IRIs
of one namespace, and any other IRI names a function without an implementation.
-/

namespace RdfStore

inductive ArithmeticOp where
  | add
  | subtract
  | multiply
  | divide
  deriving DecidableEq, Repr

inductive Relation where
  | less
  | lessOrEqual
  | greater
  | greaterOrEqual
  deriving DecidableEq, Repr

inductive KindTest where
  | iri
  | blank
  | literal
  | numeric
  deriving DecidableEq, Repr

inductive PartTest where
  | contains
  | starts
  | ends
  deriving DecidableEq, Repr

inductive RoundingMode where
  | up
  | down
  | half
  deriving DecidableEq, Repr

inductive RealFunction where
  | sin
  | cos
  | tan
  | arcsin
  | arccos
  | arctan
  | sqrt
  | ln
  deriving DecidableEq, Repr

inductive Function where
  | arithmetic (op : ArithmeticOp)
  | equal
  | notEqual
  | relation (r : Relation)
  | and
  | or
  | not
  | bound
  | str
  | lang
  | datatype
  | kindTest (k : KindTest)
  | sameTerm
  | choose
  | coalesce
  | length
  | upper
  | lower
  | concat
  | partTest (p : PartTest)
  | regex
  | encode
  | abs
  | round (m : RoundingMode)
  | now
  | real (f : RealFunction)
  | pow
  | unknown (i : Iri)
  deriving DecidableEq, Repr

inductive Arity where
  | exactly (n : Nat)
  | between (least most : Nat)
  | atLeast (n : Nat)
  deriving DecidableEq, Repr

def Arity.accepts : Arity → Nat → Bool
  | exactly n, k => k = n
  | between least most, k => least ≤ k && k ≤ most
  | atLeast n, k => n ≤ k

def Arity.text : Arity → String
  | exactly n => Number.natText n
  | between least most => Number.natText least ++ " to " ++ Number.natText most
  | atLeast n => "at least " ++ Number.natText n

def extensionNamespace : String := "urn:kestrel:fn:"

/-- The name of a function of one real number in its namespace. An inverse has the name of its
function and `-1`. -/
def RealFunction.localName : RealFunction → String
  | sin => "sin"
  | cos => "cos"
  | tan => "tan"
  | arcsin => "sin-1"
  | arccos => "cos-1"
  | arctan => "tan-1"
  | sqrt => "sqrt"
  | ln => "ln"

namespace Function

def name : Function → String
  | arithmetic .add => "+"
  | arithmetic .subtract => "-"
  | arithmetic .multiply => "*"
  | arithmetic .divide => "/"
  | equal => "="
  | notEqual => "!="
  | relation .less => "<"
  | relation .lessOrEqual => "<="
  | relation .greater => ">"
  | relation .greaterOrEqual => ">="
  | and => "&&"
  | or => "||"
  | not => "!"
  | bound => "BOUND"
  | str => "STR"
  | lang => "LANG"
  | datatype => "DATATYPE"
  | kindTest .iri => "ISIRI"
  | kindTest .blank => "ISBLANK"
  | kindTest .literal => "ISLITERAL"
  | kindTest .numeric => "ISNUMERIC"
  | sameTerm => "SAMETERM"
  | choose => "IF"
  | coalesce => "COALESCE"
  | length => "STRLEN"
  | upper => "UCASE"
  | lower => "LCASE"
  | concat => "CONCAT"
  | partTest .contains => "CONTAINS"
  | partTest .starts => "STRSTARTS"
  | partTest .ends => "STRENDS"
  | regex => "REGEX"
  | encode => "ENCODE_FOR_URI"
  | abs => "ABS"
  | round .up => "CEIL"
  | round .down => "FLOOR"
  | round .half => "ROUND"
  | now => "NOW"
  | real f => extensionNamespace ++ f.localName
  | pow => extensionNamespace ++ "pow"
  | unknown i => i.text

def keywords : List Function :=
  [arithmetic .add, arithmetic .subtract, arithmetic .multiply, arithmetic .divide,
    equal, notEqual, relation .less, relation .lessOrEqual, relation .greater,
    relation .greaterOrEqual, and, or, not, bound, str, lang, datatype,
    kindTest .iri, kindTest .blank, kindTest .literal, kindTest .numeric, sameTerm,
    choose, coalesce, length, upper, lower, concat,
    partTest .contains, partTest .starts, partTest .ends, regex, encode,
    abs, round .up, round .down, round .half, now]

def extensions : List Function :=
  [real .sin, real .cos, real .tan, real .arcsin, real .arccos, real .arctan,
    real .sqrt, real .ln, pow]

def ofName (text : String) : Except TermError Function :=
  let capitals := String.ofList (text.toList.map Char.toUpper)
  match keywords.find? fun f => f.name = capitals with
  | some f => .ok f
  | none =>
    match extensions.find? fun f => f.name = text with
    | some f => .ok f
    | none =>
      match Iri.read text with
      | .ok i => .ok (unknown i)
      | .error _ => .error (.functionName text)

/-- How many arguments a function takes; nothing is known of one without implementation. -/
def arity? : Function → Option Arity
  | arithmetic _ => some (.exactly 2)
  | equal => some (.exactly 2)
  | notEqual => some (.exactly 2)
  | relation _ => some (.exactly 2)
  | and => some (.exactly 2)
  | or => some (.exactly 2)
  | not => some (.exactly 1)
  | bound => some (.exactly 1)
  | str => some (.exactly 1)
  | lang => some (.exactly 1)
  | datatype => some (.exactly 1)
  | kindTest _ => some (.exactly 1)
  | sameTerm => some (.exactly 2)
  | choose => some (.exactly 3)
  | coalesce => some (.atLeast 1)
  | length => some (.exactly 1)
  | upper => some (.exactly 1)
  | lower => some (.exactly 1)
  | concat => some (.atLeast 0)
  | partTest _ => some (.exactly 2)
  | regex => some (.between 2 3)
  | encode => some (.exactly 1)
  | abs => some (.exactly 1)
  | round _ => some (.exactly 1)
  | now => some (.exactly 0)
  | real _ => some (.exactly 1)
  | pow => some (.exactly 2)
  | unknown _ => none

def isOperator : Function → Bool
  | arithmetic _ => true
  | equal => true
  | notEqual => true
  | relation _ => true
  | and => true
  | or => true
  | _ => false

def isExtension : Function → Bool
  | real _ => true
  | pow => true
  | unknown _ => true
  | _ => false

end Function

end RdfStore
