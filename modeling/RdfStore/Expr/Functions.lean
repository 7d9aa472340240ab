import RdfStore.Expr.Error
import RdfStore.Value.Basic
import RdfStore.Regex.Reader
import RdfStore.Text.Percent

/-!
# What functions do with values

The functions that need only the values of their arguments: arithmetic, comparisons, questions
about terms, and functions of text and of real numbers. Integers stay exact: a result that does
not fit into 64 bits is an error.
-/

namespace RdfStore

def Value.truth (v : Value) : Except EvalError Bool :=
  match v.truth? with
  | some b => .ok b
  | none => .error (.kind "EBV" v.kindName)

def Relation.allows : Relation → Ordering → Bool
  | .less, o => o = .lt
  | .lessOrEqual, o => o ≠ .gt
  | .greater, o => o = .gt
  | .greaterOrEqual, o => o ≠ .lt

def PartTest.holds (question : PartTest) (s part : String) : Bool :=
  match question with
  | .contains => Text.contains part.toList s.toList
  | .starts => Text.startsWith s.toList part.toList
  | .ends => Text.endsWith s.toList part.toList

/-- A double rounded to a whole number; a half is rounded up. -/
def RoundingMode.apply : RoundingMode → Float → Float
  | .up, x => x.ceil
  | .down, x => x.floor
  | .half, x => (x + 0.5).floor

def RealFunction.apply : RealFunction → Float → Float
  | .sin, x => x.sin
  | .cos, x => x.cos
  | .tan, x => x.tan
  | .arcsin, x => x.asin
  | .arccos, x => x.acos
  | .arctan, x => x.atan
  | .sqrt, x => x.sqrt
  | .ln, x => x.log

/-- Whether a term is of the kind that a question asks for. Numbers are told by their value. -/
def KindTest.holds : KindTest → Value → Bool
  | .iri, v => v.toTerm.isIri
  | .blank, v => v.toTerm.isBlank
  | .literal, v => v.toTerm.isLiteral
  | .numeric, v => v.isNumeric

/-- The datatype of a literal. One without a datatype of its own has that of plain text or that
of text with a language. -/
def Literal.datatype (l : Literal) : Iri :=
  match l.kind with
  | .simple => Vocabulary.xsdString
  | .tagged _ => Vocabulary.rdfLangString
  | .typed d => d

/-- Flags with those that letters name set. Outside a pattern four letters have a meaning. -/
def Regex.Flags.read (f : Regex.Flags) : List Char → Except PatternFault Regex.Flags
  | [] => .ok f
  | 'i' :: cs => read { f with anyCase := true } cs
  | 'm' :: cs => read { f with lines := true } cs
  | 's' :: cs => read { f with dotAll := true } cs
  | 'x' :: cs => read { f with spaced := true } cs
  | c :: _ => .error (.flag c)

def Regex.search (text pattern flags : String) : Except EvalError Bool := do
  let f ← (Flags.off.read flags.toList).mapError (EvalError.pattern pattern)
  match Regex.read? f pattern.toList with
  | some r => return r.occursIn text.toList
  | none => throw (.pattern pattern .form)

namespace Function

def misapplied (f : Function) (v : Value) : EvalError := .kind f.name v.kindName

/-- A number as a double, or the error that the function does not apply. -/
def number (f : Function) (v : Value) : Except EvalError Float :=
  match v.toFloat? with
  | some x => .ok x
  | none => .error (f.misapplied v)

def exact (f : Function) (i : Int) : Except EvalError Value :=
  match Number.toInt64? i with
  | some w => .ok (.integer w)
  | none => .error (.overflow f.name)

/-- A double if it is finite; otherwise the function is undefined for its argument. -/
def finite (f : Function) (argument result : Float) : Except EvalError Value :=
  if result.isFinite then .ok (.double result) else .error (.domain f.name argument)

/-- An operation on two integers. Division leaves the integers. -/
def integerArithmetic (op : ArithmeticOp) (i j : Int64) : Except EvalError Value :=
  let f := arithmetic op
  match op with
  | .add => f.exact (i.toInt + j.toInt)
  | .subtract => f.exact (i.toInt - j.toInt)
  | .multiply => f.exact (i.toInt * j.toInt)
  | .divide =>
    if j = 0 then .error .divisionByZero else .ok (.double (i.toFloat / j.toFloat))

def doubleArithmetic (op : ArithmeticOp) (x y : Float) : Except EvalError Value :=
  match op with
  | .add => .ok (.double (x + y))
  | .subtract => .ok (.double (x - y))
  | .multiply => .ok (.double (x * y))
  | .divide => if y == 0.0 then .error .divisionByZero else .ok (.double (x / y))

/-- An operation on two numbers: exact on integers, and on doubles as soon as one is a double. -/
def applyArithmetic (op : ArithmeticOp) : Value → Value → Except EvalError Value
  | .integer i, .integer j => integerArithmetic op i j
  | a, b => do
    let x ← (arithmetic op).number a
    let y ← (arithmetic op).number b
    doubleArithmetic op x y

/-- The text of a value and its language, or the error that the function does not apply. -/
def textOf (f : Function) (v : Value) : Except EvalError (String × Option String) :=
  match v with
  | .text s language => .ok (s, language)
  | v => .error (f.misapplied v)

def applyRelation (r : Relation) (a b : Value) : Except EvalError Value :=
  match a.order? b with
  | some o => .ok (.boolean (r.allows o))
  | none => .error (.kind (relation r).name (a.kindName ++ " and " ++ b.kindName))

/-- Texts one after the other. The language of the whole is that of the parts if they agree. -/
def concatenate (vs : List Value) : Except EvalError Value := do
  let parts ← vs.mapM concat.textOf
  let language :=
    match parts with
    | [] => none
    | (_, g) :: rest => if rest.all fun part => part.2 = g then g else none
  return .text (String.join (parts.map Prod.fst)) language

def isUnreserved (c : Char) : Bool :=
  c.isAlphanum || c = '-' || c = '_' || c = '.' || c = '~'

def magnitude : Value → Except EvalError Value
  | .integer i => abs.exact i.toInt.natAbs
  | .double x => .ok (.double x.abs)
  | v => .error (abs.misapplied v)

def rounded (m : RoundingMode) : Value → Except EvalError Value
  | .integer i => .ok (.integer i)
  | .double x => .ok (.double (m.apply x))
  | v => .error ((round m).misapplied v)

/-- A power of an integer, if it fits into 64 bits. A base other than 0, 1 and -1 has no such
power from the exponent 64 on, and those three depend on the parity of the exponent only, so no
exponent above 65 is ever raised to. -/
def integerPower (base : Int64) (exponent : Nat) : Except EvalError Value :=
  let capped := if exponent ≤ 65 then exponent else 64 + exponent % 2
  pow.exact (Int.pow base.toInt capped)

/-- A power of two numbers: exact for a whole base and a whole exponent below `2 ^ 32`. -/
def applyPower (base exponent : Value) : Except EvalError Value :=
  let real : Except EvalError Value := do
    let b ← pow.number base
    let e ← pow.number exponent
    pow.finite b (b.pow e)
  match base, exponent with
  | .integer b, .integer e =>
    if 0 ≤ e.toInt ∧ e.toInt < 4294967296 then integerPower b e.toInt.toNat else real
  | _, _ => real

def applyStr (v : Value) : Except EvalError Value :=
  match v.toTerm with
  | .iri i => .ok (.text i.text none)
  | .literal l => .ok (.text l.value none)
  | _ => .error (str.misapplied v)

def applyLang (v : Value) : Except EvalError Value :=
  match v.toTerm with
  | .literal l => .ok (.text (l.language?.getD "") none)
  | _ => .error (lang.misapplied v)

def applyDatatype (v : Value) : Except EvalError Value :=
  match v.toTerm with
  | .literal l => .ok (.term (.iri l.datatype))
  | _ => .error (datatype.misapplied v)

/-- Whether a pattern occurs in a text, under flags if any are given. -/
def applyRegex (text pattern : Value) (flags : Option Value) : Except EvalError Value := do
  let (t, _) ← regex.textOf text
  let (p, _) ← regex.textOf pattern
  let f ←
    match flags with
    | some v => (regex.textOf v).map Prod.fst
    | none => .ok ""
  return .boolean (← Regex.search t p f)

/-- The value of a function for values. A function that needs more than values, or another number
of them, has none. -/
def apply (f : Function) (vs : List Value) : Except EvalError Value :=
  match f, vs with
  | arithmetic op, [a, b] => applyArithmetic op a b
  | equal, [a, b] => .ok (.boolean (a.same b))
  | notEqual, [a, b] => .ok (.boolean (!a.same b))
  | relation r, [a, b] => applyRelation r a b
  | not, [a] => do return .boolean (!(← a.truth))
  | str, [a] => applyStr a
  | lang, [a] => applyLang a
  | datatype, [a] => applyDatatype a
  | kindTest k, [a] => .ok (.boolean (k.holds a))
  | sameTerm, [a, b] => .ok (.boolean (a.toTerm = b.toTerm))
  | length, [a] => do return .integer (Int64.ofNat (← length.textOf a).1.length)
  | upper, [a] => do
    let (s, language) ← upper.textOf a
    return .text (String.ofList (Text.upper s.toList)) language
  | lower, [a] => do
    let (s, language) ← lower.textOf a
    return .text (String.ofList (Text.lower s.toList)) language
  | concat, vs => concatenate vs
  | partTest p, [a, b] => do
    let (s, _) ← (partTest p).textOf a
    let (part, _) ← (partTest p).textOf b
    return .boolean (p.holds s part)
  | regex, [a, b] => applyRegex a b none
  | regex, [a, b, c] => applyRegex a b (some c)
  | encode, [a] => do
    let (s, _) ← encode.textOf a
    return .text (String.ofList (Text.percentEncode isUnreserved s.toList)) none
  | abs, [a] => magnitude a
  | round m, [a] => rounded m a
  | real g, [a] => do
    let x ← (real g).number a
    (real g).finite x (g.apply x)
  | pow, [a, b] => applyPower a b
  | f, _ => .error (.unevaluable f.name)

end Function

end RdfStore
