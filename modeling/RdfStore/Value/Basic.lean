import RdfStore.Term.Build
import RdfStore.Time.DateTime

/-!
# Values of expressions

A literal of a known datatype has a value: a truth value, an integer, a double, a text with or
without a language, or a date with a time. Every other term is its own value. `Value.ofTerm`
reads the value of a term, `Value.toTerm` writes a value as a term in one spelling.
-/

namespace RdfStore

inductive Value where
  | boolean (b : Bool)
  | integer (i : Int64)
  | double (x : Float)
  | text (s : String) (language : Option String)
  | dateTime (t : DateTime)
  | term (t : Term)
  deriving Inhabited

namespace Value

/-- The double that a lexical form stands for, with the names of XML Schema for infinity and
not-a-number beside the usual ones. -/
def readDouble? (s : String) : Option Float :=
  if s = "INF" ∨ s = "+INF" then some (1.0 / 0.0)
  else if s = "-INF" then some (-1.0 / 0.0)
  else if s = "NaN" then some (0.0 / 0.0)
  else Number.readFloat? s.toList

def readBoolean? (s : String) : Option Bool :=
  if s = "true" ∨ s = "1" then some true
  else if s = "false" ∨ s = "0" then some false
  else none

/-- The value of a lexical form under a datatype, if the datatype is known and the form is one
of its forms. White space around a form does not count, except in text. -/
def ofTyped? (lexical : String) (datatype : Iri) : Option Value :=
  let bare := Text.trim lexical
  if datatype = Vocabulary.xsdString then some (.text lexical none)
  else if datatype ∈ Vocabulary.integerTypes then
    (Number.readInt64? bare.toList).map .integer
  else if datatype ∈ Vocabulary.doubleTypes then (readDouble? bare).map .double
  else if datatype = Vocabulary.xsdBoolean then (readBoolean? bare).map .boolean
  else if datatype = Vocabulary.xsdDateTime then (DateTime.read? bare.toList).map .dateTime
  else none

def ofTerm : Term → Value
  | .literal ⟨s, .simple⟩ => .text s none
  | .literal ⟨s, .tagged g⟩ => .text s (some g)
  | .literal ⟨s, .typed d⟩ => (ofTyped? s d).getD (.term (.literal ⟨s, .typed d⟩))
  | t => .term t

/-- The term of a text in a language; a language that is no tag is dropped. -/
def textTerm (s : String) : Option String → Term
  | none => .plain s
  | some g =>
    match Literal.tagged s g with
    | .ok l => .literal l
    | .error _ => .plain s

def toTerm : Value → Term
  | boolean b => .ofBool b
  | integer i => .ofInteger i
  | double x => .ofDouble x
  | text s g => textTerm s g
  | dateTime t => .typed t.text Vocabulary.xsdDateTime
  | term t => t

def toFloat? : Value → Option Float
  | integer i => some i.toFloat
  | double x => some x
  | _ => none

def isNumeric : Value → Bool
  | integer _ => true
  | double _ => true
  | _ => false

/-- The truth that a value stands for where a condition is expected: numbers other than zero and
not-a-number are true, and so are texts other than the empty one. -/
def truth? : Value → Option Bool
  | boolean b => some b
  | integer i => some (i ≠ 0)
  | double x => some (x != 0.0 && !x.isNaN)
  | text s _ => some (!s.isEmpty)
  | dateTime _ => none
  | term _ => none

def kindName : Value → String
  | boolean _ => "boolean"
  | integer _ => "integer"
  | double _ => "double"
  | text _ _ => "string"
  | dateTime _ => "dateTime"
  | term (.iri _) => "IRI"
  | term (.blank _) => "blank node"
  | term (.literal _) => "literal"
  | term (.var _) => "variable"
  | term (.formula _) => "graph literal"

def orderFloats? (x y : Float) : Option Ordering :=
  if x < y then some .lt
  else if y < x then some .gt
  else if x == y then some .eq
  else none

def orderInts (i j : Int64) : Ordering :=
  if i.toInt < j.toInt then .lt else if j.toInt < i.toInt then .gt else .eq

/-- How two values stand to each other: integers exactly, other numbers as doubles, truth values
with false first, instants by time, and texts in the same language by their characters. -/
def order? : Value → Value → Option Ordering
  | integer i, integer j => some (orderInts i j)
  | integer i, double y => orderFloats? i.toFloat y
  | double x, integer j => orderFloats? x j.toFloat
  | double x, double y => orderFloats? x y
  | boolean a, boolean b => some (KeyOrder.cmp a.toNat b.toNat)
  | dateTime s, dateTime t => some (s.order t)
  | text a g, text b h => if g = h then some (KeyOrder.cmp a b) else none
  | _, _ => none

/-- Whether two values count as equal: numbers by value, instants by time, all else as terms. -/
def same (a b : Value) : Bool :=
  match a, b with
  | dateTime s, dateTime t => s.order t = .eq
  | a, b =>
    if a.isNumeric && b.isNumeric then a.order? b = some .eq else a.toTerm = b.toTerm

end Value

end RdfStore
