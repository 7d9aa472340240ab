import RdfStore.Term.Vocabulary
import RdfStore.Term.Order
import RdfStore.Url.Basic
import RdfStore.Text.Letters
import RdfStore.Number.Decimal

/-!
# Building terms with checks

An IRI is brought into normal form, a language tag is checked and brought into lower case, and a
variable name is checked. Numbers and truth values become typed literals in one spelling each.
-/

namespace RdfStore

inductive TermError where
  | iri (text : String) (cause : Url.UrlError)
  | language (tag : String)
  | variableName (name : String)
  | functionName (name : String)
  deriving DecidableEq, Repr

def TermError.message : TermError → String
  | .iri text cause => "invalid IRI '" ++ text ++ "': " ++ cause.message
  | .language tag => "invalid language tag '" ++ tag ++ "'"
  | .variableName name => "invalid variable name '" ++ name ++ "'"
  | .functionName name => "unknown functor '" ++ name ++ "'"

/-- The IRI that a text stands for, in normal form. -/
def Iri.read (text : String) : Except TermError Iri :=
  match Url.normalize (Text.trim text) with
  | .ok t => .ok ⟨t⟩
  | .error cause => .error (.iri text cause)

/-- Whether a text is a language tag: parts of one to eight ASCII letters and digits with
hyphens between them. -/
def isLanguageTag (tag : String) : Bool :=
  (Text.pieces '-' tag.toList).all fun part =>
    !part.isEmpty && part.length ≤ 8 && part.all Char.isAlphanum

/-- A literal with a language, whose tag is checked and put into lower case. -/
def Literal.tagged (value tag : String) : Except TermError Literal :=
  if isLanguageTag tag then
    .ok ⟨value, .tagged (String.ofList (tag.toList.map Char.toLower))⟩
  else .error (.language tag)

/-- A name without the question marks and dollar signs in front of it. -/
def stripMarks (name : String) : String :=
  String.ofList (name.toList.dropWhile fun c => c = '?' || c = '$')

/-- Whether a text may name a variable: one or more letters, digits and underscores. -/
def isVariableName (name : String) : Bool :=
  !name.toList.isEmpty && name.toList.all fun c => Text.isAlphanumeric c || c = '_'

def Variable.read (name : String) : Except TermError Variable :=
  let bare := stripMarks name
  if isVariableName bare then .ok ⟨bare⟩ else .error (.variableName bare)

namespace Term

def plain (value : String) : Term := .literal ⟨value, .simple⟩

def typed (value : String) (datatype : Iri) : Term := .literal ⟨value, .typed datatype⟩

def ofInteger (i : Int64) : Term := typed (Number.int64Text i) Vocabulary.xsdInteger

/-- The lexical form of a double: the names of infinity and of not-a-number are those of XML
Schema. -/
def doubleText (x : Float) : String :=
  if x.isNaN then "NaN"
  else if x.isInf then if x > 0 then "INF" else "-INF"
  else Number.floatText x

def ofDouble (x : Float) : Term := typed (doubleText x) Vocabulary.xsdDouble

def ofBool (b : Bool) : Term := typed (if b then "true" else "false") Vocabulary.xsdBoolean

end Term

end RdfStore
