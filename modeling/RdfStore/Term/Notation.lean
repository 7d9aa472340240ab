import RdfStore.Term.Order
import RdfStore.Text.Basic

/-!
# The written form of terms

IRIs stand in angle brackets, blank nodes are `_:b` and 32 hexadecimal digits, literals stand in
quotes with their datatype or language behind them, variables have a question mark, and a
formula lists its triples, each with a full stop, in braces.
-/

namespace RdfStore

def Blank.chars (b : Blank) : List Char :=
  '_' :: ':' :: 'b' :: Text.hexDigits 32 b.id.toNat

def Literal.escape (c : Char) : List Char :=
  if c = '\\' then ['\\', '\\']
  else if c = '"' then ['\\', '"']
  else if c = '\n' then ['\\', 'n']
  else if c = '\r' then ['\\', 'r']
  else [c]

/-- What stands behind the closing quote of a literal. -/
def LiteralKind.chars : LiteralKind → List Char
  | .simple => []
  | .typed d => '^' :: '^' :: '<' :: d.text.toList ++ ['>']
  | .tagged g => '@' :: g.toList

def Literal.chars (l : Literal) : List Char :=
  '"' :: l.value.toList.flatMap Literal.escape ++ '"' :: l.kind.chars

mutual
def Term.chars : Term → List Char
  | .iri i => '<' :: i.text.toList ++ ['>']
  | .blank b => b.chars
  | .literal l => l.chars
  | .var v => '?' :: v.name.toList
  | .formula ts => '\x7b' :: Term.tripleChars ts ++ [' ', '\x7d']
/-- The written forms of triples, each after a blank. -/
def Term.tripleChars : List (Statement Term) → List Char
  | [] => []
  | ⟨s, p, o⟩ :: ts =>
    ' ' :: s.chars ++ ' ' :: p.chars ++ ' ' :: o.chars ++ ' ' :: '.' :: Term.tripleChars ts
end

def Term.text (t : Term) : String := String.ofList t.chars

def Blank.text (b : Blank) : String := String.ofList b.chars

/-- Blank nodes are told apart by their written forms. -/
theorem Blank.text_inj {b c : Blank} : b.text = c.text ↔ b = c := by
  refine ⟨fun h => ?_, congrArg _⟩
  have hchars : b.chars = c.chars := String.ofList_injective h
  unfold chars at hchars
  simp only [List.cons.injEq, true_and] at hchars
  have hid := (Text.hexDigits_inj b.id.isLt c.id.isLt).1 hchars
  obtain ⟨i⟩ := b
  obtain ⟨j⟩ := c
  exact congrArg Blank.mk (BitVec.eq_of_toNat_eq hid)

def Statement.text (t : Triple) : String :=
  t.subject.text ++ " " ++ t.predicate.text ++ " " ++ t.object.text ++ " ."

end RdfStore
