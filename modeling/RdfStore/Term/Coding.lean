import RdfStore.Term.Build
import RdfStore.Json.Reader

/-!
# Terms as JSON values

A term is an object with one member, whose name is the kind of the term. Reading accepts what
writing produces, white space and foreign members apart, and also structures written as arrays
of their fields. Texts of IRIs are brought into normal form on reading; language tags and
variable names are taken as they are.

There are two ways to write a term and to read it again. In a text a number may have any size, and
containers may be nested 127 deep (`Term.read?`). A value in memory may be nested to any depth, but
it has no number of more than 64 bits, so there is none for a term with a larger blank node
(`Term.toMemory?`, `Term.ofMemory?`). One reader serves both: it is given the number of containers
that it may open.
-/

namespace RdfStore

/-- The only value of a member name, if the name occurs exactly once. -/
def onlyMember? (name : String) (ms : List (String × Json)) : Option Json :=
  match ms.filter fun m => m.1 = name with
  | [m] => some m.2
  | _ => none

/-- The values of a structure's fields in order: an object in which each field occurs once, or
an array with exactly these values. -/
def fields? (names : List String) : Json → Option (List Json)
  | .object ms => names.mapM fun n => onlyMember? n ms
  | .array vs => if vs.length = names.length then some vs else none
  | _ => none

def Iri.toJson (i : Iri) : Json := .string i.text

def Iri.ofJson? (v : Json) : Option Iri :=
  v.asText?.bind fun s => (Iri.read s).toOption

def LiteralKind.toJson : LiteralKind → Json
  | .simple => .string "Simple"
  | .typed d => .object [("Typed", d.toJson)]
  | .tagged g => .object [("LanguageTagged", .string g)]

/-- The kind of a literal of a JSON value, if `depth` more containers may be opened. -/
def LiteralKind.ofJson? (depth : Nat) (v : Json) : Option LiteralKind :=
  match v with
  | .string s => if s = "Simple" then some .simple else none
  | v =>
    if depth = 0 then none
    else
      match v.asCase? with
      | some ("Simple", .null) => some .simple
      | some ("Typed", d) => (Iri.ofJson? d).map .typed
      | some ("LanguageTagged", g) => g.asText?.map .tagged
      | _ => none

def Literal.toJson (l : Literal) : Json :=
  .object [("value", .string l.value), ("kind", l.kind.toJson)]

def Literal.ofJson? (depth : Nat) (v : Json) : Option Literal :=
  match depth, fields? ["value", "kind"] v with
  | depth + 1, some [value, kind] => do
    return ⟨← value.asText?, ← LiteralKind.ofJson? depth kind⟩
  | _, _ => none

/-- The blank node of a JSON value: a whole number below `2 ^ 128`. -/
def Blank.ofJson? : Json → Option Blank
  | .integer n =>
    if 0 ≤ n ∧ n < 340282366920938463463374607431768211456 then some ⟨BitVec.ofInt 128 n⟩
    else none
  | _ => none

mutual
def Term.toJson : Term → Json
  | .iri i => .object [("Iri", i.toJson)]
  | .blank b => .object [("Blank", .integer b.id.toNat)]
  | .literal l => .object [("Literal", l.toJson)]
  | .var v => .object [("Variable", .string v.name)]
  | .formula ts => .object [("GraphLiteral", .array (Term.triplesToJson ts))]
def Term.triplesToJson : List (Statement Term) → List Json
  | [] => []
  | ⟨s, p, o⟩ :: ts =>
    .object [("subject", s.toJson), ("predicate", p.toJson), ("object", o.toJson)] ::
      Term.triplesToJson ts
end

def Statement.toJson (t : Triple) : Json :=
  .object [("subject", t.subject.toJson), ("predicate", t.predicate.toJson),
    ("object", t.object.toJson)]

def readAll? {α : Type} (read : Json → Option α) : List Json → Option (List α)
  | [] => some []
  | v :: vs => do return (← read v) :: (← readAll? read vs)

/-- The term of a JSON value, if `depth` more containers may be opened. The triples of a formula
may come in any order and repeated. -/
def Term.ofJson? : Nat → Json → Option Term
  | 0, _ => none
  | depth + 1, v =>
    match v.asCase? with
    | some ("Iri", i) => (Iri.ofJson? i).map .iri
    | some ("Blank", n) => (Blank.ofJson? n).map .blank
    | some ("Literal", l) => (Literal.ofJson? depth l).map .literal
    | some ("Variable", n) => n.asText?.map fun s => .var ⟨s⟩
    | some ("GraphLiteral", .array vs) =>
      match depth with
      | depth + 2 =>
        (readAll? (fun v =>
          match fields? ["subject", "predicate", "object"] v with
          | some [s, p, o] => do
            return Statement.mk (← Term.ofJson? depth s) (← Term.ofJson? depth p)
              (← Term.ofJson? depth o)
          | _ => none) vs).map fun ts => Term.ofTriples (SortedSet.ofList ts)
      | _ => if vs.isEmpty ∧ depth = 1 then some (.formula []) else none
    | _ => none

/-- How deep the containers of a text may be nested. -/
def nestingLimit : Nat := 127

/-- The term that a JSON text holds. -/
def Term.read? (text : String) : Option Term :=
  (Json.read? text).bind (Term.ofJson? nestingLimit)

/-- The JSON value in memory for a term. -/
def Term.toMemory? (t : Term) : Option Json := t.toJson.toMemory?

/-- The term of a JSON value in memory. All of its containers may be opened. -/
def Term.ofMemory? (v : Json) : Option Term := Term.ofJson? v.nesting v

end RdfStore
