import RdfStore.Number.Integer
import RdfStore.Sorted.Map

/-!
# JSON values

Values as they are exchanged. An object is the list of its members in the order in which they
are written, repeated names included, because readers of objects refuse some repetitions. The
text of a value is compact: no white space, and only quotes, backslashes and control characters
are escaped.

A program that keeps a value in memory keeps less: whole numbers have no more than 64 bits, and the
members of an object are in the order of their names, each name once (`Json.toMemory?`).
-/

namespace RdfStore

inductive Json where
  | null
  | bool (b : Bool)
  | integer (n : Int)
  /-- Any other number, and the negative zero, as written. -/
  | decimal (text : String)
  | string (s : String)
  | array (items : List Json)
  | object (members : List (String × Json))
  /-- A text, or an object with a member name, that has half a surrogate pair: well formed, but
  it denotes no text. -/
  | broken

namespace Json

def escape (c : Char) : List Char :=
  if c = '"' then ['\\', '"']
  else if c = '\\' then ['\\', '\\']
  else if c = '\n' then ['\\', 'n']
  else if c = '\r' then ['\\', 'r']
  else if c = '\t' then ['\\', 't']
  else if c.toNat = 8 then ['\\', 'b']
  else if c.toNat = 12 then ['\\', 'f']
  else if c.toNat < 32 then '\\' :: 'u' :: Text.hexDigits 4 c.toNat
  else [c]

def quoted (s : String) : List Char :=
  '"' :: s.toList.flatMap escape ++ ['"']

mutual
def render : Json → List Char
  | .null => ['n', 'u', 'l', 'l']
  | .bool true => ['t', 'r', 'u', 'e']
  | .bool false => ['f', 'a', 'l', 's', 'e']
  | .integer n => (Number.intText n).toList
  | .decimal t => t.toList
  | .string s => quoted s
  | .array [] => ['[', ']']
  | .array (v :: vs) => '[' :: render v ++ renderItems vs ++ [']']
  | .object [] => ['{', '}']
  | .object ((k, v) :: ms) => '{' :: quoted k ++ ':' :: render v ++ renderMembers ms ++ ['}']
  | .broken => ['n', 'u', 'l', 'l']
def renderItems : List Json → List Char
  | [] => []
  | v :: vs => ',' :: render v ++ renderItems vs
def renderMembers : List (String × Json) → List Char
  | [] => []
  | (k, v) :: ms => ',' :: quoted k ++ ':' :: render v ++ renderMembers ms
end

def text (v : Json) : String := String.ofList v.render

mutual
/-- How many containers are nested in each other. -/
def nesting : Json → Nat
  | .array vs => nestingItems vs + 1
  | .object ms => nestingMembers ms + 1
  | _ => 0
def nestingItems : List Json → Nat
  | [] => 0
  | v :: vs => max v.nesting (nestingItems vs)
def nestingMembers : List (String × Json) → Nat
  | [] => 0
  | (_, v) :: ms => max v.nesting (nestingMembers ms)
end

/-- The number fits 64 bits, with a sign or without. -/
def FitsWord (n : Int) : Prop := -9223372036854775808 ≤ n ∧ n < 18446744073709551616

instance (n : Int) : Decidable (FitsWord n) := inferInstanceAs (Decidable (_ ∧ _))

mutual
/-- The value in memory for a value that is written, unless a whole number in it does not fit. Of the
members of one name the last is kept. Other numbers, which no term has, stay as they are. -/
def toMemory? : Json → Option Json
  | .integer n => if FitsWord n then some (.integer n) else none
  | .array vs => (itemsToMemory? vs).map .array
  | .object ms => (membersToMemory? ms).map fun ms => .object (SortedMap.ofList ms).entries
  | v => some v
def itemsToMemory? : List Json → Option (List Json)
  | [] => some []
  | v :: vs => do return (← v.toMemory?) :: (← itemsToMemory? vs)
def membersToMemory? : List (String × Json) → Option (List (String × Json))
  | [] => some []
  | (k, v) :: ms => do return (k, ← v.toMemory?) :: (← membersToMemory? ms)
end

def asText? : Json → Option String
  | .string s => some s
  | _ => none

/-- The name and the content of a case: an object with one member. -/
def asCase? : Json → Option (String × Json)
  | .object [m] => some m
  | _ => none

/-- The value of the first member of a name. -/
def member? (v : Json) (name : String) : Option Json :=
  match v with
  | .object ms => (ms.find? fun m => m.1 = name).map Prod.snd
  | _ => none

def given? (v : Json) (name : String) : Option Json :=
  match v.member? name with
  | some .null => none
  | found => found

def firstMember? (v : Json) (names : List String) : Option (String × Json) :=
  names.findSome? fun name => (v.member? name).map fun w => (name, w)

def flag (v : Json) (name : String) : Bool :=
  match v.member? name with
  | some (.bool b) => b
  | _ => false

end Json

end RdfStore
