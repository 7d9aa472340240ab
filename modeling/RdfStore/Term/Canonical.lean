import RdfStore.Text.Basic
import RdfStore.Sorted.Order
import RdfStore.Number.Integer

/-!
# Canonical names of blank nodes

Blank nodes that came out of a supply have no identity of their own: two answers that differ
only in their numbers are the same answer. Here such nodes are named by what is said of them.
All begin with one colour; a round gives each node the rank of its signature, which is its
colour and the texts in which it occurs, with the colours of the others. When rounds split no
more colours, one node of the first shared colour is set apart. In the end the colours are
distinct and serve as names.

No operation of a store uses this, nor `Table.sorted` and `Answer.sorted`. They are for whoever
compares two answers from outside and has to do so up to blank nodes and the order of rows.
-/

namespace RdfStore

inductive Piece where
  | plain (s : List Char)
  /-- A blank node without a name, by its number. -/
  | unnamed (n : Nat)
  deriving DecidableEq

namespace Piece

/-- Cuts a written form at the blank nodes whose numbers count as unnamed. The number bounds the
length of the text. -/
def cut (isUnnamed : Nat → Bool) : Nat → List Char → List Piece
  | 0, cs => [.plain cs]
  | _, [] => []
  | fuel + 1, '_' :: ':' :: 'b' :: cs =>
    let digits := cs.take 32
    match Text.readHex? digits with
    | some n =>
      if digits.length = 32 ∧ isUnnamed n then .unnamed n :: cut isUnnamed fuel (cs.drop 32)
      else .plain ['_', ':', 'b'] :: cut isUnnamed fuel cs
    | none => .plain ['_', ':', 'b'] :: cut isUnnamed fuel cs
  | fuel + 1, c :: cs => .plain [c] :: cut isUnnamed fuel cs

def unnamed? : Piece → Option Nat
  | plain _ => none
  | unnamed n => some n

def render (name : Nat → String) (ps : List Piece) : String :=
  String.ofList (ps.flatMap fun p =>
    match p with
    | plain s => s
    | unnamed n => (name n).toList)

/-- A text with names for its unnamed blank nodes. -/
def rename (isUnnamed : Nat → Bool) (name : Nat → String) (s : String) : String :=
  render name (cut isUnnamed (s.length + 1) s.toList)

end Piece

/-- Something written as a list of entries, such as a row. -/
abbrev Written := List (List Piece)

/-- How two lists of texts stand to each other: by the first difference. -/
def orderTexts (a b : List String) : Ordering := compareLists a b

def sortTexts (l : List (List String)) : List (List String) :=
  l.mergeSort fun a b => orderTexts a b ≠ .gt

abbrev Colours := List (Nat × Nat)

namespace Colours

def of (cs : Colours) (n : Nat) : Nat := ((cs.find? fun c => c.1 = n).map Prod.snd).getD 0

def count (cs : Colours) : Nat := (cs.map Prod.snd).eraseDups.length

/-- The colour of a blank node and, in order, the texts in which it occurs. -/
def signature (cs : Colours) (all : List Written) (n : Nat) : Nat × List String :=
  let name (m : Nat) := if m = n then "_:@" else "_:c" ++ Number.natText (cs.of m)
  let mine := all.filter fun w => w.any fun ps => ps.contains (.unnamed n)
  (cs.of n,
    (sortTexts (mine.map fun w => [Text.join "\t" (w.map (Piece.render name))])).flatten)

/-- The ranks of the signatures as new colours. -/
def next (all : List Written) (cs : Colours) : Colours :=
  let signed := cs.map fun c => (c.1, cs.signature all c.1)
  let order (a b : Nat × List String) := (KeyOrder.cmp a.1 b.1).then (orderTexts a.2 b.2)
  let ranked := ((signed.map Prod.snd).mergeSort fun a b => order a b ≠ .gt).eraseDups
  signed.map fun s => (s.1, ranked.findIdx (· == s.2))

/-- Rounds until one splits no colour, at most so many. -/
def refine (all : List Written) : Nat → Colours → Colours
  | 0, cs => cs
  | fuel + 1, cs =>
    let new := cs.next all
    if cs.count < new.count then refine all fuel new else new

/-- Sets one node apart from the others of its colour. -/
def setApart (n : Nat) (cs : Colours) : Colours :=
  cs.map fun c => (c.1, if c.1 = n then 2 * c.2 else 2 * c.2 + 1)

/-- A node of the first colour that several nodes share. -/
def shared? (cs : Colours) : Option Nat :=
  let several := cs.filter fun c => (cs.filter fun d => d.2 = c.2).length > 1
  (several.map Prod.snd).min?.bind fun least =>
    (several.find? fun c => c.2 = least).map Prod.fst

/-- Rounds and settings apart until all colours are distinct, at most so many. -/
def separate (all : List Written) : Nat → Colours → Colours
  | 0, cs => cs
  | fuel + 1, cs =>
    let new := refine all (cs.length + 1) cs
    match new.shared? with
    | none => new
    | some n => separate all fuel (new.setApart n)

end Colours

/-- Written entries with canonical names for unnamed blank nodes. Lists with such nodes are
brought into order, and so are others if that is asked for. -/
def canonicalTexts (isUnnamed : Nat → Bool) (sorted : Bool) (l : List (List String)) :
    List (List String) :=
  let all : List Written := l.map fun w => w.map fun s =>
    Piece.cut isUnnamed (s.length + 1) s.toList
  let nodes := (all.flatten.flatten.filterMap Piece.unnamed?).eraseDups
  let cs := Colours.separate all (nodes.length + 1) (nodes.map fun n => (n, 0))
  let named := all.map fun w => w.map (Piece.render fun n => "_:f" ++ Number.natText (cs.of n))
  if sorted || !nodes.isEmpty then sortTexts named else named

end RdfStore
