import RdfStore.Sorted.Map
import RdfStore.Term.Coding
import RdfStore.Term.Notation

/-!
# Rows of bindings

A row gives terms to finitely many variables. Two rows are compatible if they agree where both
give a term; compatible rows can be merged. The same rows serve as solutions of queries and as
bindings of rules.
-/

namespace RdfStore

/-- The terms that variables stand for, by name. -/
abbrev Row := SortedMap String Term

instance : DecidableEq Row := fun a b =>
  decidable_of_iff (a.entries = b.entries)
    ⟨fun h => SortedMap.ext_find? fun k => congrArg (findSorted k) h, congrArg SortedMap.entries⟩

namespace Row

/-- Whether two rows give the same term to every variable that both bind. -/
def compatible (a b : Row) : Bool :=
  a.entries.all fun e =>
    match b.find? e.1 with
    | some t => t = e.2
    | none => true

def merge? (a b : Row) : Option Row :=
  if a.compatible b then
    some (b.entries.foldl (fun r e => if r.contains e.1 then r else r.insert e.1 e.2) a)
  else none

def project (a : Row) (names : List String) : Row :=
  a.filter fun x _ => names.contains x

def order (a b : Row) : Ordering := compareLists a.entries b.entries

def same (a b : Row) : Bool := a.entries = b.entries

def toJson (a : Row) : Json := .object (a.entries.map fun e => (e.1, e.2.toJson))

def lines (a : Row) : List String :=
  a.entries.map fun e => "?" ++ e.1 ++ "=" ++ e.2.text

end Row

end RdfStore
