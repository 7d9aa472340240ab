import RdfStore.Text.Basic

/-!
# Ranges of code points

A property of characters is a list of ranges, written as hexadecimal bounds: `30-39 5F`.
-/

namespace RdfStore.Text

structure CodeRange where
  first : Nat
  last : Nat
  deriving DecidableEq, Repr

def CodeRange.contains (r : CodeRange) (n : Nat) : Bool :=
  r.first ≤ n && n ≤ r.last

/-- The range that `first-last` or a single code point stands for. -/
def CodeRange.read? (cs : List Char) : Option CodeRange :=
  match pieces '-' cs with
  | [a] => (readHex? a).map fun n => ⟨n, n⟩
  | [a, b] => do return ⟨← readHex? a, ← readHex? b⟩
  | _ => none

/-- The entries of a table, which stand between spaces and line ends. -/
def tableEntries (table : String) : List (List Char) :=
  (pieces ' ' (table.toList.map fun c => if c = '\n' then ' ' else c)).filter (!·.isEmpty)

def readRanges (table : String) : List CodeRange :=
  (tableEntries table).filterMap CodeRange.read?

def inRanges (rs : List CodeRange) (c : Char) : Bool :=
  rs.any fun r => r.contains c.toNat

end RdfStore.Text
