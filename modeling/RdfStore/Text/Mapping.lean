import RdfStore.Text.Ranges

/-!
# Mappings of characters

A mapping of characters is a list of rules, written as `61-7A>41`: each rule takes a range of code
points, or every so many of them, to other code points. A character that no rule covers stays.
-/

namespace RdfStore.Text

/-- The code points `first`, `first + step`, … up to `last`, which go to the targets: a single
target moves along with the code point, several are the same for all. -/
structure MappingRule where
  first : Nat
  last : Nat
  step : Nat
  targets : List Nat
  deriving DecidableEq, Repr

def MappingRule.covers (r : MappingRule) (n : Nat) : Bool :=
  r.first ≤ n && n ≤ r.last && (n - r.first) % r.step = 0

def MappingRule.apply (r : MappingRule) (n : Nat) : List Nat :=
  match r.targets with
  | [t] => [t + (n - r.first)]
  | ts => ts

/-- The rule that `first-last/step>target` stands for; the step is one where it is left out, and
several targets are separated by points. -/
def MappingRule.read? (cs : List Char) : Option MappingRule := do
  let [source, target] := pieces '>' cs | none
  let targets ← (pieces '.' target).mapM readHex?
  let (span, step) ←
    match pieces '/' source with
    | [span] => some (span, 1)
    | [span, step] => (readHex? step).map fun k => (span, k)
    | _ => none
  let range ← CodeRange.read? span
  return ⟨range.first, range.last, step, targets⟩

def readMappingRules (table : String) : List MappingRule :=
  (tableEntries table).filterMap MappingRule.read?

/-- What a character becomes under a list of rules; itself where none covers it. -/
def mapChar (rules : List MappingRule) (c : Char) : List Char :=
  match rules.find? fun r => r.covers c.toNat with
  | some r => (r.apply c.toNat).map Char.ofNat
  | none => [c]

end RdfStore.Text
