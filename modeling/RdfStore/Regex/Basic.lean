import RdfStore.Text.Casing
import RdfStore.Text.Properties

/-!
# Regular expressions and what they match

A regular expression is a tree over sets of characters and conditions on a place in the text. The
search walks through the text once and keeps the finite list of what is left to match after the
characters read so far (partial derivatives). A condition looks at the two characters around a
place, so derivatives and the test for the empty match take a place as an argument.
-/

namespace RdfStore

/-- A set of characters, as it is written in a pattern. -/
inductive CharSet where
  | nothing
  | range (first last : Nat)
  | digit
  | space
  | word
  /-- The characters with the property of that place among those of its kind. -/
  | property (kind : Text.PropertyKind) (index : Nat)
  | union (a b : CharSet)
  | inter (a b : CharSet)
  | compl (a : CharSet)
  /-- The characters that differ from one in the set by their case at most. -/
  | anyCase (a : CharSet)
  deriving DecidableEq, Repr

def CharSet.holds : CharSet → Nat → Bool
  | .nothing, _ => false
  | .range first last, n => first ≤ n && n ≤ last
  | .digit, n => Text.decimalRanges.any fun r => r.contains n
  | .space, n => Text.blankRanges.any fun r => r.contains n
  | .word, n => Text.wordRanges.any fun r => r.contains n
  | .property kind i, n =>
    match kind.tables[i]? with
    | some t => t.ranges.any fun r => r.contains n
    | none => false
  | .union a b, n => a.holds n || b.holds n
  | .inter a b, n => a.holds n && b.holds n
  | .compl a, n => !a.holds n
  | .anyCase a, n => a.holds n || (Text.caseVariants n).any a.holds

/-- A condition on a place in a text. The conditions on words say which characters make them. -/
inductive Look where
  | textStart
  | textEnd
  /-- The place is the start of the text or stands behind a line end. -/
  | lineStart
  /-- The place is the end of the text or stands before a line end. -/
  | lineEnd
  /-- As `lineStart`, where a carriage return without a line feed behind it ends a line too. -/
  | anyLineStart
  /-- As `lineEnd`, where a carriage return ends a line too, together with a line feed behind it. -/
  | anyLineEnd
  /-- Exactly one of the two neighbours is a character of a word. -/
  | boundary (words : CharSet)
  /-- Both neighbours are characters of words or neither is. -/
  | noBoundary (words : CharSet)
  | wordStart (words : CharSet)
  | wordEnd (words : CharSet)
  /-- No character of a word stands before the place. -/
  | noWordBefore (words : CharSet)
  /-- No character of a word stands behind the place. -/
  | noWordAfter (words : CharSet)
  deriving DecidableEq, Repr

/-- A place in a text: the characters before and behind it, if there are any. -/
structure Place where
  before : Option Char
  after : Option Char
  deriving DecidableEq, Repr

def CharSet.holdsSome (s : CharSet) : Option Char → Bool
  | some c => s.holds c.toNat
  | none => false

def Look.holds (p : Place) : Look → Bool
  | .textStart => p.before.isNone
  | .textEnd => p.after.isNone
  | .lineStart => p.before.isNone || p.before = some '\n'
  | .lineEnd => p.after.isNone || p.after = some '\n'
  | .anyLineStart => p.before.isNone || p.before = some '\n' ||
      (p.before = some '\r' && p.after ≠ some '\n')
  | .anyLineEnd => p.after.isNone || p.after = some '\r' ||
      (p.after = some '\n' && p.before ≠ some '\r')
  | .boundary w => w.holdsSome p.before != w.holdsSome p.after
  | .noBoundary w => w.holdsSome p.before == w.holdsSome p.after
  | .wordStart w => !w.holdsSome p.before && w.holdsSome p.after
  | .wordEnd w => w.holdsSome p.before && !w.holdsSome p.after
  | .noWordBefore w => !w.holdsSome p.before
  | .noWordAfter w => !w.holdsSome p.after

inductive Regex where
  | empty
  /-- The empty text, where a condition is met. -/
  | look (l : Look)
  | set (s : CharSet)
  | seq (a b : Regex)
  | alt (a b : Regex)
  /-- An expression repeated at least `least` times, and at most `most` times if that is given. -/
  | rep (a : Regex) (least : Nat) (most : Option Nat)
  deriving DecidableEq, Repr

namespace Regex

/-- Whether an expression matches the empty text at a place. -/
def nullable (p : Place) : Regex → Bool
  | .empty => true
  | .look l => l.holds p
  | .set _ => false
  | .seq a b => a.nullable p && b.nullable p
  | .alt a b => a.nullable p || b.nullable p
  | .rep a least _ => least = 0 || a.nullable p

/-- One expression after another; the empty text is left out. -/
def andThen : Regex → Regex → Regex
  | .empty, b => b
  | a, .empty => a
  | a, b => .seq a b

/-- What may be left of an expression after the character behind a place has been matched. A
body that matches the empty text here can make up for all repetitions that are required. -/
def derivatives (p : Place) (c : Char) : Regex → List Regex
  | .empty => []
  | .look _ => []
  | .set s => if s.holds c.toNat then [.empty] else []
  | .seq a b =>
    (a.derivatives p c).map (·.andThen b) ++ (if a.nullable p then b.derivatives p c else [])
  | .alt a b => a.derivatives p c ++ b.derivatives p c
  | .rep a least most =>
    if most = some 0 then []
    else
      let rest := .rep a (if a.nullable p then 0 else least - 1) (most.map (· - 1))
      (a.derivatives p c).map (·.andThen rest)

/-- Whether one of the expressions that are left, or `r` from a later place on, matches a
beginning of the text. -/
def searchFrom (r : Regex) : Option Char → List Regex → List Char → Bool
  | before, left, [] => (r :: left).any (nullable ⟨before, none⟩)
  | before, left, c :: cs =>
    let p : Place := ⟨before, some c⟩
    let here := r :: left
    here.any (nullable p) ||
      searchFrom r (some c) (here.flatMap (derivatives p c)).eraseDups cs

def occursIn (r : Regex) (cs : List Char) : Bool := searchFrom r none [] cs

end Regex

end RdfStore
