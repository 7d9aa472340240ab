import RdfStore.Regex.Basic

/-!
# Reading patterns

The syntax of patterns: alternatives, groups with flags and names, sets with ranges, classes and
set operations, counted repetitions, anchors and escapes. There are no references to groups and
no conditions on text that is looked ahead or behind. `Regex.read?` gives nothing for a text
that is no pattern.
-/

namespace RdfStore.Regex

/-- The flags under which a part of a pattern is read. -/
structure Flags where
  anyCase : Bool
  lines : Bool
  dotAll : Bool
  /-- A carriage return, alone or before a line feed, ends a line as well. -/
  returns : Bool
  /-- White space and comments in the pattern do not count. -/
  spaced : Bool
  /-- Classes, words and case are those of ASCII. -/
  ascii : Bool
  deriving DecidableEq, Repr

def Flags.off : Flags := ⟨false, false, false, false, false, false⟩

/-- The flags with one of them set or cleared; `none` if the letter names no flag. One letter
names a flag that does not change which texts match. -/
def Flags.put? (f : Flags) (on : Bool) : Char → Option Flags
  | 'i' => some { f with anyCase := on }
  | 'm' => some { f with lines := on }
  | 's' => some { f with dotAll := on }
  | 'R' => some { f with returns := on }
  | 'x' => some { f with spaced := on }
  | 'u' => some { f with ascii := !on }
  | 'U' => some f
  | _ => none

def skipComment : List Char → List Char
  | [] => []
  | '\n' :: cs => '\n' :: cs
  | _ :: cs => skipComment cs

/-- The rest of a pattern after white space and comments, if these do not count. -/
def Flags.skip (f : Flags) (cs : List Char) : List Char :=
  if f.spaced then go cs.length cs else cs
where
  go : Nat → List Char → List Char
    | 0, cs => cs
    | fuel + 1, cs =>
      match cs with
      | '#' :: r => go fuel (skipComment r)
      | c :: r => if Text.isBlank c then go fuel r else c :: r
      | [] => []

def asciiSet : CharSet := .range 0 127

/-- A set as it counts under the flags. Sets of ASCII stay in ASCII. -/
def Flags.fold (f : Flags) (s : CharSet) : CharSet :=
  if f.anyCase then if f.ascii then .inter (.anyCase s) asciiSet else .anyCase s else s

/-- The complement of a set; there is none that stays in ASCII. -/
def Flags.compl? (f : Flags) (s : CharSet) : Option CharSet :=
  if f.ascii then none else some (.compl s)

def single (c : Char) : CharSet := .range c.toNat c.toNat

/-- The set that a character stands for outside brackets. -/
def Flags.literal (f : Flags) (c : Char) : CharSet :=
  if f.ascii && 128 ≤ c.toNat then single c else f.fold (single c)

def Flags.point? (f : Flags) : Option CharSet :=
  f.compl? (if f.dotAll then .nothing
    else if f.returns then .union (single '\n') (single '\r')
    else single '\n')

def Flags.startAnchor (f : Flags) : Look :=
  if f.lines then (if f.returns then .anyLineStart else .lineStart) else .textStart

def Flags.endAnchor (f : Flags) : Look :=
  if f.lines then (if f.returns then .anyLineEnd else .lineEnd) else .textEnd

def charsOf (s : String) : CharSet := s.toList.foldr (fun c r => .union (single c) r) .nothing

/-- The set that a name between `[:` and `:]` stands for. -/
def asciiClass? (name : String) : Option CharSet :=
  let digits := CharSet.range 48 57
  let capitals := CharSet.range 65 90
  let smalls := CharSet.range 97 122
  match name with
  | "alnum" => some (.union digits (.union capitals smalls))
  | "alpha" => some (.union capitals smalls)
  | "ascii" => some (.range 0 127)
  | "blank" => some (charsOf "\t ")
  | "cntrl" => some (.union (.range 0 31) (.range 127 127))
  | "digit" => some digits
  | "graph" => some (.range 33 126)
  | "lower" => some smalls
  | "print" => some (.range 32 126)
  | "punct" => some (.union (.range 33 47) (.union (.range 58 64)
      (.union (.range 91 96) (.range 123 126))))
  | "space" => some (.union (.range 9 13) (.range 32 32))
  | "upper" => some capitals
  | "word" => some (.union digits (.union capitals (.union smalls (single '_'))))
  | "xdigit" => some (.union digits (.union (.range 65 70) (.range 97 102)))
  | _ => none

def Flags.digits (f : Flags) : CharSet := if f.ascii then .inter .digit asciiSet else .digit

def Flags.blanks (f : Flags) : CharSet := if f.ascii then .inter .space asciiSet else .space

def Flags.words (f : Flags) : CharSet := if f.ascii then .inter .word asciiSet else .word

/-- The longest start of a text whose characters pass a test, and the rest; what does not count
under the flags is left out behind each of them. -/
def Flags.span (f : Flags) (p : Char → Bool) (cs : List Char) : List Char × List Char :=
  go cs.length cs
where
  go : Nat → List Char → List Char × List Char
    | fuel + 1, c :: cs =>
      if p c then
        let (taken, rest) := go fuel (f.skip cs)
        (c :: taken, rest)
      else ([], c :: cs)
    | _, cs => ([], cs)

def hexChar? (cs : List Char) : Option Char := do
  let n ← Text.readHex? cs
  if cs.isEmpty then none
  else if h : n.isValidChar then some (Char.ofNatAux n h)
  else none

/-- The text up to a closing brace, and what follows the brace. What does not count under the
flags is left out. -/
def Flags.braced? (f : Flags) (cs : List Char) : Option (List Char × List Char) :=
  go (cs.length + 1) (f.skip cs)
where
  /-- As before, at a place behind what does not count, for a text of at most so many parts. -/
  go : Nat → List Char → Option (List Char × List Char)
    | 0, _ => none
    | _ + 1, [] => none
    | fuel + 1, c :: cs =>
      if c = '\x7d' then some ([], cs)
      else (go fuel (f.skip cs)).map fun (inner, rest) => (c :: inner, rest)

/-- So many characters that count, and what follows them. -/
def Flags.take? (f : Flags) : Nat → List Char → Option (List Char × List Char)
  | 0, cs => some ([], cs)
  | n + 1, cs =>
    match f.skip cs with
    | c :: rest => (f.take? n rest).map fun (taken, rest) => (c :: taken, rest)
    | [] => none

/-- A code point written in hexadecimal after its letter: so many digits, or any number of them
in braces. -/
def readHexEscape? (f : Flags) (width : Nat) (cs : List Char) : Option (Char × List Char) := do
  let (ds, rest) ←
    match f.skip cs with
    | '\x7b' :: cs => f.braced? cs
    | cs => f.take? width cs
  return (← hexChar? ds, rest)

/-- The name of a property in its plain spelling: in small letters, without separators, and
without an `is` in front. A `c` behind such an `is` is not the name of a category. -/
def plainName (cs : List Char) : String :=
  let plain (cs : List Char) : List Char :=
    (cs.filter fun c => c.toNat < 128 && c ∉ [' ', '_', '-']).map Char.toLower
  match cs with
  | a :: b :: rest =>
    if [a.toLower, b.toLower] = ['i', 's'] then
      if plain rest = ['c'] then "isc" else String.ofList (plain rest)
    else String.ofList (plain cs)
  | _ => String.ofList (plain cs)

def someProperty (kind : Text.PropertyKind) : CharSet :=
  (List.range kind.tables.length).foldr (fun i s => .union (.property kind i) s) .nothing

def namedSet? (kind : Text.PropertyKind) (name : String) : Option CharSet :=
  let i := kind.tables.findIdx fun t => t.names.contains name
  if i < kind.tables.length then some (.property kind i) else none

/-- The characters of a general category or of a group of categories. The categories of the tables
are all that are assigned to characters; the groups leave out controls and private use. -/
def categorySet? (name : String) : Option CharSet :=
  if name = "any" then some (.compl .nothing)
  else if name = "ascii" then some (.range 0 127)
  else if name = "assigned" then some (someProperty .category)
  else if name ∈ ["cn", "unassigned"] then some (.compl (someProperty .category))
  else if name ∈ ["c", "other"] then some (.compl (someProperty .group))
  else (namedSet? .category name).or (namedSet? .group name)

/-- The set that a name without a key stands for: a trait, a category or a script. -/
def propertySet? (name : String) : Option CharSet :=
  ((namedSet? .trait name).or (categorySet? name)).or (namedSet? .script name)

def keyedSet? (key value : String) : Option CharSet :=
  if key ∈ ["gc", "generalcategory"] then categorySet? value
  else if key ∈ ["sc", "script"] then namedSet? .script value
  else none

/-- The key and the value on both sides of a separator: `!=`, or else a colon, or else `=`. -/
def splitKey? (body : List Char) : Option (List Char × List Char) :=
  let before (c : Char) : List Char := body.takeWhile (· ≠ c)
  match splitUnequal? body with
  | some parts => some parts
  | none =>
    if body.contains ':' then some (before ':', body.drop ((before ':').length + 1))
    else if body.contains '=' then some (before '=', body.drop ((before '=').length + 1))
    else none
where
  splitUnequal? : List Char → Option (List Char × List Char)
    | '!' :: '=' :: cs => some ([], cs)
    | c :: cs => (splitUnequal? cs).map fun (key, value) => (c :: key, value)
    | [] => none

/-- A property in its letter or braces: a name, or a key and a value. The separator `!=` means the
same as `=`. There are no properties of ASCII characters only. -/
def readProperty? (f : Flags) (cs : List Char) : Option (CharSet × List Char) :=
  match (if f.ascii then [] else f.skip cs) with
  | '\x7b' :: cs => do
    let (body, rest) ← f.braced? cs
    let s ←
      match splitKey? body with
      | some (key, value) => keyedSet? (plainName key) (plainName value)
      | none => propertySet? (plainName body)
    return (s, rest)
  | c :: rest => (propertySet? (plainName [c])).map (·, rest)
  | [] => none

def isEscapable (c : Char) : Bool :=
  c.toNat < 128 && !c.isAlphanum && c ≠ '<' && c ≠ '>'

inductive Escaped where
  | char (c : Char)
  /-- A class, which cannot bound a range. -/
  | cls (s : CharSet)
  | look (l : Look)

/-- The condition that a boundary with a name in braces stands for. -/
def namedBoundary? (words : CharSet) (name : String) : Option Look :=
  match name with
  | "start" => some (.wordStart words)
  | "end" => some (.wordEnd words)
  | "start-half" => some (.noWordBefore words)
  | "end-half" => some (.noWordAfter words)
  | _ => none

/-- The letters and the hyphen, which start the name of a boundary. -/
def inBoundaryName (c : Char) : Bool := c.isAlpha || c = '-'

/-- A boundary after its letter: a name in braces makes it one-sided. Braces that hold no name
belong to a repetition. -/
def readBoundary? (f : Flags) : List Char → Option (Look × List Char)
  | '\x7b' :: cs =>
    match f.span inBoundaryName (f.skip cs) with
    | ([], []) => none
    | ([], _) => some (.boundary f.words, '\x7b' :: cs)
    | (name, '\x7d' :: rest) => (namedBoundary? f.words (String.ofList name)).map (·, rest)
    | _ => none
  | cs => some (.boundary f.words, cs)

def readEscape? (f : Flags) : List Char → Option (Escaped × List Char)
  | [] => none
  | 'x' :: cs => do
    let (c, rest) ← readHexEscape? f 2 cs
    if f.ascii && 128 ≤ c.toNat && (f.skip cs).head? ≠ some '\x7b' then none
    else return (.char c, rest)
  | 'u' :: cs => (readHexEscape? f 4 cs).map fun (c, r) => (.char c, r)
  | 'U' :: cs => (readHexEscape? f 8 cs).map fun (c, r) => (.char c, r)
  | 'p' :: cs => (readProperty? f cs).map fun (s, r) => (.cls (f.fold s), r)
  | 'P' :: cs => (readProperty? f cs).map fun (s, r) => (.cls (.compl (f.fold s)), r)
  | 'd' :: cs => some (.cls f.digits, cs)
  | 'D' :: cs => (f.compl? f.digits).map fun s => (.cls s, cs)
  | 's' :: cs => some (.cls f.blanks, cs)
  | 'S' :: cs => (f.compl? f.blanks).map fun s => (.cls s, cs)
  | 'w' :: cs => some (.cls f.words, cs)
  | 'W' :: cs => (f.compl? f.words).map fun s => (.cls s, cs)
  | 'a' :: cs => some (.char (Char.ofNat 7), cs)
  | 'f' :: cs => some (.char (Char.ofNat 12), cs)
  | 't' :: cs => some (.char '\t', cs)
  | 'n' :: cs => some (.char '\n', cs)
  | 'r' :: cs => some (.char '\r', cs)
  | 'v' :: cs => some (.char (Char.ofNat 11), cs)
  | 'A' :: cs => some (.look .textStart, cs)
  | 'z' :: cs => some (.look .textEnd, cs)
  | 'b' :: cs => (readBoundary? f cs).map fun (l, r) => (.look l, r)
  | 'B' :: cs => some (.look (.noBoundary f.words), cs)
  | '<' :: cs => some (.look (.wordStart f.words), cs)
  | '>' :: cs => some (.look (.wordEnd f.words), cs)
  | c :: cs => if isEscapable c then some (.char c, cs) else none

/-! ## Sets in brackets -/

/-- A class of ASCII characters in its brackets and colons, and whether it is negated. -/
def readAsciiClass? : List Char → Option ((Bool × CharSet) × List Char)
  | '[' :: ':' :: cs => do
    let (negated, cs) :=
      match cs with
      | '^' :: r => (true, r)
      | r => (false, r)
    match cs.dropWhile Char.isAlphanum with
    | ':' :: ']' :: rest =>
      return ((negated, ← asciiClass? (String.ofList (cs.takeWhile Char.isAlphanum))), rest)
    | _ => none
  | _ => none

/-- One end of a range, or a class, in brackets. Sets of ASCII hold no other characters. -/
def readSetItem? (f : Flags) (cs : List Char) : Option (Escaped × List Char) := do
  let (item, rest) ←
    match cs with
    | '\\' :: cs => readEscape? f cs
    | c :: cs => some (.char c, cs)
    | [] => none
  match item with
  | .char c => if f.ascii && 128 ≤ c.toNat then none else return (item, rest)
  | _ => return (item, rest)

def readSetRange? (f : Flags) (cs : List Char) : Option (CharSet × List Char) := do
  let (item, rest) ← readSetItem? f cs
  let rest := f.skip rest
  let asSet : Option CharSet :=
    match item with
    | .char c => some (single c)
    | .cls s => some s
    | .look _ => none
  match rest with
  | [] => none
  | '-' :: after =>
    match f.skip after with
    | [] => none
    | ']' :: _ => asSet.map (·, rest)
    | '-' :: _ => asSet.map (·, rest)
    | after => do
      let (last, rest) ← readSetItem? f after
      match item, last with
      | .char a, .char b => if a ≤ b then some (.range a.toNat b.toNat, rest) else none
      | _, _ => none
  | _ => asSet.map (·, rest)

inductive SetOp where
  | inter
  | minus
  | differ

/-- The result of an operation; case counts as little as the flags say on both sides. -/
def SetOp.apply (f : Flags) (a b : CharSet) : SetOp → CharSet
  | .inter => .inter (f.fold a) (f.fold b)
  | .minus => .inter (f.fold a) (.compl (f.fold b))
  | .differ =>
    .union (.inter (f.fold a) (.compl (f.fold b))) (.inter (f.fold b) (.compl (f.fold a)))

/-- The items of a set in brackets that were read. -/
structure SetItems where
  set : CharSet
  count : Nat
  depth : Nat

def SetItems.empty : SetItems := ⟨.nothing, 0, 0⟩

def SetItems.push (s : SetItems) (t : CharSet) (depth : Nat) : SetItems :=
  ⟨.union s.set t, s.count + 1, max s.depth depth⟩

def SetItems.pushHyphens (s : SetItems) : Nat → SetItems
  | 0 => s
  | n + 1 => (s.push (single '-') 0).pushHyphens n

abbrev DeepSet := CharSet × Nat

/-- Items as one set; several make a level. -/
def SetItems.all (s : SetItems) : DeepSet :=
  (s.set, if s.count ≤ 1 then s.depth else s.depth + 1)

/-- What was read so far with a pending operation applied to the items after it. -/
def close (f : Flags) (pending : Option (DeepSet × SetOp)) (s : SetItems) : DeepSet :=
  match pending with
  | some (a, op) => (op.apply f a.1 s.all.1, max a.2 s.all.2 + 1)
  | none => s.all

/-- How many literal hyphens a set starts with, and the rest. -/
def leadingHyphens (f : Flags) : Nat → List Char → Nat × List Char
  | fuel + 1, '-' :: cs =>
    let (n, rest) := leadingHyphens f fuel (f.skip cs)
    (n + 1, rest)
  | _, cs => (0, cs)

mutual
/-- A set behind its opening bracket, up to and with its closing one. -/
def readSet? (f : Flags) : Nat → List Char → Option (DeepSet × List Char)
  | 0, _ => none
  | fuel + 1, cs => do
    let cs := f.skip cs
    let (negated, cs) :=
      match cs with
      | '^' :: r => (true, f.skip r)
      | r => (false, r)
    let (hyphens, rest) := leadingHyphens f cs.length cs
    let (start, rest) :=
      match hyphens, rest with
      | 0, ']' :: r => (SetItems.empty.push (single ']') 0, f.skip r)
      | n, r => (SetItems.empty.pushHyphens n, r)
    let ((s, depth), rest) ← readSetItems? f fuel none start rest
    let s := f.fold s
    return ((← if negated then f.compl? s else some s, depth + 1), rest)
/-- The items of a set from some place on, and the closing bracket. -/
def readSetItems? (f : Flags) :
    Nat → Option (DeepSet × SetOp) → SetItems → List Char → Option (DeepSet × List Char)
  | 0, _, _, _ => none
  | fuel + 1, pending, s, cs =>
    let apply (op : SetOp) (rest : List Char) :=
      readSetItems? f fuel (some (close f pending s, op)) .empty rest
    match f.skip cs with
    | [] => none
    | ']' :: rest => some (close f pending s, rest)
    | '&' :: '&' :: rest => apply .inter rest
    | '-' :: '-' :: rest => apply .minus rest
    | '~' :: '~' :: rest => apply .differ rest
    | '[' :: rest =>
      match readAsciiClass? ('[' :: rest) with
      | some ((negated, t), rest) => do
        let t := f.fold t
        readSetItems? f fuel pending (s.push (← if negated then f.compl? t else some t) 0) rest
      | none => do
        let ((t, depth), rest) ← readSet? f fuel rest
        readSetItems? f fuel pending (s.push t depth) rest
    | rest => do
      let (t, rest) ← readSetRange? f rest
      readSetItems? f fuel pending (s.push t 0) rest
end

/-! ## Repetitions -/

/-- A number in the braces of a repetition, with white space around it. -/
def readCount? (f : Flags) (cs : List Char) : Option (Option Nat × List Char) :=
  let (ds, rest) := f.span Char.isDigit (cs.dropWhile Text.isBlank)
  let rest := f.skip (rest.dropWhile Text.isBlank)
  if ds.isEmpty then some (none, rest)
  else
    match Text.readDigits? ds with
    | some n => if n < Nat.pow 2 32 then some (some n, rest) else none
    | none => none

/-- The bounds of a repetition behind its opening brace, and what follows the closing one. -/
def readBounds? (f : Flags) (cs : List Char) : Option ((Nat × Option Nat) × List Char) := do
  let (least, cs) ← readCount? f (f.skip cs)
  let least ← least
  match cs with
  | ',' :: cs =>
    match f.skip cs with
    | '\x7d' :: rest => some ((least, none), rest)
    | cs => do
      let (most, cs) ← readCount? f cs
      let most ← most
      match cs with
      | '\x7d' :: rest => if least ≤ most then some ((least, some most), rest) else none
      | _ => none
  | '\x7d' :: rest => some ((least, some least), rest)
  | _ => none

/-- The rest after the mark of a reluctant repetition, which matches the same texts. -/
def skipReluctant : List Char → List Char
  | '?' :: cs => cs
  | cs => cs

/-! ## Groups and the whole -/

/-- The flags of a group behind its question mark: the new flags, whether any letter was read,
and the rest from the closing colon or parenthesis on. -/
def readFlags? (f : Flags) (on dangling : Bool) (seen : List Char) :
    List Char → Option (Flags × Bool × List Char)
  | [] => none
  | ':' :: cs => if dangling then none else some (f, !seen.isEmpty, ':' :: cs)
  | ')' :: cs => if dangling then none else some (f, !seen.isEmpty, ')' :: cs)
  | '-' :: cs => if on then readFlags? f false true seen cs else none
  | c :: cs =>
    if c ∈ seen then none
    else do
      let f ← f.put? on c
      readFlags? f on false (c :: seen) cs

def isGroupName : List Char → Bool
  | [] => false
  | c :: cs =>
    (c = '_' || Text.isAlphabetic c) &&
      cs.all fun c => c ∈ ['_', '.', '[', ']'] || Text.isAlphanumeric c

structure Reading where
  flags : Flags
  names : List (List Char)

structure Part where
  /-- The expression that it stands for; a change of flags has none. -/
  regex : Option Regex
  depth : Nat

/-- A sequence of parts, the last one first. Several make a level. -/
def seqOf (parts : List Part) : Regex × Nat :=
  (parts.foldl (fun r p => match p.regex with
      | some a => a.andThen r
      | none => r) .empty,
    parts.foldl (fun d p => max d p.depth) 0 + (if parts.length ≤ 1 then 0 else 1))

/-- The choice between sequences, the last one first. -/
def altOf : List Regex → Regex
  | [] => .empty
  | [r] => r
  | r :: rs => .alt (altOf rs) r

/-- The choice between sequences with their depths, the last one first. Several make a level. -/
def choiceOf (alts : List (Regex × Nat)) : Regex × Nat :=
  (altOf (alts.map (·.1)),
    alts.foldl (fun d a => max d a.2) 0 + (if alts.length ≤ 1 then 0 else 1))

/-- The repetition of the last part; `none` where there is nothing to repeat. -/
def repeatLast (least : Nat) (most : Option Nat) : List Part → Option (List Part)
  | ⟨some a, depth⟩ :: parts => some (⟨some (.rep a least most), depth + 1⟩ :: parts)
  | _ => none

mutual
/-- A group behind its opening parenthesis: the part that it makes, and what the reader knows
behind it. -/
def readGroup? : Nat → Reading → List Char → Option (Part × Reading × List Char)
  | 0, _, _ => none
  | fuel + 1, st, cs =>
    let inside (inner : Reading) (cs : List Char) : Option (Part × Reading × List Char) := do
      let ((r, depth), after, rest) ← readBody? fuel inner [] [] cs
      match rest with
      | ')' :: rest => return (⟨some r, depth + 1⟩, { after with flags := st.flags }, rest)
      | _ => none
    let named (cs : List Char) : Option (Part × Reading × List Char) :=
      let name := cs.takeWhile (· ≠ '>')
      match cs.dropWhile (· ≠ '>') with
      | _ :: rest =>
        if isGroupName name && !st.names.contains name then
          inside { st with names := name :: st.names } rest
        else none
      | [] => none
    match st.flags.skip cs with
    | '?' :: '=' :: _ => none
    | '?' :: '!' :: _ => none
    | '?' :: '<' :: '=' :: _ => none
    | '?' :: '<' :: '!' :: _ => none
    | '?' :: 'P' :: '<' :: cs => named cs
    | '?' :: '<' :: cs => named cs
    | '?' :: cs => do
      let (f, any, rest) ← readFlags? st.flags true false [] cs
      match rest with
      | ')' :: rest => if any then return (⟨none, 0⟩, { st with flags := f }, rest) else none
      | _ :: rest => inside { st with flags := f } rest
      | [] => none
    | cs => inside st cs
/-- The alternatives of a group from some place on, up to its closing parenthesis or the end of
the pattern; `alts` holds the ones that are complete and `parts` those of the current one. -/
def readBody? :
    Nat → Reading → List (Regex × Nat) → List Part → List Char →
      Option ((Regex × Nat) × Reading × List Char)
  | 0, _, _, _, _ => none
  | fuel + 1, st, alts, parts, cs =>
    let f := st.flags
    let add (r : Regex) (rest : List Char) := readBody? fuel st alts (⟨some r, 0⟩ :: parts) rest
    let again (least : Nat) (most : Option Nat) (rest : List Char) := do
      readBody? fuel st alts (← repeatLast least most parts) (skipReluctant rest)
    match f.skip cs with
    | [] => some (choiceOf (seqOf parts :: alts), st, [])
    | ')' :: rest => some (choiceOf (seqOf parts :: alts), st, ')' :: rest)
    | '|' :: rest => readBody? fuel st (seqOf parts :: alts) [] rest
    | '(' :: rest => do
      let (part, st, rest) ← readGroup? fuel st rest
      readBody? fuel st alts (part :: parts) rest
    | '[' :: rest => do
      let ((s, depth), rest) ← readSet? f fuel rest
      readBody? fuel st alts (⟨some (.set s), depth⟩ :: parts) rest
    | '*' :: rest => again 0 none rest
    | '+' :: rest => again 1 none rest
    | '?' :: rest => again 0 (some 1) rest
    | '\x7b' :: rest => do
      let ((least, most), rest) ← readBounds? f rest
      again least most (f.skip rest)
    | '.' :: rest => do add (.set (← f.point?)) rest
    | '^' :: rest => add (.look f.startAnchor) rest
    | '$' :: rest => add (.look f.endAnchor) rest
    | '\\' :: rest => do
      let (e, rest) ← readEscape? f rest
      match e with
      | .char c => add (.set (f.literal c)) rest
      | .cls s => add (.set s) rest
      | .look l => add (.look l) rest
    | c :: rest => add (.set (f.literal c)) rest
end

/-! ## Limits -/

def depthLimit : Nat := 250

/-- About how many steps over single bytes a set takes. -/
def setWeight : CharSet → Nat
  | .nothing => 1
  | .range _ last => if last < 128 then 1 else 3
  | .digit => 160
  | .space => 21
  | .word => 1557
  | .property kind i => ((kind.tables[i]?).map fun t => 2 * t.ranges.length).getD 0
  | .union a b => setWeight a + setWeight b
  | .inter a b => min (setWeight a) (setWeight b)
  | .compl a => setWeight a + 30
  | .anyCase a => 2 * setWeight a

/-- About how many steps over single bytes an expression takes when its repetitions are written
out. -/
def weight : Regex → Nat
  | .empty => 0
  | .look _ => 1
  | .set s => setWeight s
  | .seq a b => a.weight + b.weight
  | .alt a b => a.weight + b.weight + 1
  | .rep a least most =>
    match most with
    | some most => least * a.weight + (most - least) * (a.weight + 1)
    | none => max least 1 * a.weight + 1

def weightLimit : Nat := 327670

def read? (flags : Flags) (pattern : List Char) : Option Regex := do
  let ((r, depth), _, rest) ← readBody? (3 * pattern.length + 3) ⟨flags, []⟩ [] [] pattern
  if rest.isEmpty ∧ depth ≤ depthLimit ∧ r.weight ≤ weightLimit then return r else none

end RdfStore.Regex
