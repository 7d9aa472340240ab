import RdfStore.Json.Basic

/-!
# Reading JSON text

A reader of the grammar of RFC 8259. A text with an escaped half of a surrogate pair is well
formed; it is read as `Json.broken`, and whoever needs its text refuses it.
-/

namespace RdfStore.Json

def skipSpace (cs : List Char) : List Char :=
  cs.dropWhile fun c => c = ' ' || c = '\t' || c = '\n' || c = '\r'

def simpleEscape? (c : Char) : Option Char :=
  if c = '"' ∨ c = '\\' ∨ c = '/' then some c
  else if c = 'b' then some (Char.ofNat 8)
  else if c = 'f' then some (Char.ofNat 12)
  else if c = 'n' then some '\n'
  else if c = 'r' then some '\r'
  else if c = 't' then some '\t'
  else none

/-- The code units of a text up to its closing quote, and what follows the quote. An escaped
code unit may be half a surrogate pair. -/
def scanUnits? : List Char → Option (List Nat × List Char)
  | [] => none
  | '"' :: cs => some ([], cs)
  | '\\' :: 'u' :: a :: b :: c :: d :: cs => do
    let n ← Text.readHex? [a, b, c, d]
    let (us, rest) ← scanUnits? cs
    return (n :: us, rest)
  | '\\' :: c :: cs => do
    let e ← simpleEscape? c
    let (us, rest) ← scanUnits? cs
    return (e.toNat :: us, rest)
  | c :: cs =>
    if c.toNat < 32 ∨ c = '\\' then none
    else do
      let (us, rest) ← scanUnits? cs
      return (c.toNat :: us, rest)

/-- The characters of a list of code units; `none` if half a surrogate pair is left over. -/
def joinUnits? : List Nat → Option (List Char)
  | [] => some []
  | [n] => if 0xD800 ≤ n ∧ n ≤ 0xDFFF then none else some [Char.ofNat n]
  | n :: m :: us =>
    if 0xD800 ≤ n ∧ n ≤ 0xDBFF then
      if 0xDC00 ≤ m ∧ m ≤ 0xDFFF then
        (joinUnits? us).map (Char.ofNat (0x10000 + (n - 0xD800) * 0x400 + (m - 0xDC00)) :: ·)
      else none
    else if 0xDC00 ≤ n ∧ n ≤ 0xDFFF then none
    else (joinUnits? (m :: us)).map (Char.ofNat n :: ·)

/-- A text after its opening quote: its characters, unless it is broken, and the rest. -/
def readString? (cs : List Char) : Option (Option String × List Char) :=
  (scanUnits? cs).map fun (us, rest) => ((joinUnits? us).map String.ofList, rest)

/-- The fraction or exponent digits after their mark: at least one, and the rest. -/
def readDigits? (cs : List Char) : Option (List Char × List Char) :=
  match cs.takeWhile Char.isDigit with
  | [] => none
  | ds => some (ds, cs.dropWhile Char.isDigit)

def readFraction? : List Char → Option (List Char × List Char)
  | '.' :: cs => (readDigits? cs).map fun (ds, rest) => ('.' :: ds, rest)
  | cs => some ([], cs)

/-- The exponent of a number, with its mark and sign, if there is one. -/
def readExponent? : List Char → Option (List Char × List Char)
  | c :: cs =>
    if c = 'e' ∨ c = 'E' then
      match cs with
      | '+' :: r => (readDigits? r).map fun (ds, rest) => (c :: '+' :: ds, rest)
      | '-' :: r => (readDigits? r).map fun (ds, rest) => (c :: '-' :: ds, rest)
      | r => (readDigits? r).map fun (ds, rest) => (c :: ds, rest)
    else some ([], c :: cs)
  | [] => some ([], [])

/-- A number at the start of a text, its sign already taken off. -/
def readUnsigned? (negative : Bool) (cs : List Char) : Option (Json × List Char) := do
  let (whole, cs) ← readDigits? cs
  if whole.head? = some '0' ∧ whole.length > 1 then none
  else
    let (fraction, cs) ← readFraction? cs
    let (exponent, cs) ← readExponent? cs
    let n ← Text.readDigits? whole
    let sign := if negative then ['-'] else []
    if fraction.isEmpty ∧ exponent.isEmpty ∧ ¬(negative ∧ n = 0) then
      return (.integer (if negative then -(n : Int) else n), cs)
    else return (.decimal (String.ofList (sign ++ whole ++ fraction ++ exponent)), cs)

def readNumber? : List Char → Option (Json × List Char)
  | '-' :: cs => readUnsigned? true cs
  | cs => readUnsigned? false cs

/-- An object with the given members; one name without text makes it broken. -/
def ofMembers (ms : List (Option String × Json)) : Json :=
  match ms.mapM fun m => m.1.map fun k => (k, m.2) with
  | some named => .object named
  | none => .broken

mutual
/-- A value at the start of a text, and the rest. The number bounds the depth of the search and
is at least the length of the text. -/
def readValue? : Nat → List Char → Option (Json × List Char)
  | 0, _ => none
  | fuel + 1, cs =>
    match skipSpace cs with
    | 'n' :: 'u' :: 'l' :: 'l' :: r => some (.null, r)
    | 't' :: 'r' :: 'u' :: 'e' :: r => some (.bool true, r)
    | 'f' :: 'a' :: 'l' :: 's' :: 'e' :: r => some (.bool false, r)
    | '"' :: r =>
      (readString? r).map fun (s, rest) =>
        (match s with
          | some s => .string s
          | none => .broken, rest)
    | '[' :: r =>
      match skipSpace r with
      | ']' :: r => some (.array [], r)
      | r => do
        let (vs, rest) ← readItems? fuel r
        return (.array vs, rest)
    | '{' :: r =>
      match skipSpace r with
      | '}' :: r => some (.object [], r)
      | r => do
        let (ms, rest) ← readMembers? fuel r
        return (ofMembers ms, rest)
    | r => readNumber? r
def readItems? : Nat → List Char → Option (List Json × List Char)
  | 0, _ => none
  | fuel + 1, cs => do
    let (v, r) ← readValue? fuel cs
    match skipSpace r with
    | ']' :: r => return ([v], r)
    | ',' :: r => do
      let (vs, rest) ← readItems? fuel r
      return (v :: vs, rest)
    | _ => none
def readMembers? : Nat → List Char → Option (List (Option String × Json) × List Char)
  | 0, _ => none
  | fuel + 1, cs =>
    match skipSpace cs with
    | '"' :: r => do
      let (k, r) ← readString? r
      match skipSpace r with
      | ':' :: r => do
        let (v, r) ← readValue? fuel r
        match skipSpace r with
        | '}' :: r => return ([(k, v)], r)
        | ',' :: r => do
          let (ms, rest) ← readMembers? fuel r
          return ((k, v) :: ms, rest)
        | _ => none
      | _ => none
    | _ => none
end

/-- The value that a text holds, with nothing but white space around it. -/
def read? (s : String) : Option Json := do
  let cs := s.toList
  let (v, rest) ← readValue? (2 * cs.length + 2) cs
  if (skipSpace rest).isEmpty then return v else none

end RdfStore.Json
