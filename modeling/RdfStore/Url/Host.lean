import RdfStore.Number.Integer
import RdfStore.Url.Domain

/-!
# Hosts of a URL

The host rules of the URL standard. A host in brackets is an IPv6 address. Another host of a
special scheme is a domain, in its ASCII form, and an IPv4 address if its last label is a number.
A host of another scheme is opaque: it is kept, and only control characters and characters outside
ASCII are percent-encoded.
-/

namespace RdfStore.Url

inductive UrlError where
  | relative
  | emptyHost
  | port
  | ipv4
  | ipv6
  | domain
  | hostCharacter
  deriving DecidableEq, Repr

def UrlError.message : UrlError → String
  | .relative => "relative URL without a base"
  | .emptyHost => "empty host"
  | .port => "invalid port number"
  | .ipv4 => "invalid IPv4 address"
  | .ipv6 => "invalid IPv6 address"
  | .domain => "invalid international domain name"
  | .hostCharacter => "invalid domain character"

def isPrintable (c : Char) : Bool := 32 ≤ c.toNat && c.toNat < 127

/-! ## IPv4 -/

/-- A part of an IPv4 address: decimal, octal after `0`, hexadecimal after `0x`. The prefix
alone is zero. -/
def ipv4Number? : List Char → Option Nat
  | [] => none
  | '0' :: 'x' :: ds => Text.readHex? ds
  | '0' :: 'X' :: ds => Text.readHex? ds
  | '0' :: d :: ds =>
    if (d :: ds).all fun c => '0' ≤ c && c ≤ '7' then
      some ((d :: ds).foldl (fun n c => 8 * n + (c.toNat - 48)) 0)
    else none
  | ds => Text.readDigits? ds

/-- Whether the last label of a domain, one empty label at the end left aside, is a number. -/
def endsInNumber (domain : List Char) : Bool :=
  let isNumber (label : List Char) : Bool :=
    (!label.isEmpty && label.all Char.isDigit) || (ipv4Number? label).isSome
  match (Text.pieces '.' domain).reverse with
  | [] :: last :: _ => isNumber last
  | last :: _ => isNumber last
  | [] => false

/-- The value of the parts of an IPv4 address: the last part fills the bytes that the parts
before it, of one byte each, leave. -/
def ipv4Value? (parts : List Nat) : Option Nat :=
  match parts.reverse with
  | [] => none
  | last :: before =>
    if last < Nat.pow 256 (4 - before.length) ∧ before.all (· < 256) ∧ before.length ≤ 3 then
      let first := before.reverse.foldl (fun n p => 256 * n + p) 0
      some (last + first * Nat.pow 256 (4 - before.length))
    else none

def ipv4Text (n : Nat) : List Char :=
  Number.digits (n / 16777216 % 256) ++ '.' :: Number.digits (n / 65536 % 256) ++
    '.' :: Number.digits (n / 256 % 256) ++ '.' :: Number.digits (n % 256)

def ipv4? (domain : List Char) : Except UrlError (List Char) :=
  let labels := Text.pieces '.' domain
  let labels := if labels.getLast? = some [] then labels.dropLast else labels
  match (labels.mapM ipv4Number?).bind ipv4Value? with
  | some n => .ok (ipv4Text n)
  | none => .error .ipv4

/-! ## IPv6 -/

/-- A decimal byte of the IPv4 tail of an IPv6 address: no leading zeros. -/
def ipv4Byte? (cs : List Char) : Option Nat := do
  let n ← Text.readDigits? cs
  if cs ≠ [] ∧ n < 256 ∧ (cs.head? ≠ some '0' ∨ cs = ['0']) then return n else none

/-- The 16-bit pieces of one field of an IPv6 address: up to four hexadecimal digits, or, for a
last field, an IPv4 address. -/
def ipv6Field? (last : Bool) (cs : List Char) : Option (List Nat) :=
  if cs.contains '.' then
    if last then
      match (Text.pieces '.' cs).mapM ipv4Byte? with
      | some [a, b, c, d] => some [256 * a + b, 256 * c + d]
      | _ => none
    else none
  else if cs.isEmpty ∨ cs.length > 4 then none
  else (Text.readHex? cs).map fun n => [n]

def ipv6Fields? (last : Bool) : List (List Char) → Option (List Nat)
  | [] => some []
  | [f] => ipv6Field? last f
  | f :: fs => do return (← ipv6Field? false f) ++ (← ipv6Fields? last fs)

/-- What stands before and after the first double colon. -/
def splitDoubleColon : List Char → Option (List Char × List Char)
  | ':' :: ':' :: cs => some ([], cs)
  | c :: cs => (splitDoubleColon cs).map fun (a, b) => (c :: a, b)
  | [] => none

/-- The fields of one side of a double colon; an empty side has none. -/
def ipv6Side? (last : Bool) (cs : List Char) : Option (List Nat) :=
  if cs.isEmpty then some [] else ipv6Fields? last (Text.pieces ':' cs)

/-- The eight pieces of an IPv6 address; a double colon stands for one or more zeros. -/
def ipv6Pieces? (cs : List Char) : Option (List Nat) :=
  match splitDoubleColon cs with
  | some (before, after) => do
    let a ← ipv6Side? false before
    let b ← ipv6Side? true after
    if a.length + b.length ≤ 7 then
      return a ++ List.replicate (8 - a.length - b.length) 0 ++ b
    else none
  | none => do
    let ps ← ipv6Fields? true (Text.pieces ':' cs)
    if ps.length = 8 then return ps else none

/-- The start and length of the first longest run of zeros in a list whose first place is
`i`. -/
def longestZeros (i : Nat) : List Nat → Nat × Nat
  | [] => (i, 0)
  | p :: ps =>
    let later := longestZeros (i + 1) ps
    let here := ((p :: ps).takeWhile (· = 0)).length
    if later.2 ≤ here then (i, here) else later

/-- Pieces in hexadecimal, separated by colons. -/
def colonHex : List Nat → List Char
  | [] => []
  | [p] => Text.shortHex 4 p
  | p :: ps => Text.shortHex 4 p ++ ':' :: colonHex ps

/-- The normal form of the pieces: the first longest run of at least two zeros becomes a double
colon. -/
def ipv6Text (ps : List Nat) : List Char :=
  let (start, len) := longestZeros 0 ps
  if len < 2 then colonHex ps
  else colonHex (ps.take start) ++ ':' :: ':' :: colonHex (ps.drop (start + len))

/-- The normal form of a host that starts with a bracket. -/
def bracketed (cs : List Char) : Except UrlError (List Char) :=
  match cs.reverse with
  | ']' :: inner =>
    match ipv6Pieces? (inner.reverse.drop 1) with
    | some ps => .ok ('[' :: ipv6Text ps ++ [']'])
    | none => .error .ipv6
  | _ => .error .ipv6

/-! ## Both kinds of hosts -/

def specialHost (cs : List Char) : Except UrlError (List Char) :=
  if cs.head? = some '[' then bracketed cs
  else do
    let domain ←
      match domain? cs with
      | some domain => .ok domain
      | none => .error .domain
    if domain.isEmpty then .error .emptyHost
    else if endsInNumber domain then ipv4? domain
    else .ok domain

def forbiddenInHost (c : Char) : Bool :=
  c.toNat = 0 || c ∈ ['\t', '\n', '\r', ' ', '#', '/', ':', '<', '>', '?', '@', '[', '\\', ']',
    '^', '|']

def opaqueHost (cs : List Char) : Except UrlError (List Char) :=
  if cs.head? = some '[' then bracketed cs
  else if cs.any forbiddenInHost then .error .hostCharacter
  else .ok (Text.percentEncode isPrintable cs)

end RdfStore.Url
