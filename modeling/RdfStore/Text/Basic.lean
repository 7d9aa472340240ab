/-!
# Characters and pieces of text

Splitting, joining and trimming over lists of characters, and hexadecimal digits in both
directions. White space is the Unicode property of that name.
-/

namespace RdfStore.Text

def isBlank (c : Char) : Bool :=
  let n := c.toNat
  (9 ≤ n && n ≤ 13) || n = 0x20 || n = 0x85 || n = 0xA0 || n = 0x1680 ||
    (0x2000 ≤ n && n ≤ 0x200A) || n = 0x2028 || n = 0x2029 || n = 0x202F || n = 0x205F ||
    n = 0x3000

/-- The text between the first and the last character that fail a test. -/
def strip (p : Char → Bool) (cs : List Char) : List Char :=
  ((cs.dropWhile p).reverse.dropWhile p).reverse

def trim (s : String) : String := String.ofList (strip isBlank s.toList)

/-- The pieces of a text between the occurrences of a separator; always at least one. -/
def pieces (sep : Char) : List Char → List (List Char)
  | [] => [[]]
  | c :: cs =>
    if c = sep then [] :: pieces sep cs
    else
      match pieces sep cs with
      | [] => [[c]]
      | w :: ws => (c :: w) :: ws

def join (sep : String) : List String → String
  | [] => ""
  | [s] => s
  | s :: t :: r => s ++ sep ++ join sep (t :: r)

def dropStart? : List Char → List Char → Option (List Char)
  | [], cs => some cs
  | _ :: _, [] => none
  | p :: ps, c :: cs => if p = c then dropStart? ps cs else none

def startsWith (cs start : List Char) : Bool := (dropStart? start cs).isSome

def endsWith (cs tail : List Char) : Bool := startsWith cs.reverse tail.reverse

def contains (part : List Char) : List Char → Bool
  | [] => part.isEmpty
  | c :: cs => startsWith (c :: cs) part || contains part cs

def hexValue? (c : Char) : Option Nat :=
  if '0' ≤ c ∧ c ≤ '9' then some (c.toNat - 48)
  else if 'a' ≤ c ∧ c ≤ 'f' then some (c.toNat - 87)
  else if 'A' ≤ c ∧ c ≤ 'F' then some (c.toNat - 55)
  else none

def digitValue? (c : Char) : Option Nat :=
  if '0' ≤ c ∧ c ≤ '9' then some (c.toNat - 48) else none

def hexDigit (n : Nat) : Char :=
  if n < 10 then Char.ofNat (48 + n) else Char.ofNat (87 + n)

def upperHexDigit (n : Nat) : Char :=
  if n < 10 then Char.ofNat (48 + n) else Char.ofNat (55 + n)

/-- The last digits of a number in base sixteen, as many as asked for. -/
def hexDigits : Nat → Nat → List Char
  | 0, _ => []
  | width + 1, n => hexDigits width (n / 16) ++ [hexDigit (n % 16)]

theorem hexDigit_inj {a b : Nat} (ha : a < 16) (hb : b < 16) :
    hexDigit a = hexDigit b ↔ a = b := by
  have hall : ∀ a < 16, ∀ b < 16, hexDigit a = hexDigit b → a = b := by decide
  exact ⟨hall a ha b hb, congrArg hexDigit⟩

/-- Numbers that need no more digits are told apart by them. -/
theorem hexDigits_inj {width n m : Nat} (hn : n < Nat.pow 16 width) (hm : m < Nat.pow 16 width) :
    hexDigits width n = hexDigits width m ↔ n = m := by
  refine ⟨fun h => ?_, congrArg _⟩
  induction width generalizing n m with
  | zero =>
    have hzero : Nat.pow 16 0 = 1 := rfl
    omega
  | succ width ih =>
    have hsucc : Nat.pow 16 (width + 1) = Nat.pow 16 width * 16 := rfl
    unfold hexDigits at h
    obtain ⟨hfirst, hlast⟩ := List.append_inj' h rfl
    have hdiv := ih (by omega) (by omega) hfirst
    have hmod := (hexDigit_inj (by omega) (by omega)).1 (List.cons.inj hlast).1
    omega

/-- A number below `16 ^ width` in base sixteen without leading zeros; zero has one digit. -/
def shortHex (width n : Nat) : List Char :=
  match (hexDigits width n).dropWhile (· = '0') with
  | [] => ['0']
  | ds => ds

/-- The number that hexadecimal digits stand for; `none` at any other character. -/
def readHex? (cs : List Char) : Option Nat :=
  cs.foldlM (fun n c => (hexValue? c).map (16 * n + ·)) 0

def readDigits? (cs : List Char) : Option Nat :=
  cs.foldlM (fun n c => (digitValue? c).map (10 * n + ·)) 0

end RdfStore.Text
