import RdfStore.Text.Basic

/-!
# Whole numbers in 64 bits

Reading and writing whole numbers in base ten, and the exact integers that fit into a signed
word of 64 bits. Arithmetic is done on the exact integers; `toInt64?` then says whether the
result fits.
-/

namespace RdfStore.Number

def digitChar (n : Nat) : Char := Char.ofNat (48 + n)

def digits (n : Nat) : List Char :=
  if n < 10 then [digitChar n] else digits (n / 10) ++ [digitChar (n % 10)]

def natText (n : Nat) : String := String.ofList (digits n)

/-- An integer in base ten; a negative one has a minus sign, no other has a sign. -/
def intText : Int → String
  | .ofNat n => natText n
  | .negSucc n => String.ofList ('-' :: digits (n + 1))

/-- The integer that a text in base ten stands for: an optional sign of either kind, then one
or more digits and nothing else. -/
def readInt? : List Char → Option Int
  | [] => none
  | ['+'] => none
  | ['-'] => none
  | '+' :: ds => (Text.readDigits? ds).map Int.ofNat
  | '-' :: ds => (Text.readDigits? ds).map fun n => -(n : Int)
  | ds => (Text.readDigits? ds).map Int.ofNat

def toInt64? (i : Int) : Option Int64 :=
  if -9223372036854775808 ≤ i ∧ i ≤ 9223372036854775807 then some (Int64.ofInt i) else none

def readInt64? (cs : List Char) : Option Int64 :=
  (readInt? cs).bind toInt64?

def int64Text (i : Int64) : String := intText i.toInt

end RdfStore.Number
