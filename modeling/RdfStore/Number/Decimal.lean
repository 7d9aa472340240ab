import RdfStore.Number.Integer

/-!
# Decimal text of binary floating point

A double is written with the fewest digits that read back as the same double, of those the
nearest to it (a tie goes up), always in positional notation. Reading accepts digits with an
optional point and an optional exponent, and rounds correctly.

`shortest` works in exact arithmetic. The reals that round to a finite double form an interval
around it; on the grid of numbers with `n` digits only the two neighbours of the double can be
nearest to it, so the first `n` for which one of them lies in the interval decides.
-/

namespace RdfStore.Number

/-- The number `digits * 10 ^ exponent`. -/
structure Decimal where
  digits : Nat
  exponent : Int
  deriving DecidableEq, Repr

/-- A positive rational interval around a value, all three over one denominator. -/
structure Rounding where
  value : Nat
  low : Nat
  high : Nat
  den : Nat
  closed : Bool
  deriving DecidableEq, Repr

/-- The reals that round to the double `m * 2 ^ e`, for a mantissa of at most 53 bits and an
exponent of at least `-1074`. The gap below a power of two is half as wide as the one above. -/
def Rounding.ofBinary (m : Nat) (e : Int) : Rounding :=
  let below := if m = Nat.pow 2 52 ∧ e > -1074 then 1 else 2
  let shift := e - 2
  let scale := Nat.pow 2 shift.toNat
  { value := 4 * m * scale
    low := (4 * m - below) * scale
    high := (4 * m + 2) * scale
    den := Nat.pow 2 (-shift).toNat
    closed := m % 2 = 0 }

def Rounding.contains (r : Rounding) (num den : Nat) : Bool :=
  let low := compare (r.low * den) (num * r.den)
  let high := compare (num * r.den) (r.high * den)
  if r.closed then low != .gt && high != .gt else low == .lt && high == .lt

/-- The least `p` with `num / den < 10 ^ p`, searched from `p` upwards. -/
def magnitudeFrom (num den : Nat) : Nat → Int → Int
  | 0, p => p
  | fuel + 1, p =>
    if num * Nat.pow 10 (-p).toNat < den * Nat.pow 10 p.toNat then p
    else magnitudeFrom num den fuel (p + 1)

/-- The nearer of the two neighbours of the value on the grid of multiples of `10 ^ q` that lie
in the interval, the upper one on a tie. A last digit that is zero is left to the exponent. -/
def Rounding.onGrid? (r : Rounding) (q : Int) : Option Decimal :=
  let up := Nat.pow 10 q.toNat
  let down := Nat.pow 10 (-q).toNat
  let num := r.value * down
  let den := r.den * up
  let d := num / den
  let lowFits := r.contains (d * up) down
  let highFits := r.contains ((d + 1) * up) down
  let nearerLow := 2 * (num - d * den) < den
  if lowFits && (nearerLow || !highFits) then some ⟨d, q⟩
  else if highFits then some (if (d + 1) % 10 = 0 then ⟨(d + 1) / 10, q + 1⟩ else ⟨d + 1, q⟩)
  else none

/-- The first hit on the grids with `n`, `n + 1`, … digits, for a value below `10 ^ p`. -/
def Rounding.searchGrids (r : Rounding) (p : Int) : Nat → Nat → Decimal
  | 0, n => ⟨r.value / r.den, p - n⟩
  | fuel + 1, n => (r.onGrid? (p - n)).getD (r.searchGrids p fuel (n + 1))

/-- The decimal with the fewest digits that rounds to `m * 2 ^ e`; seventeen always suffice.
The search for the magnitude starts from the number of bits times `log10 2`, less one. -/
def shortest (m : Nat) (e : Int) : Decimal :=
  let r := Rounding.ofBinary m e
  let bits := (Nat.log2 m : Int) + e
  let p := magnitudeFrom r.value r.den 6 (Int.fdiv (bits * 30103) 100000 - 1)
  r.searchGrids p 17 1

/-- A decimal in positional notation, with neither point nor zeros that are not needed. -/
def Decimal.positional (d : Decimal) : List Char :=
  let ds := Number.digits d.digits
  if 0 ≤ d.exponent then ds ++ List.replicate d.exponent.toNat '0'
  else
    let places := (-d.exponent).toNat
    if places < ds.length then
      ds.take (ds.length - places) ++ '.' :: ds.drop (ds.length - places)
    else
      '0' :: '.' :: List.replicate (places - ds.length) '0' ++ ds

/-- The magnitude of a finite double in positional notation, from its fields. -/
def magnitudeText (exponentField mantissaField : Nat) : List Char :=
  if exponentField = 0 then
    if mantissaField = 0 then ['0'] else (shortest mantissaField (-1074)).positional
  else (shortest (Nat.pow 2 52 + mantissaField) ((exponentField : Int) - 1075)).positional

/-- A double as text: positional, `-0` for the negative zero, `NaN`, `inf` and `-inf`. -/
def floatText (x : Float) : String :=
  let bits := x.toBits.toNat
  let negative := bits / Nat.pow 2 63 = 1
  let exponentField := bits / Nat.pow 2 52 % Nat.pow 2 11
  let mantissaField := bits % Nat.pow 2 52
  if exponentField = 2047 then
    if mantissaField ≠ 0 then "NaN" else if negative then "-inf" else "inf"
  else
    let text := magnitudeText exponentField mantissaField
    String.ofList (if negative then '-' :: text else text)

/-- The double nearest to a decimal. Far outside the range of doubles the answer is infinity or
zero without a computation. -/
def Decimal.toFloat (d : Decimal) : Float :=
  if d.digits = 0 then 0
  else
    let top := d.exponent + (Number.digits d.digits).length
    if top > 400 then 1.0 / 0.0
    else if top < -400 then 0
    else if 0 ≤ d.exponent then Float.ofScientific d.digits false d.exponent.toNat
    else Float.ofScientific d.digits true (-d.exponent).toNat

/-- The exponent part of a number, after its mantissa: nothing, or `e` or `E` and an integer
with an optional sign. -/
def readExponent? : List Char → Option Int
  | [] => some 0
  | c :: cs => if c = 'e' ∨ c = 'E' then readInt? cs else none

/-- The decimal that digits with an optional point and an optional exponent stand for. At least
one digit stands before or after the point. -/
def Decimal.read? (cs : List Char) : Option Decimal := do
  let whole := cs.takeWhile Char.isDigit
  let rest := cs.dropWhile Char.isDigit
  let (fraction, rest) :=
    match rest with
    | '.' :: r => (r.takeWhile Char.isDigit, r.dropWhile Char.isDigit)
    | r => ([], r)
  if whole.isEmpty && fraction.isEmpty then none
  else
    let e ← readExponent? rest
    let n ← Text.readDigits? (whole ++ fraction)
    return ⟨n, e - fraction.length⟩

/-- A double without its sign: a decimal, or a name of infinity or of not-a-number in any
case. -/
def readMagnitude? (cs : List Char) : Option Float :=
  let low := String.ofList (cs.map Char.toLower)
  if low = "inf" ∨ low = "infinity" then some (1.0 / 0.0)
  else if low = "nan" then some (0.0 / 0.0)
  else (Decimal.read? cs).map Decimal.toFloat

/-- The double that a text stands for, with an optional sign of either kind. -/
def readFloat? : List Char → Option Float
  | '+' :: cs => readMagnitude? cs
  | '-' :: cs => (readMagnitude? cs).map fun x => -x
  | cs => readMagnitude? cs

end RdfStore.Number
