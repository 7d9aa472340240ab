import RdfStore.Number.Integer

/-!
# Dates with a time and an offset

The Internet profile of ISO 8601 (RFC 3339): reading accepts a `T` or `t` or a blank between
date and time, a fraction of any length of which nine digits count, the second 60, and an
offset of `Z`, `z` or hours and minutes. Writing uses the shortest of no, three, six or nine
digits for the fraction and `Z` for the offset zero. Two values are equal when they name the
same instant, whatever their offsets.
-/

namespace RdfStore

structure DateTime where
  /-- The year of the proleptic Gregorian calendar, which has a year zero. -/
  year : Int
  month : Nat
  day : Nat
  hour : Nat
  minute : Nat
  second : Nat
  nanos : Nat
  /-- How many minutes the clock is ahead of universal time. -/
  offset : Int
  deriving DecidableEq, Repr

namespace DateTime

def isLeapYear (y : Int) : Bool :=
  y % 4 = 0 && (y % 100 ≠ 0 || y % 400 = 0)

def daysInMonth (y : Int) (m : Nat) : Nat :=
  if m = 2 then if isLeapYear y then 29 else 28
  else if m = 4 ∨ m = 6 ∨ m = 9 ∨ m = 11 then 30
  else 31

/-- The days from the first of March of the year zero to a date. Years are counted from March
on, in cycles of four hundred, so that a leap day is the last day of its year. -/
def dayNumber (y : Int) (m d : Nat) : Int :=
  let y := if m ≤ 2 then y - 1 else y
  let cycle := y / 400
  let yearOfCycle := (y % 400).toNat
  let monthOfYear := if m ≤ 2 then m + 9 else m - 3
  let dayOfYear := (153 * monthOfYear + 2) / 5 + d - 1
  let dayOfCycle := 365 * yearOfCycle + yearOfCycle / 4 - yearOfCycle / 100 + dayOfYear
  cycle * 146097 + dayOfCycle

/-- Year, month and day of a day number. -/
def dateOfDay (n : Int) : Int × Nat × Nat :=
  let cycle := n / 146097
  let dayOfCycle := (n % 146097).toNat
  let yearOfCycle :=
    (dayOfCycle - dayOfCycle / 1460 + dayOfCycle / 36524 - dayOfCycle / 146096) / 365
  let dayOfYear := dayOfCycle - (365 * yearOfCycle + yearOfCycle / 4 - yearOfCycle / 100)
  let monthOfYear := (5 * dayOfYear + 2) / 153
  let d := dayOfYear - (153 * monthOfYear + 2) / 5 + 1
  let m := if monthOfYear < 10 then monthOfYear + 3 else monthOfYear - 9
  let y := cycle * 400 + yearOfCycle
  (if m ≤ 2 then y + 1 else y, m, d)

/-- The minutes of universal time since the start of the day zero. -/
def universalMinutes (t : DateTime) : Int :=
  (dayNumber t.year t.month t.day * 24 + t.hour) * 60 + t.minute - t.offset

def toUniversal (t : DateTime) : DateTime :=
  let n := t.universalMinutes
  let minuteOfDay := (n % 1440).toNat
  let (year, month, day) := dateOfDay (n / 1440)
  { year, month, day
    hour := minuteOfDay / 60
    minute := minuteOfDay % 60
    second := t.second
    nanos := t.nanos
    offset := 0 }

/-- How two instants stand to each other. The second 60 stands after all fractions of the second 59
and before the next minute. -/
def order (s t : DateTime) : Ordering :=
  if s.universalMinutes < t.universalMinutes then .lt
  else if t.universalMinutes < s.universalMinutes then .gt
  else (instOrdNat.compare s.second t.second).then (instOrdNat.compare s.nanos t.nanos)

def padded (width n : Nat) : List Char :=
  let ds := Number.digits n
  List.replicate (width - ds.length) '0' ++ ds

def fractionText (nanos : Nat) : List Char :=
  if nanos = 0 then []
  else if nanos % 1000000 = 0 then '.' :: padded 3 (nanos / 1000000)
  else if nanos % 1000 = 0 then '.' :: padded 6 (nanos / 1000)
  else '.' :: padded 9 nanos

def offsetText (offset : Int) : List Char :=
  if offset = 0 then ['Z']
  else
    let n := offset.natAbs
    (if offset < 0 then '-' else '+') :: padded 2 (n / 60) ++ ':' :: padded 2 (n % 60)

/-- A year as it is written: four digits, with a sign outside the years 0 to 9999. -/
def yearText (y : Int) : List Char :=
  if y < 0 then '-' :: padded 4 y.natAbs
  else if 9999 < y then '+' :: padded 4 y.natAbs
  else padded 4 y.natAbs

def text (t : DateTime) : String :=
  String.ofList (yearText t.year ++ '-' :: padded 2 t.month ++ '-' :: padded 2 t.day ++
    'T' :: padded 2 t.hour ++ ':' :: padded 2 t.minute ++ ':' :: padded 2 t.second ++
    fractionText t.nanos ++ offsetText t.offset)

/-- A number of exactly so many digits at the start of a text, and the rest. -/
def readFixed? (width : Nat) (cs : List Char) : Option (Nat × List Char) :=
  if cs.length < width then none
  else (Text.readDigits? (cs.take width)).map fun n => (n, cs.drop width)

/-- The rest of a text after one of several characters. -/
def skip? (allowed : List Char) : List Char → Option (List Char)
  | [] => none
  | c :: cs => if c ∈ allowed then some cs else none

/-- The billionths of a second in a fraction after its point, and the rest: at least one digit;
digits after the ninth are dropped. -/
def readFraction? (cs : List Char) : Option (Nat × List Char) :=
  let ds := cs.takeWhile Char.isDigit
  if ds.isEmpty then none
  else
    let kept := ds.take 9
    (Text.readDigits? kept).map fun n =>
      (n * Nat.pow 10 (9 - kept.length), cs.dropWhile Char.isDigit)

/-- The offset in minutes that ends a text. The sign may be a plus, a hyphen or the minus sign
of mathematics; hours go up to 23 and minutes up to 59. -/
def readOffset? : List Char → Option Int
  | ['Z'] => some 0
  | ['z'] => some 0
  | sign :: cs => do
    let negative ←
      if sign = '+' then some false
      else if sign = '-' ∨ sign = '−' then some true
      else none
    let (h, cs) ← readFixed? 2 cs
    let cs ← skip? [':'] cs
    let (m, cs) ← readFixed? 2 cs
    if cs.isEmpty ∧ h < 24 ∧ m < 60 then
      let n : Int := (60 * h + m : Nat)
      return if negative then -n else n
    else none
  | [] => none

def read? (cs : List Char) : Option DateTime := do
  let (year, cs) ← readFixed? 4 cs
  let cs ← skip? ['-'] cs
  let (month, cs) ← readFixed? 2 cs
  let cs ← skip? ['-'] cs
  let (day, cs) ← readFixed? 2 cs
  let cs ← skip? ['T', 't', ' '] cs
  let (hour, cs) ← readFixed? 2 cs
  let cs ← skip? [':'] cs
  let (minute, cs) ← readFixed? 2 cs
  let cs ← skip? [':'] cs
  let (second, cs) ← readFixed? 2 cs
  let (nanos, cs) ←
    match cs with
    | '.' :: r => readFraction? r
    | r => some (0, r)
  let offset ← readOffset? cs
  if 1 ≤ month ∧ month ≤ 12 ∧ 1 ≤ day ∧ day ≤ daysInMonth year month ∧ hour ≤ 23 ∧
      minute ≤ 59 ∧ second ≤ 60 then
    return { year, month, day, hour, minute, second, nanos, offset }
  else none

end DateTime

end RdfStore
