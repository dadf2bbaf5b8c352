/-!
Decimal forms of floating-point numbers.

`Shortest.digits` finds the fewest decimal digits that read back as the same number,
and `render` lays them out: positionally for moderate exponents, otherwise with one
digit before the point and a signed exponent of at least two digits.
-/

namespace RecordStore.Decimal

/-- A positive floating-point number is `significand * 2 ^ exponent`. -/
structure Parts where
  significand : Nat
  exponent : Int

/-- The parts of a finite positive floating-point number, read from its bits. -/
def Parts.ofBits (bits : Nat) : Parts :=
  let fraction : Nat := bits % (1 <<< 52)
  let field : Nat := bits / (1 <<< 52) % (1 <<< 11)
  if field = 0 then ⟨fraction, -1074⟩ else ⟨(1 <<< 52) + fraction, (field : Int) - 1075⟩

/-- A number `num / den * 10 ^ shift` as a quotient of naturals, for any sign of the shift. -/
def scaled (num den : Nat) (shift : Int) : Nat × Nat :=
  if 0 ≤ shift then (num * Nat.pow 10 shift.toNat, den)
  else (num, den * Nat.pow 10 (-shift).toNat)

/-- Digits `m` with `m * 10 ^ place`, a decimal candidate. -/
structure Candidate where
  digits : Nat
  place : Int

namespace Shortest

/-- The value and the two ends of the interval that rounds to it, times `4 / den`. -/
structure Interval where
  value : Nat
  low : Nat
  high : Nat
  den : Nat
  /-- The ends themselves round to the value. -/
  closed : Bool

/-- The interval of the reals that round to the number: half-way to each neighbour. -/
def interval (p : Parts) : Interval :=
  let narrow : Bool := p.significand = 1 <<< 52 && -1074 < p.exponent
  let value := 4 * p.significand
  let low := if narrow then value - 1 else value - 2
  let high := value + 2
  let closed := p.significand % 2 = 0
  if 0 ≤ p.exponent then
    let scale := 1 <<< p.exponent.toNat
    ⟨value * scale, low * scale, high * scale, 4, closed⟩
  else ⟨value, low, high, 4 * (1 <<< (-p.exponent).toNat), closed⟩

/-- Whether `digits * 10 ^ place` rounds to the value. -/
def Interval.holds (i : Interval) (c : Candidate) : Bool :=
  let (point, unit) := scaled c.digits 1 c.place
  let spot := point * i.den
  let low := i.low * unit
  let high := i.high * unit
  if i.closed then low ≤ spot && spot ≤ high else low < spot && spot < high

/-- The distance of a candidate from the value, times a factor that all candidates of a place
share. -/
def Interval.distance (i : Interval) (c : Candidate) : Nat :=
  let (point, unit) := scaled c.digits 1 c.place
  let spot := point * i.den
  let value := i.value * unit
  if spot ≤ value then value - spot else spot - value

/-- The better of the value's two neighbours on the grid of a place, if one rounds to it. -/
def onGrid (i : Interval) (place : Int) : Option Candidate :=
  let (num, den) := scaled i.value i.den (-place)
  let below : Candidate := ⟨num / den, place⟩
  let above : Candidate := ⟨num / den + 1, place⟩
  match i.holds below, i.holds above with
  | false, false => none
  | true, false => some below
  | false, true => some above
  | true, true =>
    if i.distance below < i.distance above then some below
    else if i.distance above < i.distance below then some above
    else if below.digits % 2 = 0 then some below else some above

/-- The first place, from the coarsest down, whose grid has a candidate. -/
def search (i : Interval) : Nat → Int → Candidate
  | 0, place => ⟨(scaled i.value i.den (-place)).1 / (scaled i.value i.den (-place)).2, place⟩
  | steps + 1, place => (onGrid i place).getD (search i steps (place - 1))

/-- The fewest digits that read back as the number. -/
def digits (p : Parts) : Candidate :=
  search (interval p) 660 (if 0 ≤ p.exponent then 310 else 20)

end Shortest

/-- Drops the zeros at the end of the digits. -/
def stripZeros : Nat → Candidate → Candidate
  | 0, c => c
  | fuel + 1, c =>
    if c.digits ≠ 0 ∧ c.digits % 10 = 0 then stripZeros fuel ⟨c.digits / 10, c.place + 1⟩ else c

/-- The text of an exponent: a sign and the digits. -/
def exponentText (e : Int) : String :=
  (if e < 0 then "-" else "+") ++ toString e.natAbs

/-- Lays out digits. It is positional when the first digit stands for `10 ^ e` with `-5 ≤ e ≤ 15`.
-/
def layout (c : Candidate) : String :=
  let text := toString c.digits
  let count := text.length
  let leading := c.place + (count : Int) - 1
  if -5 ≤ leading ∧ leading ≤ 15 then
    if 0 ≤ c.place then text ++ String.ofList (List.replicate c.place.toNat '0') ++ ".0"
    else if 0 ≤ leading then
      let whole := leading.toNat + 1
      String.ofList (text.toList.take whole) ++ "." ++ String.ofList (text.toList.drop whole)
    else "0." ++ String.ofList (List.replicate (-leading - 1).toNat '0') ++ text
  else
    let tail := String.ofList (text.toList.drop 1)
    String.ofList (text.toList.take 1) ++ (if tail.isEmpty then "" else "." ++ tail) ++ "e" ++
      exponentText leading

/-- The text of a finite floating-point number. -/
def render (f : Float) : String :=
  let bits := f.toBits.toNat
  let sign := if bits < 1 <<< 63 then "" else "-"
  let size := bits % (1 <<< 63)
  sign ++ if size = 0 then "0.0" else layout (stripZeros 400 (Shortest.digits (Parts.ofBits size)))

end RecordStore.Decimal
