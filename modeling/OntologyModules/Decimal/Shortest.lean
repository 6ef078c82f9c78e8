/-!
# The shortest decimal of a binary64 value

A binary64 value is read back from any decimal that is nearer to it than to its neighbours. Of
these decimals the one with the fewest digits is chosen, and of several the nearest. The value
lies on a grid of multiples of a power of ten, finer and finer until one of the two grid points
around the value reads back; digits and power of ten then give the text.
-/

namespace OntologyModules.Decimal

/-- A positive binary64 value with the ends of the range that reads back as it, all in units of
one power of two. -/
structure Cell where
  /-- The value. -/
  value : Nat
  /-- The lower end of the range. -/
  low : Nat
  /-- The upper end of the range. -/
  high : Nat
  /-- Whether the ends read back too. -/
  closed : Bool
  /-- The exponent of the power of two. -/
  exponent : Int
deriving DecidableEq, Repr

/-- The range of the value with the given bits, whatever its sign. -/
def Cell.ofBits (bits : UInt64) : Cell :=
  let biased := (bits >>> 52 &&& 0x7ff).toNat
  let fraction := (bits &&& 0xfffffffffffff).toNat
  let mantissa := if biased = 0 then fraction else fraction + 0x10000000000000
  let exponent : Int := (if biased = 0 then 1 else biased) - 1075
  let low := if fraction = 0 ∧ 1 < biased then 4 * mantissa - 1 else 4 * mantissa - 2
  ⟨4 * mantissa, low, 4 * mantissa + 2, mantissa % 2 = 0, exponent - 2⟩

/-- A whole number of tens to some power. -/
structure Point where
  /-- The number. -/
  digits : Nat
  /-- The exponent of the power of ten. -/
  power : Int
deriving DecidableEq, Repr

/-- The power of a base, which is one for a negative exponent. -/
def wholePower (base : Nat) (exponent : Int) : Nat := base.pow exponent.toNat

/-- A positive fraction, as numerator and denominator, for a product of powers of two and ten. -/
def ratio (number : Nat) (twos tens : Int) : Nat × Nat :=
  (number * wholePower 2 twos * wholePower 10 tens, wholePower 2 (-twos) * wholePower 10 (-tens))

/-- Whether a grid point lies in the range, whose ends are given in the grid's units over one
denominator. -/
def Cell.reads (cell : Cell) (low high denominator digits : Nat) : Bool :=
  if cell.closed then low ≤ digits * denominator && digits * denominator ≤ high
  else low < digits * denominator && digits * denominator < high

/-- The point of the grid that reads back as the value, the nearer one if both neighbours do. -/
def Cell.onGrid? (cell : Cell) (power : Int) : Option Point :=
  let (value, denominator) := ratio cell.value cell.exponent (-power)
  let low := (ratio cell.low cell.exponent (-power)).1
  let high := (ratio cell.high cell.exponent (-power)).1
  let below := value / denominator
  let above := below + 1
  let distanceBelow := value - below * denominator
  let distanceAbove := above * denominator - value
  match cell.reads low high denominator below && below != 0,
      cell.reads low high denominator above with
  | true, true =>
    if distanceBelow < distanceAbove ∨ distanceBelow = distanceAbove ∧ below % 2 = 0 then
      some ⟨below, power⟩
    else some ⟨above, power⟩
  | true, false => some ⟨below, power⟩
  | false, true => some ⟨above, power⟩
  | false, false => none

/-- The first point that reads back, on so many grids of falling power. -/
def Cell.search (cell : Cell) (power : Int) : Nat → Option Point
  | 0 => none
  | grids + 1 => cell.onGrid? power <|> cell.search (power - 1) grids

/-- The shortest decimal of a positive value. -/
def shortest (bits : UInt64) : Point :=
  ((Cell.ofBits bits).search 309 634).getD ⟨0, 0⟩

/-- The least position of a first digit that is written without an exponent. -/
def leastPlainPosition : Int := -5

/-- The greatest position of a first digit that is written without an exponent. -/
def greatestPlainPosition : Int := 15

/-- The text of a decimal: always with a point or an exponent. -/
def Point.render (point : Point) : String :=
  let digits := toString point.digits
  let position : Int := point.power + digits.length - 1
  if leastPlainPosition ≤ position ∧ position ≤ greatestPlainPosition then
    if 0 ≤ point.power then digits ++ "".pushn '0' point.power.toNat ++ ".0"
    else if 0 ≤ position then
      String.ofList (digits.toList.take (position + 1).toNat) ++ "." ++
        String.ofList (digits.toList.drop (position + 1).toNat)
    else "0." ++ "".pushn '0' (-position - 1).toNat ++ digits
  else
    let tail := digits.toList.drop 1
    String.ofList (digits.toList.take 1) ++
      (if tail.isEmpty then "" else "." ++ String.ofList tail) ++
      (if position < 0 then "e-" else "e+") ++ toString position.natAbs

/-- The shortest text of a finite binary64 value. -/
def render (bits : UInt64) : String :=
  let sign := if bits >>> 63 = 0 then "" else "-"
  if bits &&& 0x7fffffffffffffff = 0 then sign ++ "0.0" else sign ++ (shortest bits).render

end OntologyModules.Decimal
