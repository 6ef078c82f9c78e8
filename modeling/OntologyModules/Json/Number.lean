import OntologyModules.Decimal.Shortest

/-!
# Numbers of a JSON text

A number is written with decimal digits, an optional fraction and an optional exponent. A
literal without fraction and exponent is an integer if it fits a signed or an unsigned 64-bit
word; every other literal stands for a binary64 value. That value is computed from at most
64 bits of the leading digits and one power of ten, and a literal beyond the greatest binary64
value has none. Minus zero is a binary64 value.
-/

namespace OntologyModules

/-- The value of a number literal. -/
inductive Number where
  /-- An integer of 64 bits, signed or unsigned. -/
  | integer (value : Int)
  /-- A binary64 value, by its bits. -/
  | real (bits : UInt64)
deriving DecidableEq, Repr

namespace Number

/-- The number as text. -/
def render : Number → String
  | integer value => toString value
  | real bits => Decimal.render bits

end Number

/-- A number literal, by its digits. -/
structure Numeral where
  /-- Whether a minus sign stands in front. -/
  negative : Bool
  /-- The digits before the point. -/
  whole : List Nat
  /-- The digits after the point; none if there is no point. -/
  fraction : List Nat
  /-- The sign and the digits of the exponent, if there is one. -/
  exponent : Option (Bool × List Nat)
deriving DecidableEq, Repr

namespace Numeral

/-- The number that digits stand for. -/
def digitsValue (digits : List Nat) : Nat := digits.foldl (fun value digit => value * 10 + digit) 0

/-- Appends digits to a number while it fits 64 bits; the digits that do not fit are left. -/
def absorb (value : Nat) : List Nat → Nat × List Nat
  | [] => (value, [])
  | digit :: rest =>
    if value * 10 + digit < 2 ^ 64 then absorb (value * 10 + digit) rest
    else (value, digit :: rest)

/-- The greatest power of ten below the range of binary64. -/
def greatestPower : Nat := 308

/-- Divides by a power of ten, in steps that are in the range of binary64. -/
def divideByPower (value : Float) (power : Nat) : Float :=
  if power ≤ greatestPower then value / Float.ofScientific 1 false power
  else if value == 0 then value
  else divideByPower (value / Float.ofScientific 1 false greatestPower) (power - greatestPower)
termination_by power
decreasing_by simp only [greatestPower] at *; omega

/-- The binary64 value nearest to the leading digits, scaled by a power of ten. -/
def scale (leading : Nat) (power : Int) : Option Float :=
  let value := leading.toUInt64.toFloat
  if power < 0 then some (divideByPower value (-power).toNat)
  else if power ≤ greatestPower then
    let scaled := value * Float.ofScientific 1 false power.toNat
    if scaled.isInf then none else some scaled
  else if leading = 0 then some value else none

/-- The greatest exponent that is read as a number. -/
def greatestExponent : Nat := 2147483647

/-- The binary64 value without its sign. -/
def magnitude (numeral : Numeral) : Option Float :=
  let (leading, left) := absorb 0 numeral.whole
  let (leading, unread) := absorb leading numeral.fraction
  let power : Int := left.length - (numeral.fraction.length - unread.length : Nat)
  match numeral.exponent with
  | none => scale leading power
  | some (negative, digits) =>
    let exponent := digitsValue digits
    if exponent ≤ greatestExponent then
      scale leading (if negative then power - exponent else power + exponent)
    else if leading = 0 || negative then some 0 else none

/-- The integer, if the literal is one that fits 64 bits. -/
def integer? (numeral : Numeral) : Option Int :=
  if numeral.fraction.isEmpty && numeral.exponent.isNone then
    let value := digitsValue numeral.whole
    if numeral.negative then
      if 0 < value ∧ value ≤ 0x8000000000000000 then some (-value) else none
    else if value < UInt64.size then some value else none
  else none

/-- The value of the literal, if it is in range. -/
def value? (numeral : Numeral) : Option Number :=
  match numeral.integer? with
  | some value => some (.integer value)
  | none => numeral.magnitude.map fun magnitude =>
    .real (if numeral.negative then -magnitude else magnitude).toBits

end Numeral

end OntologyModules
