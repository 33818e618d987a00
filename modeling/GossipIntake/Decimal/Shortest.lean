namespace GossipIntake

structure Decimal where
  digits : Nat
  exponent : Int
deriving DecidableEq, Repr

structure Binary64 where
  mantissa : Nat
  exponent : Int
deriving DecidableEq, Repr

namespace Binary64

/-- The smallest mantissa of a double that is not subnormal, which is stored without this bit. -/
def leadingBit : Nat := Nat.pow 2 52

def ofBits (bits : UInt64) : Binary64 :=
  let biased : Nat := bits.toNat / leadingBit % 2048
  let fraction : Nat := bits.toNat % leadingBit
  if biased = 0 then { mantissa := fraction, exponent := -1074 }
  else { mantissa := leadingBit + fraction, exponent := (biased : Int) - 1075 }

structure Interval where
  low : Nat
  value : Nat
  high : Nat
  denominator : Nat
  closed : Bool
deriving Repr

/-- The gap below a power of two is half of the gap above it. -/
def interval (x : Binary64) : Interval :=
  let scale := x.exponent - 2
  let factor := Nat.pow 2 scale.toNat
  let below := if x.mantissa = leadingBit ∧ -1074 < x.exponent then 1 else 2
  { low := (4 * x.mantissa - below) * factor
    value := 4 * x.mantissa * factor
    high := (4 * x.mantissa + 2) * factor
    denominator := Nat.pow 2 (-scale).toNat
    closed := x.mantissa % 2 = 0 }

def Interval.holds (range : Interval) (exponent : Int) (multiple : Nat) : Bool :=
  let unit := multiple * Nat.pow 10 exponent.toNat * range.denominator
  let scale := Nat.pow 10 (-exponent).toNat
  if range.closed then range.low * scale ≤ unit && unit ≤ range.high * scale
  else range.low * scale < unit && unit < range.high * scale

/-- The multiple of `10 ^ exponent` in the interval that is nearest to the value, if there is one. It
    is one of the value's two neighbours, the even one where both are equally near. -/
def Interval.nearest? (range : Interval) (exponent : Int) : Option Nat :=
  let unit := Nat.pow 10 exponent.toNat * range.denominator
  let value := range.value * Nat.pow 10 (-exponent).toNat
  let below := value / unit
  let toBelow := value - below * unit
  let toAbove := (below + 1) * unit - value
  let belowFirst := toBelow < toAbove || (toBelow == toAbove && below % 2 == 0)
  let candidates := if belowFirst then [below, below + 1] else [below + 1, below]
  candidates.find? (range.holds exponent)

def Interval.magnitude (range : Interval) : Int :=
  let whole := range.value / range.denominator
  if whole = 0 then
    -(((List.range 325).find? fun places =>
      range.denominator ≤ range.value * Nat.pow 10 places).getD 324 : Nat)
  else (Nat.toDigits 10 whole).length - 1

def trimZeros (d : Decimal) : Decimal :=
  if d.digits = 0 then { digits := 0, exponent := 0 }
  else if d.digits % 10 = 0 then trimZeros { digits := d.digits / 10, exponent := d.exponent + 1 }
  else d
termination_by d.digits
decreasing_by omega

/-- The fewest decimal digits that read back as the double. Seventeen always suffice. -/
def shortest (x : Binary64) : Decimal :=
  let range := x.interval
  let magnitude := range.magnitude
  let found := (List.range 18).findSome? fun (digits : Nat) =>
    let exponent := magnitude - digits
    (range.nearest? exponent).map fun multiple => { digits := multiple, exponent : Decimal }
  trimZeros (found.getD { digits := 0, exponent := 0 })

end Binary64

end GossipIntake
