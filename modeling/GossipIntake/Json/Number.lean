import GossipIntake.Decimal.Shortest
import GossipIntake.Json.Basic

namespace GossipIntake

namespace Numeral

/-- Digits are taken for as long as the significand fits a word. The result is the significand, how
    many digits it took, and how many were left. -/
def takeWord (significand taken : Nat) : List Char → Nat × Nat × Nat
  | [] => (significand, taken, 0)
  | digit :: rest =>
    let next := 10 * significand + (digit.toNat - '0'.toNat)
    if next < UInt64.size then takeWord next (taken + 1) rest else (significand, taken, rest.length + 1)

/-- Significand and power of ten: whole digits that do not fit count as zeros, and digits of the
    fraction that do not fit are dropped. -/
def scaled (n : Numeral) : Nat × Int :=
  let whole := takeWord 0 0 (Nat.toDigits 10 n.whole)
  let all := takeWord whole.1 0 n.fraction
  (all.1, (whole.2.2 : Int) - all.2.1 + n.exponent.getD 0)

def powerOfTen (exponent : Nat) : Float := Float.ofScientific 1 false exponent

/-- The double next to a significand times a power of ten, rounded once for the significand and once
    for the power. There is none beyond the largest double. -/
def scale (significand : Nat) (exponent : Int) : Option Float :=
  let x := Float.ofNat significand
  if 0 ≤ exponent then
    if exponent ≤ 308 then
      let scaled := x * powerOfTen exponent.toNat
      if scaled.isInf then none else some scaled
    else if significand = 0 then some x
    else none
  else if -308 ≤ exponent then some (x / powerOfTen (-exponent).toNat)
  else if -616 ≤ exponent then some (x / powerOfTen 308 / powerOfTen (-exponent - 308).toNat)
  else some 0

def toFloat? (n : Numeral) : Option Float :=
  (scale n.scaled.1 n.scaled.2).map fun x => if n.negative then -x else x

inductive Reading where
  | word (n : UInt64)
  | negative (n : Int)
  | double (x : Float)
  | tooLarge

def reading (n : Numeral) : Reading :=
  if n.fraction.isEmpty && n.exponent.isNone && !n.negative && n.whole < UInt64.size then
    .word (UInt64.ofNat n.whole)
  else if n.fraction.isEmpty && n.exponent.isNone && n.negative && 0 < n.whole &&
      n.whole ≤ UInt64.size / 2 then
    .negative (-n.whole)
  else
    match n.toFloat? with
    | some x => .double x
    | none => .tooLarge

theorem reading_ofNat (n : UInt64) : (Numeral.ofNat n.toNat).reading = .word n := by
  have bound : n.toNat < UInt64.size := n.toNat_lt
  simp [reading, Numeral.ofNat, bound]

end Numeral

def powerText (power : Int) : List Char :=
  'e' :: (if power < 0 then '-' else '+') :: Nat.toDigits 10 power.natAbs

/-- The text of a double: all its shortest digits, with a point in between if the leading digit
    stands for 10^-5 to 10^15, and a power of ten behind them otherwise. -/
def doubleText (x : Float) : String :=
  let d := (Binary64.ofBits x.toBits).shortest
  let sign := if UInt64.size / 2 ≤ x.toBits.toNat then ['-'] else []
  let digits := Nat.toDigits 10 d.digits
  let places := digits.length + d.exponent
  let body :=
    if 0 ≤ d.exponent && places ≤ 16 then
      digits ++ List.replicate d.exponent.toNat '0' ++ ['.', '0']
    else if 0 < places && places ≤ 16 then
      digits.take places.toNat ++ '.' :: digits.drop places.toNat
    else if -5 < places && places ≤ 0 then
      '0' :: '.' :: List.replicate (-places).toNat '0' ++ digits
    else
      digits.take 1 ++ (if digits.length = 1 then [] else '.' :: digits.drop 1) ++
        powerText (places - 1)
  String.ofList (sign ++ body)

def roundedText (n : UInt64) : String :=
  let d := (Binary64.ofBits n.toFloat.toBits).shortest
  String.ofList (Nat.toDigits 10 d.digits ++ List.replicate d.exponent.toNat '0')

end GossipIntake
