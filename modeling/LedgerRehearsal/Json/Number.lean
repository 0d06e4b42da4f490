import LedgerRehearsal.Decimal.Shortest
import LedgerRehearsal.Json.Value

/-!
The text of a number, written and read.

A binary number is written with the fewest digits that read back: positionally, with at least one
digit after the point, from `1e-5` up to below `1e16`, and otherwise with a signed exponent.
A numeral without a point or an exponent is an integer when it fits; any other takes the leading
digits that fit 64 bits, rounds them to a binary number and scales it by a power of ten in one
multiplication or division.
-/

namespace LedgerRehearsal.Json

/-- The decimal digits of a number, without leading zeros. -/
def digits (n : Nat) : List Char :=
  if n < 10 then [Char.ofNat (48 + n)] else digits (n / 10) ++ [Char.ofNat (48 + n % 10)]
termination_by n

/-- The number that a list of decimal digits denotes. -/
def valueOf (ds : List Char) : Nat := ds.foldl (fun n d => n * 10 + (d.toNat - 48)) 0

def integerText (n : Int) : List Char :=
  match n with
  | .ofNat n => digits n
  | .negSucc n => '-' :: digits (n + 1)

namespace Number

/-- Lays out the digits `ds` of a decimal whose last digit stands for `10 ^ exponent`. -/
def layout (ds : List Char) (exponent : Int) : List Char :=
  let leading := exponent + (ds.length : Int) - 1
  if 0 ≤ exponent ∧ leading < 16 then
    ds ++ List.replicate exponent.toNat '0' ++ ['.', '0']
  else if exponent < 0 ∧ 0 ≤ leading ∧ leading < 16 then
    ds.take (leading.toNat + 1) ++ '.' :: ds.drop (leading.toNat + 1)
  else if -5 ≤ leading ∧ leading < 0 then
    '0' :: '.' :: List.replicate (-leading - 1).toNat '0' ++ ds
  else
    let mantissa := match ds with
      | first :: second :: rest => first :: '.' :: second :: rest
      | short => short
    let sign := if leading < 0 then '-' else '+'
    mantissa ++ 'e' :: sign :: digits leading.natAbs

/-- The text of a finite binary number. -/
def binaryText (x : Float) : List Char :=
  let dyadic := Decimal.Dyadic.ofBits x.toBits
  let sign := if x.toBits >>> 63 = 0 then [] else ['-']
  if dyadic.significand = 0 then sign ++ ['0', '.', '0']
  else
    let decimal := dyadic.shortest
    sign ++ layout (digits decimal.digits) decimal.exponent

def text : Number → List Char
  | .integer n => integerText n
  | .binary x => binaryText x

/-- Scales by a power of ten. Beyond the greatest finite number there is no result; below the least
one the result is zero. -/
def scale (x : Float) (exponent : Int) : Option Float :=
  if exponent < -308 then
    if x == 0 then some x else scale (x / Float.ofScientific 1 false 308) (exponent + 308)
  else if 308 < exponent then
    if x == 0 then some x else none
  else if exponent < 0 then some (x / Float.ofScientific 1 false exponent.natAbs)
  else
    let scaled := x * Float.ofScientific 1 false exponent.toNat
    if scaled.isInf then none else some scaled
termination_by (-exponent).toNat

/-- Extends a significand by digits as long as it fits 64 bits; the digits that are left over. -/
def extend (significand : Nat) : List Char → Nat × List Char
  | [] => (significand, [])
  | d :: ds =>
    let longer := significand * 10 + (d.toNat - 48)
    if longer < Nat.pow 2 64 then extend longer ds else (significand, d :: ds)

/-- The parts of a numeral: the digits before the point, those after it and the exponent. -/
structure Parts where
  negative : Bool
  whole : List Char
  fraction : Option (List Char)
  exponent : Option Int

/-- The number that a numeral denotes, if it does not exceed every finite number. -/
def ofParts (parts : Parts) : Option Number :=
  let (significand, left) := extend 0 parts.whole
  let integral := parts.fraction.isNone && parts.exponent.isNone && left.isEmpty
  if integral && !parts.negative then some (.integer significand)
  else if integral && 0 < significand && significand ≤ Nat.pow 2 63 then some (.integer (-significand))
  else
    let fraction := parts.fraction.getD []
    let (significand, dropped) := extend significand fraction
    let shift := (left.length : Int) - ((fraction.length - dropped.length : Nat) : Int)
    let magnitude := significand.toUInt64.toFloat
    (scale magnitude (shift + parts.exponent.getD 0)).map fun x =>
      .binary (if parts.negative then -x else x)

end Number

end LedgerRehearsal.Json
