/-!
The shortest decimal of a binary value: the fewest digits that read back to it, and of those the
nearest. The value is taken apart into `significand * 2 ^ exponent`; the decimals that read back to
it fill the interval from halfway to the neighbour below to halfway to the neighbour above, with
its ends when the significand is even. All comparisons are exact, over the naturals.
-/

namespace LedgerRehearsal.Decimal

/-- A finite value without its sign. -/
structure Dyadic where
  significand : Nat
  exponent : Int
  /-- The gap to the next smaller value is half the gap to the next greater one. -/
  narrowBelow : Bool
deriving DecidableEq, Repr

/-- Reads the bits of a finite value and ignores its sign. -/
def Dyadic.ofBits (bits : UInt64) : Dyadic :=
  let exponent := ((bits >>> 52) &&& 0x7FF).toNat
  let fraction := (bits &&& 0xFFFFFFFFFFFFF).toNat
  if exponent = 0 then ⟨fraction, -1074, false⟩
  else ⟨Nat.pow 2 52 + fraction, (exponent : Int) - 1075, fraction = 0 && 1 < exponent⟩

/-- The value `digits * 10 ^ exponent`. -/
structure Scaled where
  digits : Nat
  exponent : Int
deriving DecidableEq, Repr

/-- Compares `a * 10 ^ i` with `b * 2 ^ j`. -/
def compareScaled (a : Nat) (i : Int) (b : Nat) (j : Int) : Ordering :=
  compare (a * Nat.pow 10 i.toNat * Nat.pow 2 (-j).toNat) (b * Nat.pow 2 j.toNat * Nat.pow 10 (-i).toNat)

/-- The decimal lies among those that read back to the value. -/
def Dyadic.readsBack (x : Dyadic) (d : Scaled) : Bool :=
  let low := if x.narrowBelow then 4 * x.significand - 1 else 4 * x.significand - 2
  let high := 4 * x.significand + 2
  let closed := x.significand % 2 = 0
  let fromLow := compareScaled d.digits d.exponent low (x.exponent - 2)
  let fromHigh := compareScaled d.digits d.exponent high (x.exponent - 2)
  (fromLow = .gt || (closed && fromLow = .eq)) && (fromHigh = .lt || (closed && fromHigh = .eq))

/-- The least `k` with the value below `10 ^ k`; the logarithm gives it up to two steps. -/
def Dyadic.magnitude (x : Dyadic) : Int :=
  let start := ((x.significand.log2 : Int) + x.exponent) * 30103 / 100000
  let below := fun k : Int => compareScaled 1 k x.significand x.exponent = .gt
  if below (start - 1) then start - 1
  else if below start then start
  else if below (start + 1) then start + 1
  else start + 2

/-- The nearer of the two neighbours of the value on the grid of the multiples of `10 ^ unit`, if
one of them reads back. At equal distance the even one is taken. -/
def Dyadic.onGrid (x : Dyadic) (unit : Int) : Option Scaled :=
  let above := x.significand * Nat.pow 2 x.exponent.toNat * Nat.pow 10 (-unit).toNat
  let below := Nat.pow 2 (-x.exponent).toNat * Nat.pow 10 unit.toNat
  let floor := above / below
  let lower : Scaled := ⟨floor, unit⟩
  let upper : Scaled := ⟨floor + 1, unit⟩
  match x.readsBack lower, x.readsBack upper with
  | true, false => some lower
  | false, true => some upper
  | false, false => none
  | true, true =>
    match compare (2 * above) ((2 * floor + 1) * below) with
    | .lt => some lower
    | .gt => some upper
    | .eq => some (if floor % 2 = 0 then lower else upper)

/-- Moves the zeros at the end of the digits into the exponent. -/
def Scaled.trimZeros (d : Scaled) : Scaled :=
  if h : d.digits ≠ 0 ∧ d.digits % 10 = 0 then
    Scaled.trimZeros ⟨d.digits / 10, d.exponent + 1⟩
  else d
termination_by d.digits
decreasing_by omega

/-- The decimal written for a value that is not zero: the coarsest grid with a neighbour that reads
back decides. Seventeen digits always suffice, so the exact value is never needed. -/
def Dyadic.shortest (x : Dyadic) : Scaled :=
  let magnitude := x.magnitude
  match (List.range 17).findSome? fun n : Nat => x.onGrid (magnitude - 1 - (n : Int)) with
  | some d => d.trimZeros
  | none =>
    ⟨x.significand * Nat.pow 2 x.exponent.toNat * Nat.pow 5 (-x.exponent).toNat, min x.exponent 0⟩

end LedgerRehearsal.Decimal
