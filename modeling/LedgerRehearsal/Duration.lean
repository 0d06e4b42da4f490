/-!
Lengths of time. A length is shown in the largest unit of which it holds at least one (seconds,
milli-, micro- or nanoseconds), with all the decimals it needs and none more.
-/

namespace LedgerRehearsal

/-- A length of time in nanoseconds. -/
structure Duration where
  nanos : Nat
deriving DecidableEq, Repr

namespace Duration

def ofMillis (ms : Nat) : Duration := ⟨ms * 1000000⟩

def millis (d : Duration) : Nat := d.nanos / 1000000

def plus (d e : Duration) : Duration := ⟨d.nanos + e.nanos⟩

/-- The time that has passed since an earlier one. -/
def since (time earlier : Duration) : Duration := ⟨time.nanos - earlier.nanos⟩

/-- The digits of `rest` below a unit of `10 ^ places`, without the zeros at the end. -/
def decimals (places rest : Nat) : String :=
  let ds := (Nat.toDigits 10 rest).leftpad places '0'
  let ds := (ds.reverse.dropWhile (· = '0')).reverse
  if ds.isEmpty then "" else "." ++ String.ofList ds

def inUnit (nanos places : Nat) (unit : String) : String :=
  toString (nanos / Nat.pow 10 places) ++ decimals places (nanos % Nat.pow 10 places) ++ unit

def text (d : Duration) : String :=
  if 1000000000 ≤ d.nanos then inUnit d.nanos 9 "s"
  else if 1000000 ≤ d.nanos then inUnit d.nanos 6 "ms"
  else if 1000 ≤ d.nanos then inUnit d.nanos 3 "µs"
  else inUnit d.nanos 0 "ns"

end Duration

end LedgerRehearsal
