import LedgerRehearsal.Json.Reader
import LedgerRehearsal.Toml.Value

/-!
Numbers, dates and times in a TOML document. Single underscores may stand between digits. An
integer has 64 bits and a sign, or a base (`0x`, `0o`, `0b`) and no sign; a floating point number
has a fraction or an exponent and must not be too large. Dates and times follow the calendar.
-/

namespace LedgerRehearsal.Toml

open Json (Reader hexValue valueOf)

/-- The digits of a run behind its first one. An underscore has to be followed by a digit. -/
def readMoreDigits (isDigit : Char → Bool) : Reader (List Char)
  | [] => some ([], [])
  | c :: rest =>
    if isDigit c then (readMoreDigits isDigit rest).map fun (ds, rest) => (c :: ds, rest)
    else if c = '_' then if rest.head?.any isDigit then readMoreDigits isDigit rest else none
    else some ([], c :: rest)

/-- Digits with single underscores between them. -/
def readDigitRun (isDigit : Char → Bool) : Reader (List Char)
  | [] => none
  | c :: rest => if isDigit c then readMoreDigits isDigit (c :: rest) else none

/-- The whole part of a decimal number: a zero, or digits that do not start with one. -/
def readWhole : Reader (List Char)
  | '0' :: rest => some (['0'], rest)
  | cs => readDigitRun Char.isDigit cs

def readSign : List Char → Bool × List Char
  | '-' :: cs => (true, cs)
  | '+' :: cs => (false, cs)
  | cs => (false, cs)

def readFraction : Reader (Option (List Char))
  | '.' :: cs => (readDigitRun Char.isDigit cs).map fun (ds, rest) => (some ds, rest)
  | cs => some (none, cs)

def readExponent : Reader (Option Int)
  | 'e' :: cs | 'E' :: cs => do
    let (negative, cs) := readSign cs
    let (ds, rest) ← readDigitRun Char.isDigit cs
    let power : Int := valueOf ds
    some (some (if negative then -power else power), rest)
  | cs => some (none, cs)

/-- The number `significand * 10 ^ exponent` rounds to no finite binary number of 64 bits. -/
def isHuge (significand : Nat) (exponent : Int) : Bool :=
  let magnitude := (Nat.toDigits 10 significand).length + exponent
  let bound := Nat.pow 2 1024 - Nat.pow 2 970
  if significand = 0 ∨ magnitude < 300 then false
  else if 320 < magnitude then true
  else if 0 ≤ exponent then bound ≤ significand * Nat.pow 10 exponent.toNat
  else bound * Nat.pow 10 (-exponent).toNat ≤ significand

def integerInRange (value : Int) : Option Value :=
  if -(Nat.pow 2 63 : Int) ≤ value ∧ value < Nat.pow 2 63 then some (.integer value) else none

/-- An integer in a base other than ten, behind its mark. -/
def readInBase (base : Nat) : Reader Value := fun cs => do
  let isDigit (c : Char) : Bool := (hexValue c).any (· < base)
  let (ds, rest) ← readDigitRun isDigit cs
  let value := ds.foldl (fun n d => n * base + (hexValue d).getD 0) 0
  (integerInRange value).map fun value => (value, rest)

/-- What was read from the front of a text. -/
def consumed (cs rest : List Char) : String := String.ofList (cs.take (cs.length - rest.length))

/-- A decimal integer or a floating point number. A negative number may be of any size. -/
def readDecimal : Reader Value := fun cs => do
  let (negative, digits) := readSign cs
  match digits with
  | 'i' :: 'n' :: 'f' :: rest | 'n' :: 'a' :: 'n' :: rest => some (.float (consumed cs rest), rest)
  | digits => do
    let (whole, rest) ← readWhole digits
    let (fraction, rest) ← readFraction rest
    let (power, rest) ← readExponent rest
    match fraction, power with
    | none, none =>
      let value : Int := valueOf whole
      (integerInRange (if negative then -value else value)).map fun value => (value, rest)
    | fraction, power =>
      let decimals := fraction.getD []
      if !negative && isHuge (valueOf (whole ++ decimals)) (power.getD 0 - decimals.length) then none
      else some (.float (consumed cs rest), rest)

/-- A number of exactly `count` digits. -/
def readFixed (count low high : Nat) : Reader Nat := fun cs =>
  let ds := cs.take count
  let value := valueOf ds
  if ds.length = count ∧ ds.all Char.isDigit ∧ low ≤ value ∧ value ≤ high then
    some (value, cs.drop count)
  else none

def daysOfMonth (year month : Nat) : Nat :=
  if month = 2 then
    if year % 4 = 0 ∧ (year % 100 ≠ 0 ∨ year % 400 = 0) then 29 else 28
  else if month = 4 ∨ month = 6 ∨ month = 9 ∨ month = 11 then 30
  else 31

def skipChar (c : Char) : List Char → Option (List Char)
  | d :: rest => if d = c then some rest else none
  | [] => none

/-- The rest behind a date. -/
def skipDate (cs : List Char) : Option (List Char) := do
  let (year, cs) ← readFixed 4 0 9999 cs
  let (month, cs) ← readFixed 2 1 12 (← skipChar '-' cs)
  let (_, cs) ← readFixed 2 1 (daysOfMonth year month) (← skipChar '-' cs)
  some cs

/-- The rest behind a time of day. -/
def skipTime (cs : List Char) : Option (List Char) := do
  let (_, cs) ← readFixed 2 0 23 cs
  let (_, cs) ← readFixed 2 0 59 (← skipChar ':' cs)
  let (_, cs) ← readFixed 2 0 60 (← skipChar ':' cs)
  match cs with
  | '.' :: rest =>
    let (ds, rest) := Json.spanDigits rest
    if ds.isEmpty then none else some rest
  | cs => some cs

/-- The rest behind an offset from universal time, which may be left out. -/
def skipOffset (cs : List Char) : Option (List Char) :=
  match cs with
  | 'Z' :: rest | 'z' :: rest => some rest
  | '+' :: rest | '-' :: rest => do
    let (_, rest) ← readFixed 2 0 23 rest
    let (_, rest) ← readFixed 2 0 59 (← skipChar ':' rest)
    some rest
  | cs => some cs

/-- The text starts as a time does: an hour and a colon. -/
def startsTime (cs : List Char) : Bool := cs.length ≥ 3 && (cs.take 2).all Char.isDigit && cs[2]? = some ':'

/-- The text starts as a date does: a year and a dash. -/
def startsDate (cs : List Char) : Bool := cs.length ≥ 5 && (cs.take 4).all Char.isDigit && cs[4]? = some '-'

/-- A date, with a time behind it or without. -/
def readDate : Reader Value := fun cs => do
  let rest ← skipDate cs
  let rest ← match rest with
    | 'T' :: time | 't' :: time | ' ' :: time =>
      if startsTime time then skipTime time >>= skipOffset else some rest
    | rest => some rest
  some (.moment (consumed cs rest), rest)

def readTime : Reader Value := fun cs => do
  let rest ← skipTime cs
  some (.moment (consumed cs rest), rest)

/-- A date, a time or a number. -/
def readNumber : Reader Value
  | '0' :: 'x' :: cs => readInBase 16 cs
  | '0' :: 'o' :: cs => readInBase 8 cs
  | '0' :: 'b' :: cs => readInBase 2 cs
  | cs => if startsDate cs then readDate cs else if startsTime cs then readTime cs else readDecimal cs

end LedgerRehearsal.Toml
