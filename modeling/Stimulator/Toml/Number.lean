import Stimulator.Toml.Lexical

/-!
# TOML numbers, booleans and date-times

* integers: decimal with an optional sign and no leading zero, or `0x`, `0o`, `0b` with their
  digits; `_` may stand only between two digits. The value must fit a signed 64-bit integer;
* floats: a decimal integer part followed by a fraction, an exponent or both, or `inf` and
  `nan` with an optional sign. A float whose value rounds past the largest double is refused
  when positive (`roundsToInfinity`); a negative one is kept;
* date-times: `YYYY-MM-DD` with the day checked against the month and leap years, optionally
  followed by `T`, `t` or a space and a time `HH:MM:SS[.fraction]` with an optional `Z` or
  `±HH:MM` offset; or a time of day alone.

`scalar?` tries a date-time, then a float, then an integer, as a value starting with a sign or
a digit may be any of them.
-/

namespace Stimulator.Toml.Number

open Lexical

/-- Digits (of the class `isDigit`) after a first one, each `_` between two digits;
`acc` holds the digits read, reversed. A `_` not followed by a digit is an error. -/
def digitRun (isDigit : Char → Bool) : List Char → Input → Option (List Char × Input)
  | acc, c :: r =>
    if isDigit c then digitRun isDigit (c :: acc) r
    else if c == '_' then
      match r with
      | d :: r' => if isDigit d then digitRun isDigit (d :: acc) r' else none
      | [] => none
    else some (acc.reverse, c :: r)
  | acc, [] => some (acc.reverse, [])

/-- Decimal digits. -/
def isDec (c : Char) : Bool := c.isDigit

/-- One or more digits, `_` allowed between them. -/
def digits? (isDigit : Char → Bool) : Input → Option (List Char × Input)
  | c :: r => if isDigit c then digitRun isDigit [c] r else none
  | [] => none

/-- The digits of an unsigned decimal integer: `0`, or digits not starting with `0`. -/
def unsignedDec? : Input → Option (List Char × Input)
  | '0' :: r => some (['0'], r)
  | s => digits? isDec s

/-- A sign, if one is here: `true` for minus. -/
def sign (s : Input) : Option Bool × Input :=
  match s with
  | '+' :: r => (some false, r)
  | '-' :: r => (some true, r)
  | _ => (none, s)

/-- The number spelled by digits in a radix. -/
def digitsValue (radix : Nat) (ds : List Char) : Nat :=
  ds.foldl (fun acc c => acc * radix + ((hexDigit? c).getD 0)) 0

/-- The largest signed 64-bit integer. -/
def maxInt64 : Nat := 9223372036854775807

/-- Whether an integer fits 64 signed bits. -/
def fitsInt64 (n : Int) : Bool := -(maxInt64 : Int) - 1 ≤ n && n ≤ (maxInt64 : Int)

/-- Octal digits. -/
def isOct (c : Char) : Bool := inRange c 0x30 0x37
/-- Binary digits. -/
def isBin (c : Char) : Bool := c == '0' || c == '1'
/-- Hexadecimal digits. -/
def isHex (c : Char) : Bool := (hexDigit? c).isSome

/-- An integer in a radix, after its prefix. -/
def radixInteger? (radix : Nat) (isDigit : Char → Bool) (s : Input) : Option (Value × Input) := do
  let (ds, r) ← digits? isDigit s
  let n := digitsValue radix ds
  if n ≤ maxInt64 then some (.integer n, r) else none

/-- An integer. -/
def integer? (s : Input) : Option (Value × Input) :=
  match s with
  | '0' :: 'x' :: r => radixInteger? 16 isHex r
  | '0' :: 'o' :: r => radixInteger? 8 isOct r
  | '0' :: 'b' :: r => radixInteger? 2 isBin r
  | _ => do
    let (neg, r) := sign s
    let (ds, r) ← unsignedDec? r
    let n : Int := digitsValue 10 ds
    let v := if neg = some true then -n else n
    if fitsInt64 v then some (.integer v, r) else none

/-- The exponent of a float after its `e`: its sign and digits. -/
def exponent? (s : Input) : Option ((Bool × List Char) × Input) := do
  let (neg, r) := sign s
  let (ds, r) ← digits? isDec r
  some ((neg = some true, ds), r)

/-- Whether the positive decimal `mantissa × 10^scale` rounds past the largest double, to
infinity: that is, whether it is at least `2^1024 - 2^970`, halfway between the largest double
and `2^1024`. Numbers with far fewer or far more digits are settled by their length. -/
def roundsToInfinity (mantissa : Nat) (scale : Int) : Bool :=
  let bound := Nat.pow 2 1024 - Nat.pow 2 970
  let width : Int := (toString mantissa).length
  if mantissa = 0 then false
  else if width + scale ≤ 308 then false
  else if 310 ≤ width + scale then true
  else if 0 ≤ scale then bound ≤ mantissa * Nat.pow 10 scale.toNat
  else bound * Nat.pow 10 (-scale).toNat ≤ mantissa

/-- The text read between `s` and what is left of it, `r`. -/
def consumed (s r : Input) : String := String.ofList (s.take (s.length - r.length))

/-- `inf` or `nan`, with an optional sign. -/
def specialFloat? (s : Input) : Option (Value × Input) :=
  match (sign s).2 with
  | 'i' :: 'n' :: 'f' :: r => some (.float (consumed s r), r)
  | 'n' :: 'a' :: 'n' :: r => some (.float (consumed s r), r)
  | _ => none

/-- A float with a fraction or an exponent. -/
def decimalFloat? (s : Input) : Option (Value × Input) := do
  let (neg, r) := sign s
  let (whole, r) ← unsignedDec? r
  let (frac, r) ← match r with
    | '.' :: t => digits? isDec t
    | _ => some ([], r)
  let ((expNeg, expDigits), r) ← match r with
    | 'e' :: t => exponent? t
    | 'E' :: t => exponent? t
    | _ => if frac.isEmpty then none else some ((false, []), r)
  let e : Int := digitsValue 10 expDigits
  let scale := (if expNeg then -e else e) - frac.length
  if neg != some true && roundsToInfinity (digitsValue 10 (whole ++ frac)) scale then none
  else some (.float (consumed s r), r)

/-- A float. -/
def float? (s : Input) : Option (Value × Input) := specialFloat? s <|> decimalFloat? s

/-- Two decimal digits in `lo … hi`. -/
def twoDigits? (lo hi : Nat) : Input → Option (Nat × Input)
  | a :: b :: r =>
    if a.isDigit && b.isDigit then
      let n := digitsValue 10 [a, b]
      if lo ≤ n && n ≤ hi then some (n, r) else none
    else none
  | _ => none

/-- Whether a year is a leap year. -/
def isLeapYear (y : Nat) : Bool := y % 4 == 0 && (y % 100 != 0 || y % 400 == 0)

/-- Days in a month of a year. -/
def daysInMonth (y m : Nat) : Nat :=
  if m == 2 then (if isLeapYear y then 29 else 28)
  else if m == 4 || m == 6 || m == 9 || m == 11 then 30
  else 31

/-- A date `YYYY-MM-DD`. -/
def fullDate? : Input → Option Input
  | a :: b :: c :: d :: '-' :: r => do
    if !(a.isDigit && b.isDigit && c.isDigit && d.isDigit) then none
    let (m, r) ← twoDigits? 1 12 r
    let r ← match r with
      | '-' :: t => some t
      | _ => none
    let (day, r) ← twoDigits? 1 31 r
    if day ≤ daysInMonth (digitsValue 10 [a, b, c, d]) m then some r else none
  | _ => none

/-- A time `HH:MM:SS` with an optional fraction of a second. -/
def partialTime? (s : Input) : Option Input := do
  let (_, r) ← twoDigits? 0 23 s
  let r ← match r with
    | ':' :: t => some t
    | _ => none
  let (_, r) ← twoDigits? 0 59 r
  let r ← match r with
    | ':' :: t => some t
    | _ => none
  let (_, r) ← twoDigits? 0 60 r
  match r with
  | '.' :: t =>
    match digits? isDec t with
    | some _ => some (t.dropWhile Char.isDigit)
    | none => some r
  | _ => some r

/-- A time offset: `Z`, `z` or `±HH:MM`. -/
def offset? : Input → Option Input
  | 'Z' :: r => some r
  | 'z' :: r => some r
  | c :: r =>
    if c == '+' || c == '-' then do
      let (_, r) ← twoDigits? 0 23 r
      let r ← match r with
        | ':' :: t => some t
        | _ => none
      let (_, r) ← twoDigits? 0 59 r
      some r
    else none
  | [] => none

/-- A date with an optional time and offset, or a time of day. -/
def dateTime? (s : Input) : Option (Value × Input) :=
  match fullDate? s with
  | some r =>
    let timed := match r with
      | c :: t =>
        if c == 'T' || c == 't' || c == ' ' then
          (partialTime? t).map fun u => (offset? u).getD u
        else none
      | [] => none
    let r := timed.getD r
    some (.datetime (consumed s r), r)
  | none => (partialTime? s).map fun r => (.datetime (consumed s r), r)

/-- A value that is neither a string, an array nor an inline table. -/
def scalar? (s : Input) : Option (Value × Input) :=
  match s with
  | 't' :: 'r' :: 'u' :: 'e' :: r => some (.boolean true, r)
  | 'f' :: 'a' :: 'l' :: 's' :: 'e' :: r => some (.boolean false, r)
  | 'i' :: _ => specialFloat? s
  | 'n' :: _ => specialFloat? s
  | c :: _ =>
    if c == '+' || c == '-' || c.isDigit then dateTime? s <|> float? s <|> integer? s else none
  | [] => none

end Stimulator.Toml.Number
