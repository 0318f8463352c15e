import Stimulator.Toml.Document

/-!
# Reading a document as values

Date-times travel through the value model as tables: a table whose first key is `datetimeKey`
stands for the date-time its string spells. Reading a document therefore ends with
`Value.decode`, which turns every such table into a date-time and refuses the document when the
entry under that key is not a string naming a date-time. Only the first key of a table counts,
and the rest of a table that stands for a date-time is never looked at.

A date-time string (`Datetime.isValid`) is

* a date `YYYY-MM-DD` naming a day of the Gregorian calendar, optionally followed by `T`, `t` or a
  space and a time, and after such a time optionally an offset: `Z`, `z`, or `+HH:MM` / `-HH:MM`
  (hours to 23, minutes to 59);
* or, when its third character is `:`, a time alone;

with nothing after it. A time is `HH:MM:SS` (hours to 23, minutes to 59, seconds to 60), with an
optional fraction of one or more digits.

* `load` : the values of a TOML text, or nothing when the text is not valid TOML or does not
  decode.
-/

namespace Stimulator.Toml

namespace Datetime

/-- One decimal digit and what follows it. -/
def digit? : List Char → Option (Nat × List Char)
  | c :: r => if c.isDigit then some (c.toNat - '0'.toNat, r) else none
  | [] => none

/-- Two decimal digits and what follows them. -/
def twoDigits? (s : List Char) : Option (Nat × List Char) := do
  let (a, r) ← digit? s
  let (b, r) ← digit? r
  some (10 * a + b, r)

/-- What follows the character `c`. -/
def expect (c : Char) : List Char → Option (List Char)
  | d :: r => if d = c then some r else none
  | [] => none

/-- A date `YYYY-MM-DD` naming a day of the calendar, and what follows it. -/
def date? (s : List Char) : Option (List Char) := do
  let (century, r) ← twoDigits? s
  let (yy, r) ← twoDigits? r
  let r ← expect '-' r
  let (month, r) ← twoDigits? r
  let r ← expect '-' r
  let (day, r) ← twoDigits? r
  let year := 100 * century + yy
  if 1 ≤ month ∧ month ≤ 12 ∧ 1 ≤ day ∧ day ≤ Number.daysInMonth year month then some r
  else none

/-- A time `HH:MM:SS` with an optional fraction, and what follows it. -/
def time? (s : List Char) : Option (List Char) := do
  let (hour, r) ← twoDigits? s
  let r ← expect ':' r
  let (minute, r) ← twoDigits? r
  let r ← expect ':' r
  let (second, r) ← twoDigits? r
  let r ← match r with
    | '.' :: t => if (t.takeWhile Char.isDigit).isEmpty then none else some (t.dropWhile Char.isDigit)
    | _ => some r
  if hour ≤ 23 ∧ minute ≤ 59 ∧ second ≤ 60 then some r else none

/-- An offset `Z`, `z` or `±HH:MM` (hours to 23, minutes to 59), and what follows it. -/
def offset? : List Char → Option (List Char)
  | 'Z' :: r => some r
  | 'z' :: r => some r
  | c :: r =>
    if c = '+' ∨ c = '-' then do
      let (hours, r) ← twoDigits? r
      let r ← expect ':' r
      let (minutes, r) ← twoDigits? r
      if hours ≤ 23 ∧ minutes ≤ 59 then some r else none
    else none
  | [] => none

/-- Whether a string spells a date-time: a date with an optional time and offset, or a time. -/
def isValid (text : String) : Bool :=
  let s := text.toList
  match s[2]? with
  | some ':' => time? s == some []
  | _ =>
    match date? s with
    | none => false
    | some [] => true
    | some (c :: t) =>
      if c = 'T' ∨ c = 't' ∨ c = ' ' then
        match time? t with
        | none => false
        | some [] => true
        | some u => offset? u == some []
      else false

end Datetime

/-- The key under which a table stands for a date-time. -/
def datetimeKey : String := "$__toml_private_datetime"

mutual

/-- A value with every table that stands for a date-time read as one; nothing when such a
table's entry is not a date-time string. -/
def Value.decode : Value → Option Value
  | .array items => (decodeItems items).map .array
  | .table entries =>
    match entries with
    | (k, v) :: _ =>
      if k = datetimeKey then
        match v with
        | .string s => if Datetime.isValid s then some (.datetime s) else none
        | _ => none
      else (decodeEntries entries).map .table
    | [] => some (.table [])
  | v => some v

/-- The items of an array, decoded. -/
def decodeItems : List Value → Option (List Value)
  | [] => some []
  | v :: vs => do some ((← v.decode) :: (← decodeItems vs))

/-- The entries of a table, decoded. -/
def decodeEntries : List (String × Value) → Option (List (String × Value))
  | [] => some []
  | (k, v) :: es => do some ((k, ← v.decode) :: (← decodeEntries es))

end

/-- The values of a TOML text, or nothing when it is not valid TOML or does not decode. -/
def load (text : String) : Option Value := (parse text).bind Value.decode

end Stimulator.Toml
