import Stimulator.Text.Blank

/-!
# Hexadecimal text of bytes

Bytes are written as two lowercase hexadecimal digits each (`Hex.encode`), as in the bus traces
of the pulse stage. `Hex.decode?` reads such text back, in either letter case, skipping
blank characters (`Blank.isBlank`); it refuses an odd number of digits or any other character.
-/

namespace Stimulator.Hex

/-- The lowercase digit of a value below 16. -/
def digit (v : Nat) : Char :=
  if v < 10 then Char.ofNat ('0'.toNat + v) else Char.ofNat ('a'.toNat + v - 10)

/-- The two digits of a byte. -/
def byteDigits (b : UInt8) : List Char := [digit (b.toNat / 16), digit (b.toNat % 16)]

/-- The text of a byte string, two lowercase digits per byte. -/
def encode (bytes : List UInt8) : String := String.ofList (bytes.flatMap byteDigits)

/-- The value of one hexadecimal digit, letters in either case. -/
def digitValue? (c : Char) : Option Nat :=
  if '0' ≤ c ∧ c ≤ '9' then some (c.toNat - '0'.toNat)
  else if 'a' ≤ c ∧ c ≤ 'f' then some (c.toNat - 'a'.toNat + 10)
  else if 'A' ≤ c ∧ c ≤ 'F' then some (c.toNat - 'A'.toNat + 10)
  else none

/-- Bytes from digit pairs. -/
def pairs : List Char → Option (List UInt8)
  | [] => some []
  | hi :: lo :: rest =>
    match digitValue? hi, digitValue? lo, pairs rest with
    | some h, some l, some bs => some (UInt8.ofNat (16 * h + l) :: bs)
    | _, _, _ => none
  | [_] => none

/-- The bytes a hexadecimal text stands for; blank characters are skipped. -/
def decode? (text : String) : Option (List UInt8) :=
  pairs (text.toList.filter fun c => !Blank.isBlank c)

end Stimulator.Hex
