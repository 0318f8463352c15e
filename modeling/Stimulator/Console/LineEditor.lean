/-!
# The line editor

Collects typed bytes into one command line of at most 64 characters. The editor only decides
what happens to each byte (`LineEvent`); the terminal performs the echo.

* carriage return completes the line (the line is kept until the terminal clears it);
* backspace and delete remove the last character, or ring the bell on an empty line;
* a printable ASCII byte, space or tab is stored upper-cased and echoed as typed, or rings the
  bell on a full line;
* any other byte is ignored.
-/

namespace Stimulator

/-- The outcome of feeding one byte. -/
inductive LineEvent where
  /-- The byte was stored; echo it as typed. -/
  | echo (b : UInt8)
  /-- The last character was removed; echo backspace, space, backspace. -/
  | erase
  /-- Nothing to erase, or the line is full. -/
  | bell
  /-- The line was ended. -/
  | complete
  /-- The byte was dropped without feedback. -/
  | ignored
  deriving DecidableEq, Repr, Inhabited

/-- The command line being typed. -/
structure LineEditor where
  /-- Stored characters, upper-cased, oldest first. -/
  buffer : List UInt8 := []
  deriving DecidableEq, Repr, Inhabited

namespace LineEditor

/-- Longest accepted line. -/
def maxLength : Nat := 64

/-- Carriage return. -/
def cr : UInt8 := 13
/-- Backspace. -/
def bs : UInt8 := 8
/-- Delete. -/
def del : UInt8 := 127
/-- Bell. -/
def bellByte : UInt8 := 7

/-- Printable ASCII other than space. -/
def isGraphic (b : UInt8) : Bool := 0x21 ≤ b && b ≤ 0x7E

/-- Bytes the editor stores: printable ASCII, space and tab. -/
def isStorable (b : UInt8) : Bool := isGraphic b || b = 0x20 || b = 0x09

/-- ASCII lower-case letters to upper case; every other byte unchanged. -/
def upper (b : UInt8) : UInt8 := if 0x61 ≤ b && b ≤ 0x7A then b - 0x20 else b

/-- Feed one received byte. -/
def feed (e : LineEditor) (b : UInt8) : LineEditor × LineEvent :=
  if b = cr then (e, .complete)
  else if b = bs || b = del then
    if e.buffer.isEmpty then (e, .bell) else (⟨e.buffer.dropLast⟩, .erase)
  else if isStorable b then
    if e.buffer.length < maxLength then (⟨e.buffer ++ [upper b]⟩, .echo b) else (e, .bell)
  else (e, .ignored)

/-- The line as text. -/
def line (e : LineEditor) : String := String.ofList (e.buffer.map fun b => Char.ofNat b.toNat)

/-- Number of stored characters. -/
def length (e : LineEditor) : Nat := e.buffer.length

/-- Discard the line. -/
def clear (_ : LineEditor) : LineEditor := ⟨[]⟩

theorem length_feed_le (e : LineEditor) (b : UInt8) (h : e.length ≤ maxLength) :
    (e.feed b).1.length ≤ maxLength := by
  unfold feed length at *
  split
  · exact h
  · split
    · split
      · exact h
      · simp only [List.length_dropLast]; omega
    · split
      · split
        · next hl => simp only [List.length_append, List.length_singleton]; omega
        · exact h
      · exact h

end LineEditor

end Stimulator
