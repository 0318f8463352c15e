import Stimulator.Board.Queue
import Stimulator.Console.Serial

/-!
# The terminal UART and its line

The board's terminal UART moves bytes between the host and two rings: bytes the host sends go
onto the input line and arrive in the 64-byte receive ring; bytes the firmware writes wait in
the 1024-byte transmit ring and leave on the output line. The line runs at 115200 baud with ten
bits a byte: time spent with bytes to move earns credit, `dt × 115200` units for `dt` µs, and a
byte costs 10,000,000 units. Credit is only earned while a direction has something to move and
is dropped once it has nothing left, so a byte sent after a quiet spell needs a full byte time.

A byte that arrives at a full receive ring is lost and marks an overrun, which the next read
reports as a fault.

* `LineUart.advance dt` : the line after `dt` µs;
* `LineUart.device` : the rings as the firmware's polled UART sees them.
-/

namespace Stimulator.Board

/-- The input line, the two rings and the output line of the terminal UART. -/
structure LineUart where
  /-- Bytes on the input line, not yet arrived. -/
  line : Queue UInt8 := {}
  rx : Queue UInt8 := {}
  /-- A byte was lost since the last read. -/
  overrun : Bool := false
  tx : Queue UInt8 := {}
  rxCredit : Nat := 0
  txCredit : Nat := 0
  /-- Bytes that have left on the output line. -/
  sent : Array UInt8 := #[]
  deriving Inhabited

namespace LineUart

/-- Line speed in bits per second. -/
def baud : Nat := 115200
/-- Credit one byte costs: ten bits, in bit-microseconds scaled by `10^6`. -/
def byteCost : Nat := 10000000
/-- Bytes the receive ring holds. -/
def rxCapacity : Nat := 64
/-- Bytes the transmit ring holds. -/
def txCapacity : Nat := 1024

/-- Let up to `k` bytes arrive from the input line, each paid for. -/
def receiveBytes : Nat → LineUart → LineUart
  | 0, u => u
  | k + 1, u =>
    match u.line.pop? with
    | none => u
    | some (b, line) =>
      let u := { u with line := line, rxCredit := u.rxCredit - byteCost }
      let u := if u.rx.size < rxCapacity then { u with rx := u.rx.push b }
        else { u with overrun := true }
      receiveBytes k u

/-- Let up to `k` bytes leave from the transmit ring, each paid for. -/
def sendBytes : Nat → LineUart → LineUart
  | 0, u => u
  | k + 1, u =>
    match u.tx.pop? with
    | none => u
    | some (b, tx) => sendBytes k { u with tx := tx, txCredit := u.txCredit - byteCost,
                                           sent := u.sent.push b }

/-- The input direction after `dt` µs. -/
def receive (dt : Nat) (u : LineUart) : LineUart :=
  if u.line.isEmpty then { u with rxCredit := 0 }
  else
    let credit := u.rxCredit + dt * baud
    let u := receiveBytes (credit / byteCost) { u with rxCredit := credit }
    if u.line.isEmpty then { u with rxCredit := 0 } else u

/-- The output direction after `dt` µs. -/
def transmit (dt : Nat) (u : LineUart) : LineUart :=
  if u.tx.isEmpty then { u with txCredit := 0 }
  else
    let credit := u.txCredit + dt * baud
    let u := sendBytes (credit / byteCost) { u with txCredit := credit }
    if u.tx.isEmpty then { u with txCredit := 0 } else u

/-- The line after `dt` µs. -/
def advance (dt : Nat) (u : LineUart) : LineUart := transmit dt (receive dt u)

/-- The host puts bytes on the input line. -/
def hostSends (bytes : List UInt8) (u : LineUart) : LineUart := { u with line := u.line.pushAll bytes }

/-- Whether bytes are still on their way in. -/
def inputPending (u : LineUart) : Bool := !(u.line.isEmpty && u.rx.isEmpty)

/-- The rings as a device: a byte is ready while the receive ring holds one, a read after an
overrun reports it, and writes queue what fits in the transmit ring. -/
def device : Device LineUart where
  readReady u := (some (!u.rx.isEmpty), u)
  read u :=
    if u.overrun then (none, { u with overrun := false })
    else
      match u.rx.pop? with
      | some (b, rx) => (some (some b), { u with rx := rx })
      | none => (some none, u)
  writeReady u := (some (decide (u.tx.size < txCapacity)), u)
  write data u :=
    let k := min data.length (txCapacity - u.tx.size)
    (some k, { u with tx := u.tx.pushAll (data.take k) })

end LineUart

end Stimulator.Board
