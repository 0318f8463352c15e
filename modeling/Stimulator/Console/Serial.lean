/-!
# Serial links

The terminal talks to a UART that never waits for the line:

* `SerialLink` : queue bytes for sending (how many were taken, or a fault), take one received
  byte, and the count of receive overruns;
* `Received` : a byte, nothing waiting, or a receive fault;
* `Device` : the byte device under a polled UART — readiness and transfers, each of which may
  fault;
* `PolledUart` : a polled UART over a device. `PolledUart.tryWrite` queues bytes while the
  device is ready and takes them, stopping when it takes none; `PolledUart.tryRead` reads a byte
  only when one is ready, and counts every fault it meets while reading as an overrun.
-/

namespace Stimulator

/-- The outcome of trying to read one byte. -/
inductive Received where
  | byte (b : UInt8)
  | nothing
  | fault
  deriving DecidableEq, Repr, Inhabited

/-- A UART as the terminal sees it, acting on a world `σ`. -/
structure SerialLink (σ : Type) where
  /-- Queue bytes for sending: how many were taken, or `none` on a fault. -/
  tryWrite : List UInt8 → σ → Option Nat × σ
  /-- Take one received byte if one is waiting. -/
  tryRead : σ → Received × σ
  /-- Receive overruns seen since start-up. -/
  overruns : σ → UInt32

/-- A byte device: readiness and transfers, each of which may fault (`none`). -/
structure Device (δ : Type) where
  /-- Whether a received byte is waiting. -/
  readReady : δ → Option Bool × δ
  /-- Read one byte: `some none` when the device returned no byte. -/
  read : δ → Option (Option UInt8) × δ
  /-- Whether the transmitter has room. -/
  writeReady : δ → Option Bool × δ
  /-- Queue bytes: how many were taken. -/
  write : List UInt8 → δ → Option Nat × δ

/-- A polled UART: the device and the overruns counted so far. -/
structure PolledUart (δ : Type) where
  device : δ
  overruns : UInt32 := 0

namespace PolledUart

variable {δ : Type}

/-- One more overrun, held at the largest 32-bit value. -/
def countOverrun (u : PolledUart δ) : PolledUart δ :=
  { u with overruns := if u.overruns = 4294967295 then u.overruns else u.overruns + 1 }

/-- Queue what the device takes of `data` from `queued` on, while it is ready and takes
something. -/
def writeFrom (dev : Device δ) (data : List UInt8) (queued : Nat) (d : δ) : Option Nat × δ :=
  if queued < data.length then
    match dev.writeReady d with
    | (none, d) => (none, d)
    | (some false, d) => (some queued, d)
    | (some true, d) =>
      match dev.write (data.drop queued) d with
      | (none, d) => (none, d)
      | (some 0, d) => (some queued, d)
      | (some (n + 1), d) => writeFrom dev data (queued + (n + 1)) d
  else (some queued, d)
termination_by data.length - queued

/-- Queue as much of `data` as the device takes without waiting. -/
def tryWrite (dev : Device δ) (data : List UInt8) (u : PolledUart δ) : Option Nat × PolledUart δ :=
  let (r, d) := writeFrom dev data 0 u.device
  (r, { u with device := d })

/-- Read one byte if one is waiting; a fault is counted as an overrun. -/
def tryRead (dev : Device δ) (u : PolledUart δ) : Received × PolledUart δ :=
  match dev.readReady u.device with
  | (none, d) => (.fault, countOverrun { u with device := d })
  | (some false, d) => (.nothing, { u with device := d })
  | (some true, d) =>
    match dev.read d with
    | (none, d) => (.fault, countOverrun { u with device := d })
    | (some none, d) => (.nothing, { u with device := d })
    | (some (some b), d) => (.byte b, { u with device := d })

/-- The link a polled UART gives the terminal. -/
def link (dev : Device δ) : SerialLink (PolledUart δ) where
  tryWrite := tryWrite dev
  tryRead := tryRead dev
  overruns u := u.overruns

end PolledUart

end Stimulator
