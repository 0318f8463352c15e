import Stimulator.Stage.Basic
import Stimulator.Stage.CanClock
import Stimulator.Console.Serial
import Stimulator.Text.Hex

/-!
# Benches for the stage drivers and the board peripherals

The stage drivers run on a traced world (`Traced`): every pin write is recorded as
`"<pin>=1"`/`"<pin>=0"` and every frame as `"spi:<hex>"`. A bus set to fail refuses frames, and
records them as `"spi!"` unless its failures are silent.

* `StageStep`, `BridgeStep`, `DigipotStep`, `CanStep`, `GpioStep` : the steps of each driver;
* `FlushBench` : a bus master logging writes and flushes, each of which may be set to fail;
* `ScriptedDevice` : a byte device with a scripted receive queue and a transmitter of limited
  room, under a polled UART (`UartStep`).
-/

namespace Stimulator.Bench

/-- A world of named pins and one bus, with the trace of everything done to them. -/
structure Traced where
  trace : Array String := #[]
  levels : List (String × Bool) := []
  spiFails : Bool := false
  silentFailures : Bool := false
  deriving Inhabited

namespace Traced

/-- The pins and bus of a traced world. -/
def bus : Bus Traced String where
  setPin name high t :=
    { t with
      trace := t.trace.push (name ++ if high then "=1" else "=0")
      levels := (name, high) :: t.levels.filter (fun p => p.1 != name) }
  isHigh name t := (t.levels.lookup name).getD false
  spiWrite data t :=
    if t.spiFails then
      (false, if t.silentFailures then t else { t with trace := t.trace.push "spi!" })
    else (true, { t with trace := t.trace.push ("spi:" ++ Hex.encode data) })

/-- The trace so far, and the world with an empty trace. -/
def takeTrace (t : Traced) : List String × Traced := (t.trace.toList, { t with trace := #[] })

end Traced

/-- The pins of channel `c`'s bridge. -/
def bridgePins (c : Nat) : BridgePins String :=
  ⟨s!"en{c}a", s!"en{c}b", s!"dir{c}a", s!"dir{c}b"⟩

/-- A stage of `n` channels and `digipots` digipots, on named pins. -/
def namedStage (n digipots : Nat) : Stage String where
  digipots := (List.range digipots).map (fun k => s!"cs{k}")
  bridges := (List.range n).map bridgePins

/-- A step on the pulse stage. -/
inductive StageStep where
  | setAmplitude (channel : Nat) (level : UInt8)
  | drive (channel : Nat) (pol : Polarity)
  | release (channel : Nat)
  | releaseAll
  | spiFail (fails : Bool)

/-- Run one stage step. -/
def StageStep.run : StageStep → Stage String × Traced → Stage String × Traced
  | .setAmplitude c level, (st, t) => Stage.setAmplitude Traced.bus c level st t
  | .drive c pol, (st, t) => (st, Stage.drive Traced.bus c pol st t)
  | .release c, (st, t) => (st, Stage.release Traced.bus c st t)
  | .releaseAll, (st, t) => Stage.releaseAll Traced.bus st t
  | .spiFail b, (st, t) => (st, { t with spiFails := b })

/-- What a stage step shows: its trace and the failed writes so far. -/
structure StageReport where
  trace : List String
  spiErrors : UInt32

/-- Build the stage, then run the steps: the construction trace and one report per step. -/
def stageRun (n digipots : Nat) (silent : Bool) (steps : List StageStep) :
    List String × List StageReport :=
  let st := namedStage n digipots
  let (init, t) := Traced.takeTrace (Stage.init Traced.bus st { silentFailures := silent })
  let go := steps.foldl (fun (acc : Array StageReport × Stage String × Traced) step =>
    let (st, t) := step.run acc.2
    let (trace, t) := t.takeTrace
    (acc.1.push ⟨trace, st.spiErrors⟩, st, t)) (#[], st, t)
  (init, go.1.toList)

/-- A step on a single bridge. -/
inductive BridgeStep where
  | drive (pol : Polarity)
  | release

/-- Build bridge 0, then run the steps: for the construction and each step, the trace and
whether the load is connected. -/
def bridgeRun (steps : List BridgeStep) : List (List String × Bool) :=
  let p := bridgePins 0
  let (init, t) := Traced.takeTrace (Bridge.init Traced.bus p {})
  let first := (init, Bridge.isDriving Traced.bus p t)
  let go := steps.foldl (fun (acc : Array (List String × Bool) × Traced) step =>
    let t := match step with
      | .drive pol => Bridge.drive Traced.bus p pol acc.2
      | .release => Bridge.release Traced.bus p acc.2
    let (trace, t) := t.takeTrace
    (acc.1.push (trace, Bridge.isDriving Traced.bus p t), t)) (#[first], t)
  go.1.toList

/-- A step on the digipot. -/
inductive DigipotStep where
  | writeWiper (pot : Pot) (value : UInt8)
  | writeLevel (pot : Pot) (level : UInt8)
  | spiFail (fails : Bool)

/-- A step on the CAN controller. -/
inductive CanStep where
  | reset
  | enableClockOut
  | writeRegister (register value : UInt8)
  | spiFail (fails : Bool)

/-- A chip run on chip select `"cs"`: the construction trace, then for each step whether it
succeeded and its trace, and whether the chip select is high at the end. -/
structure ChipRun where
  init : List String
  steps : List (Bool × List String)
  csHigh : Bool

/-- Run the steps of a chip whose steps act by `act`, after taking its chip select. -/
def chipRun {α : Type} (act : α → Traced → Bool × Traced) (steps : List α) : ChipRun :=
  let (init, t) := Traced.takeTrace (Traced.bus.setPin "cs" true {})
  let go := steps.foldl (fun (acc : Array (Bool × List String) × Traced) step =>
    let (ok, t) := act step acc.2
    let (trace, t) := t.takeTrace
    (acc.1.push (ok, trace), t)) (#[], t)
  ⟨init, go.1.toList, Traced.bus.isHigh "cs" go.2⟩

/-- Run the digipot's steps. -/
def digipotRun (steps : List DigipotStep) : ChipRun :=
  chipRun (fun step t => match step with
    | .writeWiper pot v => Digipot.writeWiper Traced.bus "cs" pot v t
    | .writeLevel pot v => Digipot.writeLevel Traced.bus "cs" pot v t
    | .spiFail b => (true, { t with spiFails := b })) steps

/-- Run the CAN controller's steps. -/
def canRun (steps : List CanStep) : ChipRun :=
  chipRun (fun step t => match step with
    | .reset => CanClock.reset Traced.bus "cs" t
    | .enableClockOut => CanClock.enableClockOut Traced.bus "cs" t
    | .writeRegister r v => CanClock.writeRegister Traced.bus "cs" r v t
    | .spiFail b => (true, { t with spiFails := b })) steps

/-- A step on one output pin. -/
inductive GpioStep where
  | setHigh
  | setLow
  | setState (high : Bool)
  | read

/-- Take an output pin at a level, then run the steps: for the construction and each step,
the trace and the pin's level. -/
def gpioRun (pin : String) (initial : Bool) (steps : List GpioStep) : List (List String × Bool) :=
  let (init, t) := Traced.takeTrace (Traced.bus.setPin pin initial {})
  let go := steps.foldl (fun (acc : Array (List String × Bool) × Traced) step =>
    let t := match step with
      | .setHigh => Traced.bus.setPin pin true acc.2
      | .setLow => Traced.bus.setPin pin false acc.2
      | .setState h => Traced.bus.setPin pin h acc.2
      | .read => acc.2
    let (trace, t) := t.takeTrace
    (acc.1.push (trace, Traced.bus.isHigh pin t), t)) (#[(init, Traced.bus.isHigh pin t)], t)
  go.1.toList

/-- A bus master that logs writes and flushes. -/
structure FlushBench where
  log : Array String := #[]
  failWrite : Bool := false
  failFlush : Bool := false

/-- The bus master of the flush bench. -/
def FlushBench.spi : FlushedSpi FlushBench where
  write data b :=
    if b.failWrite then (false, { b with log := b.log.push "write!" })
    else (true, { b with log := b.log.push ("write:" ++ Hex.encode data) })
  flush b :=
    if b.failFlush then (false, { b with log := b.log.push "flush!" })
    else (true, { b with log := b.log.push "flush" })

/-- A step on the flushed bus. -/
inductive SpiStep where
  | write (data : List UInt8)
  | config (failWrite failFlush : Bool)

/-- Run the steps: for each, whether it succeeded and the bus log. -/
def spiRun (steps : List SpiStep) : List (Bool × List String) :=
  let go := steps.foldl (fun (acc : Array (Bool × List String) × FlushBench) step =>
    let (ok, b) := match step with
      | .write data => FlushBench.spi.writeFrame data acc.2
      | .config w f => (true, { acc.2 with failWrite := w, failFlush := f })
    (acc.1.push (ok, b.log.toList), { b with log := #[] })) (#[], {})
  go.1.toList

/-- An item of the scripted receive queue. -/
inductive ScriptItem where
  | byte (b : UInt8)
  /-- The readiness check faults. -/
  | readyFault
  /-- The read faults. -/
  | readFault
  /-- The read returns no byte. -/
  | empty
  deriving DecidableEq, Repr, Inhabited

/-- A byte device with a scripted receive queue and a transmitter of limited room. -/
structure ScriptedDevice where
  queue : List ScriptItem := []
  txRoom : Nat := 1024
  chunk : Nat := 1024
  readyFault : Bool := false
  writeFault : Bool := false
  writeNothing : Bool := false
  sent : Array UInt8 := #[]

/-- The scripted device. -/
def ScriptedDevice.device : Device ScriptedDevice where
  readReady d :=
    match d.queue with
    | [] => (some false, d)
    | .readyFault :: rest => (none, { d with queue := rest })
    | _ => (some true, d)
  read d :=
    match d.queue with
    | [] => (some none, d)
    | .byte b :: rest => (some (some b), { d with queue := rest })
    | .readFault :: rest => (none, { d with queue := rest })
    | _ :: rest => (some none, { d with queue := rest })
  writeReady d := (if d.readyFault then none else some (decide (0 < d.txRoom)), d)
  write data d :=
    if d.writeFault then (none, d)
    else if d.writeNothing then (some 0, d)
    else
      let k := min data.length (min d.txRoom (max d.chunk 1))
      (some k, { d with txRoom := d.txRoom - k, sent := d.sent ++ (data.take k).toArray })

/-- A step on the polled UART. -/
inductive UartStep where
  | rx (items : List ScriptItem)
  | read
  | write (data : List UInt8)
  | config (txRoom chunk : Option Nat) (readyFault writeFault writeNothing : Bool)

/-- What a UART step returned. -/
inductive UartResult where
  | done
  | read (r : Received)
  /-- The count taken (`none` on a fault) and the bytes sent. -/
  | wrote (taken : Option Nat) (sent : List UInt8)

/-- Run one UART step. -/
def UartStep.run : UartStep → PolledUart ScriptedDevice → UartResult × PolledUart ScriptedDevice
  | .rx items, u => (.done, { u with device.queue := u.device.queue ++ items })
  | .read, u =>
    let (r, u) := PolledUart.tryRead ScriptedDevice.device u
    (.read r, u)
  | .write data, u =>
    let (r, u) := PolledUart.tryWrite ScriptedDevice.device data { u with device.sent := #[] }
    (.wrote r u.device.sent.toList, u)
  | .config room chunk rf wf wn, u =>
    let d := u.device
    (.done, { u with device :=
      { d with txRoom := room.getD d.txRoom, chunk := chunk.getD d.chunk, readyFault := rf,
               writeFault := wf, writeNothing := wn } })

/-- Run the steps: for each, its result and the overruns so far. -/
def uartRun (txRoom chunk : Nat) (steps : List UartStep) : List (UartResult × UInt32) :=
  let go := steps.foldl (fun (acc : Array (UartResult × UInt32) × PolledUart ScriptedDevice) step =>
    let (r, u) := step.run acc.2
    (acc.1.push (r, u.overruns), u)) (#[], { device := { txRoom := txRoom, chunk := chunk } })
  go.1.toList

end Stimulator.Bench
