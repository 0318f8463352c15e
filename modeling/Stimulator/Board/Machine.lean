import Stimulator.Board.Uart
import Stimulator.Stage.Basic
import Stimulator.Stage.CanClock
import Stimulator.Storage.Store
import Stimulator.Text.Hex
import Stimulator.Clock

/-!
# The simulated board

Everything of the stimulator board the firmware can observe: a microsecond clock, the tick
counter kept by the tick task, the terminal UART, the GPIO pins and the SPI bus of the output
stage, and the settings flash. The board also records what happened: the log lines, and the
trace of pin writes, SPI frames and watchdog resets (the first 200 kept, all counted).

Time moves only when the firmware busy-waits (`Board.rig`'s delay) or between passes of the
main loop (`Board.advance`). After every move the UART line catches up, then the tick task runs:
the first time it starts its 100 µs ticker from that moment; afterwards it counts every period
that has passed, however many.

* `Board.bus` : pins named by GPIO number, traced `gpio<N>=1`/`gpio<N>=0`; SPI frames traced
  `spi:<hex>`, or `spi!` while the injected bus fault is on;
* `Board.rig` : the engine's hardware: the tick counter, the busy-wait and the output stage;
* `Board.link` : the terminal's UART.
-/

namespace Stimulator.Board

/-- Trace lines kept per step. -/
def traceKept : Nat := 200

/-- The output stage of the board: the digipot on GPIO 17, bridges on GPIO 2–5 and 6–9. -/
def boardStage : Stage Nat where
  digipots := [17]
  bridges := [⟨2, 3, 4, 5⟩, ⟨6, 7, 8, 9⟩]

end Stimulator.Board

namespace Stimulator

/-- The state of the simulated board. -/
structure Board where
  /-- Microseconds since power-on. -/
  time : Nat := 0
  ticks : UInt16 := 0
  /-- When the tick task's ticker expires next; `none` until the tick task has run. -/
  nextTick : Option Nat := none
  uart : PolledUart Board.LineUart := { device := {} }
  stage : Stage Nat := Board.boardStage
  pins : Array Bool := Array.replicate 32 false
  spiFails : Bool := false
  flash : Storage.Nor := Storage.Nor.blank
  trace : Array String := #[]
  traceCount : Nat := 0
  log : Array String := #[]

namespace Board

/-- Add a log line at a level. -/
def note (level message : String) (b : Board) : Board := { b with log := b.log.push (level ++ " " ++ message) }

/-- Add a trace line. -/
def record (line : String) (b : Board) : Board :=
  { b with trace := if b.trace.size < traceKept then b.trace.push line else b.trace
           traceCount := b.traceCount + 1 }

/-- The tick task: started at its first run, then counting every expired period. -/
def runTickTask (b : Board) : Board :=
  match b.nextTick with
  | none => { note "INFO" "Tick task started" b with ticks := 0, nextTick := some (b.time + Clock.tickMicros) }
  | some next =>
    if next ≤ b.time then
      let k := (b.time - next) / Clock.tickMicros + 1
      { b with ticks := b.ticks + UInt16.ofNat k, nextTick := some (next + Clock.tickMicros * k) }
    else b

/-- Let `dt` µs pass: the UART line catches up, then the tick task runs. -/
def advance (dt : Nat) (b : Board) : Board :=
  runTickTask { b with time := b.time + dt, uart := { b.uart with device := b.uart.device.advance dt } }

/-- The pins and the SPI bus. -/
def bus : Bus Board Nat where
  setPin n high b :=
    { record (s!"gpio{n}=" ++ if high then "1" else "0") b with pins := b.pins.set! n high }
  isHigh n b := b.pins.getD n false
  spiWrite data b :=
    if b.spiFails then (false, record "spi!" b) else (true, record ("spi:" ++ Hex.encode data) b)

/-- The engine's hardware on the board. -/
def rig : Rig Board where
  now b := b.ticks
  delay k b := if k = 0 then b else advance (Clock.busyWaitMicros k) b
  setAmplitude c level b :=
    let (st, b) := Stage.setAmplitude bus c level b.stage b
    { b with stage := st }
  drive c pol b := Stage.drive bus c pol b.stage b
  release c b := Stage.release bus c b.stage b

/-- The terminal's UART. -/
def link : SerialLink Board where
  tryWrite data b :=
    let (r, u) := PolledUart.tryWrite LineUart.device data b.uart
    (r, { b with uart := u })
  tryRead b :=
    let (r, u) := PolledUart.tryRead LineUart.device b.uart
    (r, { b with uart := u })
  overruns b := b.uart.overruns

/-- Release every channel and zero the amplitudes. -/
def releaseAll (b : Board) : Board :=
  let (st, b) := Stage.releaseAll bus b.stage b
  { b with stage := st }

/-- Take an output pin at a level. -/
def output (n : Nat) (high : Bool) (b : Board) : Board := bus.setPin n high b

end Board

end Stimulator
