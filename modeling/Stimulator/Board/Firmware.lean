import Stimulator.Board.Persist
import Stimulator.Scheduler

/-!
# The firmware on the board

Power-on (`Firmware.powerOn`) brings the board up in order: the peripherals, the tick task, the
terminal UART, the SPI bus, the digipot and the two bridges (each pin first taken low or high,
then the driver's own set-up), every channel released, and the CAN controller set to give its
clock, with a 100 µs wait between its reset and its configuration — the first time that moves,
so the tick task starts there.

The main task then runs one pass of its loop each time it is polled (`Firmware.pass`). Its first
pass loads the settings and shows the banner. Every pass runs one scheduler iteration, then
serves the request the terminal parked, if any: storing or loading settings answers on the
terminal; a reboot releases every channel and fires the watchdog. After the watchdog's reset, or a
store that stops the program, nothing runs (`stopped`). Between passes `loopMicros` µs pass.
-/

namespace Stimulator

/-- Why the firmware stopped running. -/
inductive Stop where
  /-- The watchdog reset the board. -/
  | reset
  /-- The program stopped with this message. -/
  | panic (message : String)
  deriving DecidableEq, Repr

/-- The firmware running on the board. -/
structure Firmware where
  board : Board
  /-- The terminal and the scheduler, once the main task has started. -/
  task : Option (Terminal × Scheduler) := none
  /-- Why the firmware stopped, once it has. -/
  stopped : Option Stop := none

namespace Firmware

open Board

/-- Take a bridge's four pins low, then set the bridge up. -/
def setUpBridge (p : BridgePins Nat) (b : Board) : Board :=
  let b := output p.directionB false (output p.directionA false
    (output p.enableB false (output p.enableA false b)))
  Bridge.init bus p b

/-- Bring the board up, with the settings partition `flash`, the SPI bus failing when
`spiFails`, and the flash `faults`. -/
def powerOn (flash : Storage.Nor) (spiFails : Bool) (faults : Storage.Faults) : Firmware :=
  let b : Board := { flash := { flash with faults := faults }, spiFails := spiFails }
  let b := b.note "INFO" "Galvani firmware starting..."
  let b := (b.record "init").note "INFO" "Peripherals initialized"
  let b := b.record "irq:SWI_IRQ_1 priority P2"
  let b := (b.record "uart:init tx=0 rx=1 baud=115200").note "INFO" "UART initialized for terminal"
  let b := b.record "spi:init clk=18 mosi=19 miso=16 hz=1000000"
  let b := boardStage.digipots.foldl (fun b cs => Digipot.init bus cs (output cs true b)) b
  let b := boardStage.bridges.foldl (fun b p => setUpBridge p b) b
  let b := (releaseAll b).note "INFO" "Pulse stage initialized"
  let b := CanClock.init bus 20 (output 20 true b)
  let (ok, b) := CanClock.reset bus 20 b
  let b := if ok then b else b.note "WARN" "MCP2515 reset failed"
  let b := rig.delay 1 b
  let (ok, b) := CanClock.enableClockOut bus 20 b
  let b := if ok then b else b.note "WARN" "MCP2515 clock output setup failed"
  { board := b.note "INFO" "All tasks spawned, firmware running" }

/-- The main task's start: load the settings, make the scheduler, show the banner. -/
def startTask (b : Board) : Terminal × Scheduler × Board :=
  let b := b.note "INFO" "Stimulator task started"
  let (bank, b) := Persist.loadOrDefault b
  let (t, b) := Terminal.banner link {} b
  (t, Scheduler.new bank, b)

/-- A request's name in the log. -/
def requestName : Request → String
  | .store => "Store"
  | .load => "Load"
  | .reboot => "Reboot"

/-- Serve a parked request: the task after it, or why the firmware stopped. -/
def serve (r : Request) (t : Terminal) (s : Scheduler) (b : Board) :
    Except Stop (Terminal × Scheduler) × Board :=
  let b := b.note "DEBUG" ("System request: " ++ requestName r)
  let fail := fun (what : String) (e : PersistError) (b : Board) =>
    let (t, b) := Terminal.completeRequest link e.describe t
      (b.note "WARN" (what ++ " failed: " ++ e.debugText))
    (.ok (t, s), b)
  match r with
  | .store =>
    match Persist.store s.bank b with
    | (.returned (.ok ()), b) =>
      let (t, b) := Terminal.completeRequest link "Settings stored" t b
      (.ok (t, s), b)
    | (.returned (.error e), b) => fail "Store" e b
    | (.aborted m, b) => (.error (.panic m), b)
  | .load =>
    match Persist.load b with
    | (.ok bank, b) =>
      let (t, b) := Terminal.completeRequest link "Settings loaded" t b
      (.ok (t, { s with bank := bank }), b)
    | (.error e, b) => fail "Load" e b
  | .reboot =>
    let b := b.note "WARN" "Reboot requested"
    (.error .reset, (releaseAll b).record "watchdog:reset")

/-- One pass of the main task's loop, then `loopMicros` µs. -/
def pass (loopMicros : Nat) (f : Firmware) : Firmware :=
  if f.stopped.isSome then f
  else
    let (t, s, b) := match f.task with
      | some (t, s) => (t, s, f.board)
      | none => startTask f.board
    let (t, s, b, _) := Scheduler.iterate link rig t s b
    let (request, t) := t.takeRequest
    match request with
    | none => { f with board := b.advance loopMicros, task := some (t, s) }
    | some r =>
      match serve r t s b with
      | (.ok (t, s), b) => { f with board := b.advance loopMicros, task := some (t, s) }
      | (.error stop, b) => { f with board := b, task := none, stopped := some stop }

end Firmware

end Stimulator
