import Stimulator.Board.Firmware
import Stimulator.Bench.FlashBench

/-!
# The firmware bench

Boots of the firmware on the simulated board, with the host at the terminal. Each boot starts
from power-on; only the settings partition carries over to the next one. Before the first boot
the partition may be damaged on purpose (`fill`) and loaded with blobs through the store.

A step either runs passes of the main loop or changes what the host or the injected faults do.
A run of passes stops after 400,000 of them; typing a line is two such runs, one until the input
is taken in and one until the answer has left. Each step reports the bytes that left on the terminal
line, the log and trace lines, the clock, and the passes completed. A watchdog reset or a stop of
the program ends the boot: the step it happened in is marked interrupted, and the steps after it
are skipped. A preloaded blob whose write stops the program ends the whole run.
-/

namespace Stimulator.Bench

open Storage

/-- A step of a boot. -/
inductive FirmwareStep where
  /-- Run this many passes. -/
  | run (passes : Nat)
  /-- Run passes until the clock has moved this many microseconds. -/
  | runFor (micros : Nat)
  /-- Put bytes on the terminal's input line. -/
  | send (bytes : List UInt8)
  /-- Type a line: its bytes and a carriage return, then run passes while input is on its way
  in, then while output is waiting to leave. -/
  | line (bytes : List UInt8)
  /-- Run passes until the terminal line and both rings are empty. -/
  | settle
  | spiFail (fails : Bool)
  | flashFaults (f : Faults)

/-- What a step showed. -/
structure StepReport where
  out : List UInt8
  log : List String
  trace : List String
  traceCount : Nat
  time : Nat
  passes : Nat
  interrupted : Bool

/-- Passes one step may run. -/
def passCap : Nat := 400000

/-- Run passes while `more` holds, at most `fuel`: the firmware and the passes completed. -/
def runWhile (loopMicros : Nat) (more : Firmware → Bool) : Nat → Firmware → Nat → Firmware × Nat
  | 0, f, n => (f, n)
  | fuel + 1, f, n =>
    if !more f then (f, n)
    else
      let f := f.pass loopMicros
      if f.stopped.isSome then (f, n) else runWhile loopMicros more fuel f (n + 1)

/-- Whether bytes are on their way in on the terminal line. -/
def inputPending (f : Firmware) : Bool := f.board.uart.device.inputPending

/-- Whether bytes wait to leave on the terminal line. -/
def outputPending (f : Firmware) : Bool := !f.board.uart.device.tx.isEmpty

/-- Whether bytes are on their way in or out on the terminal line. -/
def linePending (f : Firmware) : Bool := inputPending f || outputPending f

/-- The firmware with what the host sends added to the input line. -/
def hostSends (bytes : List UInt8) (f : Firmware) : Firmware :=
  { f with board.uart.device := f.board.uart.device.hostSends bytes }

/-- Run a step: the firmware after it and the passes it ran. -/
def FirmwareStep.exec (step : FirmwareStep) (loopMicros : Nat) (f : Firmware) : Firmware × Nat :=
  match step with
  | .run k => runWhile loopMicros (fun _ => true) (min k passCap) f 0
  | .runFor t =>
    let start := f.board.time
    runWhile loopMicros (fun g => g.board.time - start < t) passCap f 0
  | .send bytes => (hostSends bytes f, 0)
  | .line bytes =>
    let (g, n) := runWhile loopMicros inputPending passCap (hostSends (bytes ++ [13]) f) 0
    if g.stopped.isSome then (g, n) else runWhile loopMicros outputPending passCap g n
  | .settle => runWhile loopMicros linePending passCap f 0
  | .spiFail b => ({ f with board.spiFails := b }, 0)
  | .flashFaults faults => ({ f with board.flash.faults := faults }, 0)

/-- Forget what earlier steps showed. -/
def clearObservations (f : Firmware) : Firmware :=
  { f with board.log := #[], board.trace := #[], board.traceCount := 0, board.uart.device.sent := #[] }

/-- What the firmware shows now. -/
def observe (f : Firmware) (passes : Nat) : StepReport where
  out := f.board.uart.device.sent.toList
  log := f.board.log.toList
  trace := f.board.trace.toList
  traceCount := f.board.traceCount
  time := f.board.time
  passes := passes
  interrupted := f.stopped.isSome

/-- How one boot is set up. -/
structure BootSetup where
  loopMicros : Nat := 20
  spiFails : Bool := false
  faults : Faults := {}
  steps : List FirmwareStep

/-- What one boot showed. -/
structure BootReport where
  boot : StepReport
  steps : List StepReport
  /-- Why the boot ended early, if it did. -/
  stop : Option Stop
  skipped : Nat

/-- Run a boot from the settings partition `flash`: its report and the partition after it. -/
def runBoot (flash : Nor) (setup : BootSetup) : BootReport × Nor :=
  let f := Firmware.powerOn flash setup.spiFails setup.faults
  let start := observe f 0
  let (f, reports, skipped) := setup.steps.foldl
    (fun (acc : Firmware × Array StepReport × Nat) step =>
      let (f, reports, skipped) := acc
      if f.stopped.isSome then (f, reports, skipped + 1)
      else
        let (f, n) := step.exec setup.loopMicros (clearObservations f)
        (f, reports.push (observe f n), skipped)) (f, #[], 0)
  (⟨start, reports.toList, f.stopped, skipped⟩, f.board.flash)

/-- A blob stored before the first boot. -/
structure Preload where
  key : Key
  data : List UInt8

/-- Store the preloaded blobs one after another: the outcome of each and the partition after
them, or the message the program stopped with. -/
def preload : List Preload → Nor → Ending (List (Except FlashError Unit) × Nor)
  | [], n => .returned ([], n)
  | p :: ps, n =>
    match Store.write p.key p.data n with
    | (.aborted m, _) => .aborted m
    | (.returned r, n) =>
      match preload ps n with
      | .returned (rs, n) => .returned (r :: rs, n)
      | .aborted m => .aborted m

/-- Damage the partition, store the preloaded blobs, then run the boots one after another:
the outcome of each preload and each boot's report, or the message the program stopped with. -/
def firmwareRun (fills : List (Nat × List UInt8 × Nat)) (preloads : List Preload)
    (boots : List BootSetup) : Ending (List (Except FlashError Unit) × List BootReport) :=
  let flash := fills.foldl (fun n (offset, pattern, count) =>
    n.overwrite offset (List.replicate count pattern).flatten) Nor.blank
  match preload preloads flash with
  | .aborted m => .aborted m
  | .returned (loaded, flash) =>
    let (reports, _) := boots.foldl (fun (acc : Array BootReport × Nor) setup =>
      let (r, n) := runBoot acc.2 setup
      (acc.1.push r, n)) (#[], flash)
    .returned (loaded, reports.toList)

end Stimulator.Bench
