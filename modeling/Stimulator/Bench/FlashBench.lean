import Stimulator.Storage.Store

/-!
# The flash bench

The settings store on a freshly erased partition, with steps that read, write and erase through
the store, switch the injected faults, and damage the partition directly (`FlashStep.fill`). A
write that stops the program ends the run.
-/

namespace Stimulator.Bench

open Stimulator.Storage

/-- A step on the settings store. -/
inductive FlashStep where
  | write (key : Key) (data : List UInt8)
  | read (key : Key) (capacity : Nat)
  | eraseAll
  | faults (f : Faults)
  /-- Put `pattern` repeated `count` times into the partition at `offset`. -/
  | fill (offset : Nat) (pattern : List UInt8) (count : Nat)

/-- What a step returned: the blob read, or nothing, or the store's error. -/
abbrev FlashOutcome := Except FlashError (Option (List UInt8))

/-- Run one step: what it returned, or the message the program stopped with. -/
def FlashStep.run : FlashStep → Nor → Ending FlashOutcome × Nor
  | .write key data, n =>
    match Store.write key data n with
    | (.returned r, n) => (.returned (r.map fun _ => none), n)
    | (.aborted m, n) => (.aborted m, n)
  | .read key cap, n =>
    let (r, n) := Store.read key cap n
    (.returned (r.map some), n)
  | .eraseAll, n =>
    let (r, n) := Store.eraseAll n
    (.returned (r.map fun _ => none), n)
  | .faults f, n => (.returned (.ok none), { n with faults := f })
  | .fill offset pattern count, n =>
    (.returned (.ok none), n.overwrite offset ((List.replicate count pattern).flatten))

/-- Run the steps from the partition `n`, up to the first that stops the program. -/
def runSteps : List FlashStep → Nor → Ending (List FlashOutcome)
  | [], _ => .returned []
  | step :: rest, n =>
    match step.run n with
    | (.aborted m, _) => .aborted m
    | (.returned r, n) =>
      match runSteps rest n with
      | .returned rs => .returned (r :: rs)
      | .aborted m => .aborted m

/-- Run the steps from a blank partition: what each returned, or the message the program stopped
with. -/
def flashRun (steps : List FlashStep) : Ending (List FlashOutcome) := runSteps steps Nor.blank

end Stimulator.Bench
