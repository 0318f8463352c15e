import Stimulator.Word

/-!
# Channel runtime

What the engine keeps per channel while it generates a pulse train; it is never persisted.

* `Phase` : where the channel is in its cycle — idle, waiting out the pre-wait, about to emit
  a pulse, or waiting out the period;
* `Runtime` : the phase, the pulse counters, the reference tick of the running wait, the active
  period and the ramp steps applied; `Runtime.reset` returns to idle and clears the counters but
  keeps the reference tick and the period;
* `Event` : a transition worth telling the operator about.
-/

namespace Stimulator

/-- Position of a channel in its pulse cycle. -/
inductive Phase where
  /-- Not generating. -/
  | idle
  /-- Waiting T0 after a start. -/
  | preWait
  /-- The next pass emits one pulse. -/
  | pulse
  /-- Waiting out the active period. -/
  | interWait
  deriving DecidableEq, Repr, Inhabited

/-- The number a phase is shown as: 0 to 3 in cycle order. -/
def Phase.code : Phase → Nat
  | .idle => 0
  | .preWait => 1
  | .pulse => 2
  | .interWait => 3

/-- Engine bookkeeping for one channel. -/
structure Runtime where
  /-- Position in the cycle. -/
  phase : Phase := .idle
  /-- Pulses emitted since the last start, held at the largest 32-bit value. -/
  pulsesEmitted : UInt32 := 0
  /-- Tick the running wait is measured from. -/
  lastTransition : UInt16 := 0
  /-- Active period in ticks: T4 less the ramp steps applied. -/
  currentPeriod : UInt16 := 0
  /-- Pulses emitted at the active period. -/
  pulsesInPeriod : UInt32 := 0
  /-- Ramp steps applied since the period last returned to T4. -/
  stepsApplied : UInt16 := 0
  deriving DecidableEq, Repr, Inhabited

/-- Back to idle with the counters cleared. -/
def Runtime.reset (r : Runtime) : Runtime :=
  { r with phase := .idle, pulsesEmitted := 0, pulsesInPeriod := 0, stepsApplied := 0 }

/-- A channel transition reported to the operator. -/
inductive Event where
  /-- A start was taken up; the pre-wait runs. -/
  | started
  /-- The pre-wait is over; the first pulse is next. -/
  | running
  /-- The ramp changed the active period (ticks). -/
  | periodChanged (period : UInt16)
  /-- The pulse limit was reached after this many pulses. -/
  | completed (pulses : UInt32)
  /-- The channel went back to idle. -/
  | stopped
  deriving DecidableEq, Repr, Inhabited

end Stimulator
