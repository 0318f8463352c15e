import Stimulator.Setting.Basic
import Stimulator.Waveform.Runtime

/-!
# The period boundary

Runs once each time a channel's period has run out, before its next pulse is scheduled.

`periodBoundary` first applies the pulse limit: once `pulsesEmitted` reaches a nonzero limit the
channel's run state becomes stopped and `completed` is reported. Otherwise a flat ramp (step 0)
follows T4, so live edits of T4 take effect, and a ramp with a step shortens the period by the
step every `pulsesPerStep` pulses (`Ramp.shorten`), never below the pulse width, and returns it
to T4 after `maxSteps` steps.
-/

namespace Stimulator.Ramp

/-- One ramp step applied to period `p`: a period longer than the step loses the step but stays
at least `min width p`; a period not longer than the step is kept. -/
def shorten (step width p : UInt16) : UInt16 :=
  if step < p then max (p - step) (min width p) else p

/-- What happens to a channel at a period boundary: its runtime, its setting and the event. -/
def periodBoundary (r : Runtime) (s : ChannelSetting) : Runtime × ChannelSetting × Option Event :=
  if s.pulseLimit ≠ 0 ∧ s.pulseLimit.toUInt32 ≤ r.pulsesEmitted then
    (r, { s with runState := .stopped }, some (.completed r.pulsesEmitted))
  else if s.delta.step = 0 then
    ({ r with currentPeriod := s.times.period }, s, none)
  else if r.pulsesInPeriod < s.delta.pulsesPerStep.toUInt32 then
    (r, s, none)
  else
    let period := shorten s.delta.step s.times.pulseWidth r.currentPeriod
    let steps := Word.satAdd16 r.stepsApplied 1
    let (steps, period) := if s.delta.maxSteps < steps then (0, s.times.period) else (steps, period)
    ({ r with currentPeriod := period, stepsApplied := steps, pulsesInPeriod := 0 }, s,
      some (.periodChanged period))

end Stimulator.Ramp
