import Stimulator.Clock
import Stimulator.Setting.Bank
import Stimulator.Waveform.Ramp

/-!
# The waveform engine

One engine pass advances every channel's state machine once, in channel order, against one
snapshot of the tick clock:

```text
  idle ──start──▶ pre-wait ──T0──▶ pulse ──▶ inter-wait ──period──▶ pulse ...
    ▲                                                        │
    └────────────── run state neither start-requested nor running
```

The hardware is a `Rig`: a clock reading, a busy-wait delay in ticks and the output stage's three
actions. All of them act on a world `σ`, so the same engine runs on a test bench and on a board
where a delay moves time. A pulse is emitted synchronously (`emitPulse`): positive phase,
interphase gap, negative phase.

* `step` : one channel's decision; it reads the settings live, so an edit takes effect at the
  next decision;
* `Engine.service` : one pass over all channels, returning the events of the pass in channel order.
-/

namespace Stimulator

/-- Output polarity of one pulse phase. -/
inductive Polarity where
  | positive
  | negative
  deriving DecidableEq, Repr, Inhabited

/-- The hardware an engine pass drives, acting on a world `σ`. -/
structure Rig (σ : Type) where
  /-- The tick clock. -/
  now : σ → UInt16
  /-- Busy-wait for a number of ticks. -/
  delay : UInt16 → σ → σ
  /-- Set the amplitude level of a channel for the next phase. -/
  setAmplitude : Nat → UInt8 → σ → σ
  /-- Connect a channel to the load with a polarity. -/
  drive : Nat → Polarity → σ → σ
  /-- Disconnect a channel. -/
  release : Nat → σ → σ

/-- The runtimes of every channel, in channel order. -/
structure Engine where
  runtimes : List Runtime
  deriving DecidableEq, Repr, Inhabited

/-- One channel after one decision. -/
structure ChannelStep (σ : Type) where
  runtime : Runtime
  setting : ChannelSetting
  world : σ
  event : Option Event

/-- Every channel after one engine pass. -/
structure Pass (σ : Type) where
  engine : Engine
  bank : Bank
  world : σ
  /-- The events of the pass with their channels, in channel order. -/
  events : List (Nat × Event)

namespace Engine

variable {σ : Type}

/-- An engine of `n` idle channels. -/
def new (n : Nat) : Engine := ⟨List.replicate n {}⟩

/-- Positive phase, interphase gap, negative phase. The gap and the negative phase are skipped
when their time is zero. -/
def emitPulse (rig : Rig σ) (channel : Nat) (s : ChannelSetting) (w : σ) : σ :=
  let t := s.times
  let w := rig.setAmplitude channel s.voltage.positive w
  let w := rig.drive channel .positive w
  let w := rig.delay t.positive w
  let w := rig.release channel w
  let w := if 0 < t.interphase then rig.delay t.interphase w else w
  let w := rig.setAmplitude channel s.voltage.negative w
  if 0 < t.negative then
    rig.release channel (rig.delay t.negative (rig.drive channel .negative w))
  else w

/-- One decision for one channel at the pass snapshot `now`. -/
def step (rig : Rig σ) (channel : Nat) (now : UInt16) (r : Runtime) (s : ChannelSetting)
    (w : σ) : ChannelStep σ :=
  if !s.runState.isActive then
    ⟨r.reset, { s with runState := .stopped }, w,
      if r.phase = .idle then none else some .stopped⟩
  else
    match r.phase with
    | .idle =>
      if s.runState = .startRequested then
        ⟨{ r with lastTransition := now, currentPeriod := s.times.period, phase := .preWait },
          s, w, some .started⟩
      else ⟨r, { s with runState := .stopped }, w, none⟩
    | .preWait =>
      if s.times.preWait ≤ Clock.elapsed now r.lastTransition then
        ⟨{ r with lastTransition := now, phase := .pulse }, { s with runState := .running }, w,
          some .running⟩
      else ⟨r, s, w, none⟩
    | .pulse =>
      let w := emitPulse rig channel s w
      ⟨{ r with
          lastTransition := rig.now w
          pulsesEmitted := Word.satAdd32 r.pulsesEmitted 1
          pulsesInPeriod := Word.satAdd32 r.pulsesInPeriod 1
          phase := .interWait }, s, w, none⟩
    | .interWait =>
      if Clock.elapsed now r.lastTransition < r.currentPeriod then ⟨r, s, w, none⟩
      else
        let (r, s, event) := Ramp.periodBoundary r s
        let r := if s.runState.isActive then { r with lastTransition := now, phase := .pulse }
          else r
        ⟨r, s, w, event⟩

/-- Channels from `channel` on, each once, at the pass snapshot `now`. -/
def serviceFrom (rig : Rig σ) (now : UInt16) :
    Nat → List Runtime → List ChannelSetting → σ →
      List Runtime × List ChannelSetting × σ × List (Nat × Event)
  | channel, r :: rs, s :: ss, w =>
    let c := step rig channel now r s w
    let (rs, ss, w, events) := serviceFrom rig now (channel + 1) rs ss c.world
    (c.runtime :: rs, c.setting :: ss, w, (c.event.map (channel, ·)).toList ++ events)
  | _, rs, ss, w => (rs, ss, w, [])

/-- One engine pass: every channel once, in channel order, against one clock snapshot. -/
def service (rig : Rig σ) (e : Engine) (b : Bank) (w : σ) : Pass σ :=
  let (rs, ss, w, events) := serviceFrom rig (rig.now w) 0 e.runtimes b.channels w
  ⟨⟨rs⟩, ⟨ss⟩, w, events⟩

end Engine

end Stimulator
