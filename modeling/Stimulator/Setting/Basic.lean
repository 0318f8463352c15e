import Stimulator.Word

/-!
# Channel settings

What the operator sets for one stimulation channel:

* `RunState` : stopped, start requested, running, or a byte that names none of these;
  `RunState.ofByte` and `RunState.toByte` are inverse on bytes (`toByte_ofByte`);
* `Voltage` : the positive and negative phase amplitudes, in units of 0 to 50;
* `PhaseTimes` : pre-wait T0, positive phase T1, interphase T2, negative phase T3 and
  period T4, in ticks of 100 µs; `PhaseTimes.pulseWidth` is T1 + T2 + T3, held at 65535;
* `RampDelta` : the period ramp, a step, the pulses per step and the most steps (at most 10);
* `ChannelSetting` : all of these and the pulse limit (0 for no limit).

A setting is valid (`ChannelSetting.IsValid`) when both amplitudes are at most 50 and the ramp
has at most 10 steps; `ChannelSetting.isValid` decides it (`isValid_eq_true`).
-/

namespace Stimulator

/-- The run state of a channel as the operator and the engine see it. -/
inductive RunState where
  /-- Not generating, and no start pending. -/
  | stopped
  /-- A start was accepted; the engine has not begun the pre-wait yet. -/
  | startRequested
  /-- Pulses are being generated. -/
  | running
  /-- A stored byte that names no run state. -/
  | undefined (raw : UInt8)
  deriving DecidableEq, Repr, Inhabited

namespace RunState

/-- The run state a stored byte stands for: 0, 1 and 2 name the three states. -/
def ofByte (raw : UInt8) : RunState :=
  if raw = 0 then .stopped
  else if raw = 1 then .startRequested
  else if raw = 2 then .running
  else .undefined raw

/-- The byte a run state is stored as. -/
def toByte : RunState → UInt8
  | .stopped => 0
  | .startRequested => 1
  | .running => 2
  | .undefined raw => raw

/-- Start requested and running are the active states: the engine generates pulses only then. -/
def isActive : RunState → Bool
  | .startRequested => true
  | .running => true
  | _ => false

/-- A run state is canonical when an undefined byte is not one of the three named ones. -/
def IsCanonical : RunState → Prop
  | .undefined raw => raw ≠ 0 ∧ raw ≠ 1 ∧ raw ≠ 2
  | _ => True

@[simp] theorem toByte_ofByte (raw : UInt8) : (ofByte raw).toByte = raw := by
  unfold ofByte
  split
  · next h => exact h.symm
  · split
    · next h => exact h.symm
    · split
      · next h => exact h.symm
      · rfl

theorem ofByte_toByte {s : RunState} (h : s.IsCanonical) : ofByte s.toByte = s := by
  cases s with
  | stopped => rfl
  | startRequested => rfl
  | running => rfl
  | undefined raw =>
    obtain ⟨h0, h1, h2⟩ := h
    simp [ofByte, toByte, h0, h1, h2]

theorem isCanonical_ofByte (raw : UInt8) : (ofByte raw).IsCanonical := by
  unfold ofByte
  split
  · trivial
  · split
    · trivial
    · split
      · trivial
      · next h0 h1 h2 => exact ⟨h0, h1, h2⟩

end RunState

/-- The largest amplitude level the operator may set. -/
def maxLevel : UInt8 := 50

/-- The most ramp steps the operator may set. -/
def maxRampSteps : UInt16 := 10

/-- Phase amplitudes of one channel. -/
structure Voltage where
  /-- Amplitude of the positive phase. -/
  positive : UInt8 := 25
  /-- Amplitude of the negative phase. -/
  negative : UInt8 := 10
  deriving DecidableEq, Repr, Inhabited

/-- Both amplitudes are at most `maxLevel`. -/
def Voltage.isValid (v : Voltage) : Bool :=
  v.positive ≤ maxLevel && v.negative ≤ maxLevel

/-- Phase durations of one pulse and the period between pulses, in ticks of 100 µs. -/
structure PhaseTimes where
  /-- T0: wait between the start and the first pulse. -/
  preWait : UInt16 := 50000
  /-- T1: positive phase. -/
  positive : UInt16 := 100
  /-- T2: gap between the two phases. -/
  interphase : UInt16 := 10
  /-- T3: negative phase. -/
  negative : UInt16 := 200
  /-- T4: period from the end of one pulse to the next. -/
  period : UInt16 := 10000
  deriving DecidableEq, Repr, Inhabited

namespace PhaseTimes

/-- T1 + T2 + T3, held at 65535. -/
def pulseWidth (t : PhaseTimes) : UInt16 :=
  Word.satAdd16 (Word.satAdd16 t.positive t.interphase) t.negative

/-- The five times in order T0 to T4. -/
def toList (t : PhaseTimes) : List UInt16 :=
  [t.preWait, t.positive, t.interphase, t.negative, t.period]

/-- The times T0 to T4 from five words in order. -/
def ofArray (t0 t1 t2 t3 t4 : UInt16) : PhaseTimes := ⟨t0, t1, t2, t3, t4⟩

theorem toNat_pulseWidth (t : PhaseTimes) :
    t.pulseWidth.toNat = min (t.positive.toNat + t.interphase.toNat + t.negative.toNat) 65535 := by
  simp only [pulseWidth, Word.toNat_satAdd16]
  omega

end PhaseTimes

/-- The period ramp: every `pulsesPerStep` pulses the period shrinks by `step`, and after
`maxSteps` steps it returns to T4. A step of 0 keeps the period at T4. -/
structure RampDelta where
  /-- Ticks taken off the period at each step. -/
  step : UInt16 := 0
  /-- Pulses at one period before the next step. -/
  pulsesPerStep : UInt16 := 50000
  /-- Steps before the period returns to T4. -/
  maxSteps : UInt16 := 4
  deriving DecidableEq, Repr, Inhabited

namespace RampDelta

/-- The ramp that keeps the period at T4. -/
def flat : RampDelta := {}

/-- At most `maxRampSteps` steps. -/
def isValid (d : RampDelta) : Bool := d.maxSteps ≤ maxRampSteps

/-- The three ramp words in order: step, pulses per step, most steps. -/
def toList (d : RampDelta) : List UInt16 := [d.step, d.pulsesPerStep, d.maxSteps]

end RampDelta

/-- Everything the operator sets for one channel. -/
structure ChannelSetting where
  /-- Whether the channel runs. -/
  runState : RunState := .stopped
  /-- Phase amplitudes. -/
  voltage : Voltage := {}
  /-- Phase durations and period. -/
  times : PhaseTimes := {}
  /-- Period ramp. -/
  delta : RampDelta := RampDelta.flat
  /-- Pulses before the channel stops by itself; 0 for no limit. -/
  pulseLimit : UInt16 := 0
  deriving DecidableEq, Repr, Inhabited

namespace ChannelSetting

/-- Amplitudes and ramp within the bounds the operator may set. -/
def isValid (s : ChannelSetting) : Bool := s.voltage.isValid && s.delta.isValid

/-- The bounds as a proposition: both amplitudes at most 50 and at most 10 ramp steps. -/
def IsValid (s : ChannelSetting) : Prop :=
  s.voltage.positive.toNat ≤ 50 ∧ s.voltage.negative.toNat ≤ 50 ∧ s.delta.maxSteps.toNat ≤ 10

@[simp] theorem isValid_eq_true (s : ChannelSetting) : s.isValid = true ↔ s.IsValid := by
  simp only [isValid, Voltage.isValid, RampDelta.isValid, maxLevel, maxRampSteps, IsValid,
    Bool.and_eq_true, decide_eq_true_eq, UInt8.le_iff_toNat_le, UInt16.le_iff_toNat_le]
  simp only [UInt8.reduceToNat, UInt16.reduceToNat]
  constructor
  · rintro ⟨⟨a, b⟩, c⟩; exact ⟨a, b, c⟩
  · rintro ⟨a, b, c⟩; exact ⟨⟨a, b⟩, c⟩

end ChannelSetting

end Stimulator
