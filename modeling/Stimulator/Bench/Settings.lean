import Stimulator.Setting.Image

/-!
# Settings steps on a bench

The operations a bench applies to a settings bank, with their outcomes:

* `SettingPatch` : a setting with some fields given; `SettingPatch.apply` overrides only those;
* `SettingsStep` : start, stop, the four setters, a query, writing and loading the image, and a
  poke that overrides one channel's fields without validation, standing in for the engine's and
  the image loader's writes;
* `SettingsStep.run` : the bank after the step and the step's outcome.
-/

namespace Stimulator.Bench

/-- Fields of a setting, each given or not. -/
structure SettingPatch where
  runState : Option UInt8 := none
  voltage : Option Voltage := none
  times : Option PhaseTimes := none
  delta : Option RampDelta := none
  pulseLimit : Option UInt16 := none
  deriving Repr, Inhabited

/-- The setting with the given fields replaced. -/
def SettingPatch.apply (p : SettingPatch) (s : ChannelSetting) : ChannelSetting :=
  { runState := (p.runState.map RunState.ofByte).getD s.runState
    voltage := p.voltage.getD s.voltage
    times := p.times.getD s.times
    delta := p.delta.getD s.delta
    pulseLimit := p.pulseLimit.getD s.pulseLimit }

/-- An operation on the settings bank. -/
inductive SettingsStep where
  | start (sel : Select)
  | stop (sel : Select)
  | setVoltage (channel : Nat) (v : Voltage)
  | setTimes (channel : Nat) (t : PhaseTimes)
  | setDelta (channel : Nat) (d : RampDelta)
  | setRepeatCount (channel : Nat) (count : UInt16)
  | query (channel : Nat)
  | toImage
  | loadImage (image : List UInt8)
  | poke (channel : Nat) (patch : SettingPatch)
  deriving Repr, Inhabited

/-- What a settings step answered. -/
inductive SettingsOutcome where
  | done
  | setting (s : ChannelSetting)
  | image (bytes : List UInt8)
  | refused (e : SettingsError)
  | badImage (e : ImageError)
  deriving Repr, Inhabited

/-- Apply a change that may be refused; a refusal leaves the bank as it was. -/
def change (b : Bank) : Except SettingsError Bank → Bank × SettingsOutcome
  | .ok b' => (b', .done)
  | .error e => (b, .refused e)

/-- The bank after a step, and the step's outcome. -/
def SettingsStep.run (b : Bank) : SettingsStep → Bank × SettingsOutcome
  | .start sel => change b (b.start sel)
  | .stop sel => change b (b.stop sel)
  | .setVoltage c v => change b (b.setVoltage c v)
  | .setTimes c t => change b (b.setTimes c t)
  | .setDelta c d => change b (b.setDelta c d)
  | .setRepeatCount c n => change b (b.setRepeatCount c n)
  | .query c =>
    match b.query c with
    | .ok s => (b, .setting s)
    | .error e => (b, .refused e)
  | .toImage => (b, .image b.toImage)
  | .loadImage bytes =>
    match Bank.ofImage b.size bytes with
    | .ok b' => (b', .done)
    | .error e => (b, .badImage e)
  | .poke c patch => (⟨b.channels.modify c patch.apply⟩, .done)

end Stimulator.Bench
