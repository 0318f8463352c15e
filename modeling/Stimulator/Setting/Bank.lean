import Stimulator.Setting.Basic

/-!
# The settings bank

The settings of every channel of a board, addressed by channel index. Its mutators are the
validation boundary for the command layer: each applies a change completely or rejects it and
leaves the bank as it was.

* `Select` : one channel by index, or every channel;
* `SettingsError` : a value out of bounds, or a channel the board does not have;
* `Bank.start`, `Bank.stop` : request a start (a channel already active keeps its state) or a
  stop on the selected channels;
* `Bank.setVoltage`, `Bank.setDelta` check the value before the index; `Bank.setTimes` and
  `Bank.setRepeatCount` check only the index;
* `Bank.query` : one channel's setting.
-/

namespace Stimulator

/-- Why the bank refused a change. -/
inductive SettingsError where
  /-- An amplitude above 50 or more than 10 ramp steps. -/
  | parameterOutOfBounds
  /-- The board has no channel with this index. -/
  | noSuchChannel
  deriving DecidableEq, Repr, Inhabited

/-- The channels a start or stop applies to. -/
inductive Select where
  /-- One channel by index. -/
  | one (channel : Nat)
  /-- Every channel. -/
  | all
  deriving DecidableEq, Repr, Inhabited

/-- The settings of every channel, in channel order. -/
structure Bank where
  /-- One setting per channel. -/
  channels : List ChannelSetting
  deriving DecidableEq, Repr, Inhabited

namespace Bank

/-- Number of channels. -/
def size (b : Bank) : Nat := b.channels.length

/-- A bank of `n` channels, each with the default setting. -/
def uniform (n : Nat) : Bank := ⟨List.replicate n {}⟩

/-- The setting of one channel. -/
def query (b : Bank) (channel : Nat) : Except SettingsError ChannelSetting :=
  match b.channels[channel]? with
  | some s => .ok s
  | none => .error .noSuchChannel

/-- Change one channel's setting by `f`, if the board has that channel. -/
def modify (b : Bank) (channel : Nat) (f : ChannelSetting → ChannelSetting) :
    Except SettingsError Bank :=
  if channel < b.channels.length then .ok ⟨b.channels.modify channel f⟩
  else .error .noSuchChannel

/-- Change the selected channels' settings by `f`. -/
def modifySelected (b : Bank) (sel : Select) (f : ChannelSetting → ChannelSetting) :
    Except SettingsError Bank :=
  match sel with
  | .one channel => b.modify channel f
  | .all => .ok ⟨b.channels.map f⟩

/-- A start request on an inactive channel; an active channel keeps its state, so a repeated
start does not restart its pre-wait. -/
def requestStart (s : ChannelSetting) : ChannelSetting :=
  if s.runState.isActive then s else { s with runState := .startRequested }

/-- Request a start on the selected channels. -/
def start (b : Bank) (sel : Select) : Except SettingsError Bank :=
  b.modifySelected sel requestStart

/-- Request a stop on the selected channels. -/
def stop (b : Bank) (sel : Select) : Except SettingsError Bank :=
  b.modifySelected sel fun s => { s with runState := .stopped }

/-- Set a channel's amplitudes; amplitudes above 50 are refused before the index is looked at. -/
def setVoltage (b : Bank) (channel : Nat) (v : Voltage) : Except SettingsError Bank :=
  if v.isValid then b.modify channel fun s => { s with voltage := v }
  else .error .parameterOutOfBounds

/-- Set a channel's phase times. -/
def setTimes (b : Bank) (channel : Nat) (t : PhaseTimes) : Except SettingsError Bank :=
  b.modify channel fun s => { s with times := t }

/-- Set a channel's ramp; more than 10 steps are refused before the index is looked at. -/
def setDelta (b : Bank) (channel : Nat) (d : RampDelta) : Except SettingsError Bank :=
  if d.isValid then b.modify channel fun s => { s with delta := d }
  else .error .parameterOutOfBounds

/-- Set a channel's pulse limit (0 for no limit). -/
def setRepeatCount (b : Bank) (channel : Nat) (count : UInt16) : Except SettingsError Bank :=
  b.modify channel fun s => { s with pulseLimit := count }

@[simp] theorem size_uniform (n : Nat) : (uniform n).size = n := by
  simp [uniform, size]

theorem size_modify {b b' : Bank} {channel : Nat} {f : ChannelSetting → ChannelSetting}
    (h : b.modify channel f = .ok b') : b'.size = b.size := by
  unfold modify at h
  split at h
  · cases h; simp [size]
  · cases h

theorem size_modifySelected {b b' : Bank} {sel : Select} {f : ChannelSetting → ChannelSetting}
    (h : b.modifySelected sel f = .ok b') : b'.size = b.size := by
  cases sel with
  | one channel => exact size_modify h
  | all => cases h; simp [size]

end Bank

end Stimulator
