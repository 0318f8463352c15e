import Stimulator.Proofs.Loop

/-!
# Settings changes

The six mutators of the bank (start, stop and the four setters) follow one rule, stated here for
all of them at once: `Bank.Change` is one call with its arguments and `Bank.change` the mutator it
calls.

* `Change.refusal` : a change is refused for its value first (an amplitude above 50, more than 10
  ramp steps), then for an index the board does not have;
* `Change.update` : what an accepted change does to the setting of an addressed channel; each
  change writes one field, and a start leaves an active channel as it is;
* `Bank.change_outcome` : a change fails exactly with its refusal and then leaves the bank as it
  was; otherwise it applies its update to the channels it addresses and to no other.
-/

namespace Stimulator

/-- A selection names a channel that a bank of `n` channels does not have. -/
def Select.Missing (n : Nat) : Select → Prop
  | .one c => n ≤ c
  | .all => False

instance Select.decMissing (n : Nat) : (sel : Select) → Decidable (sel.Missing n)
  | .one c => inferInstanceAs (Decidable (n ≤ c))
  | .all => inferInstanceAs (Decidable False)

namespace Bank

/-- One call of a bank mutator, with its arguments. -/
inductive Change where
  /-- Request a start on the selected channels. -/
  | start (sel : Select)
  /-- Request a stop on the selected channels. -/
  | stop (sel : Select)
  /-- Set a channel's amplitudes. -/
  | voltage (channel : Nat) (v : Voltage)
  /-- Set a channel's phase times. -/
  | times (channel : Nat) (t : PhaseTimes)
  /-- Set a channel's ramp. -/
  | delta (channel : Nat) (d : RampDelta)
  /-- Set a channel's pulse limit. -/
  | repeatCount (channel : Nat) (count : UInt16)
  deriving DecidableEq, Repr

/-- The mutator a change calls. -/
def change (b : Bank) : Change → Except SettingsError Bank
  | .start sel => b.start sel
  | .stop sel => b.stop sel
  | .voltage c v => b.setVoltage c v
  | .times c t => b.setTimes c t
  | .delta c d => b.setDelta c d
  | .repeatCount c count => b.setRepeatCount c count

namespace Change

/-- The channels a change addresses. -/
def target : Change → Select
  | .start sel => sel
  | .stop sel => sel
  | .voltage c _ => .one c
  | .times c _ => .one c
  | .delta c _ => .one c
  | .repeatCount c _ => .one c

/-- The value of a change is out of bounds: an amplitude above 50 or more than 10 ramp steps. -/
def OutOfBounds : Change → Prop
  | .start _ => False
  | .stop _ => False
  | .voltage _ v => 50 < v.positive.toNat ∨ 50 < v.negative.toNat
  | .times _ _ => False
  | .delta _ d => 10 < d.maxSteps.toNat
  | .repeatCount _ _ => False

instance decOutOfBounds : (ch : Change) → Decidable ch.OutOfBounds
  | .start _ => inferInstanceAs (Decidable False)
  | .stop _ => inferInstanceAs (Decidable False)
  | .voltage _ v => inferInstanceAs (Decidable (50 < v.positive.toNat ∨ 50 < v.negative.toNat))
  | .times _ _ => inferInstanceAs (Decidable False)
  | .delta _ d => inferInstanceAs (Decidable (10 < d.maxSteps.toNat))
  | .repeatCount _ _ => inferInstanceAs (Decidable False)

/-- Why a bank of `n` channels refuses a change, if it does: the value is looked at before the
index. -/
def refusal (ch : Change) (n : Nat) : Option SettingsError :=
  if ch.OutOfBounds then some .parameterOutOfBounds
  else if ch.target.Missing n then some .noSuchChannel
  else none

/-- What an accepted change does to the setting of a channel it addresses. -/
def update : Change → ChannelSetting → ChannelSetting
  | .start _, s =>
    if s.runState = .startRequested ∨ s.runState = .running then s
    else { s with runState := .startRequested }
  | .stop _, s => { s with runState := .stopped }
  | .voltage _ v, s => { s with voltage := v }
  | .times _ t, s => { s with times := t }
  | .delta _ d, s => { s with delta := d }
  | .repeatCount _ count, s => { s with pulseLimit := count }

/-- The bank an accepted change leaves: its update on every channel it addresses, every other
channel as it was. -/
def applied (ch : Change) (b : Bank) : Bank :=
  ⟨b.channels.mapIdx fun c s => if ch.target.Covers c then ch.update s else s⟩

end Change

theorem requestStart_eq_update (sel : Select) (s : ChannelSetting) :
    requestStart s = (Change.start sel).update s := by
  unfold requestStart Change.update
  cases hrun : s.runState <;> simp [hrun, RunState.isActive]

theorem isValid_voltage_iff {c : Nat} (v : Voltage) :
    v.isValid = true ↔ ¬(Change.voltage c v).OutOfBounds := by
  simp only [Voltage.isValid, maxLevel, Change.OutOfBounds, Bool.and_eq_true, decide_eq_true_eq,
    UInt8.le_iff_toNat_le, UInt8.reduceToNat]
  omega

theorem isValid_delta_iff {c : Nat} (d : RampDelta) :
    d.isValid = true ↔ ¬(Change.delta c d).OutOfBounds := by
  simp only [RampDelta.isValid, maxRampSteps, Change.OutOfBounds, decide_eq_true_eq,
    UInt16.le_iff_toNat_le, UInt16.reduceToNat]
  omega

/-- Changing one channel maps over the channels and changes only the one at its index. -/
theorem modify_eq_mapIdx (b : Bank) (c : Nat) (f : ChannelSetting → ChannelSetting) :
    b.modify c f = if c < b.size then .ok ⟨b.channels.mapIdx fun i s => if c = i then f s else s⟩
      else .error .noSuchChannel := by
  unfold modify size
  split
  · have hlist : b.channels.modify c f = b.channels.mapIdx fun i s => if c = i then f s else s := by
      apply List.ext_getElem
      · simp
      · intro i h₁ h₂
        simp only [List.getElem_modify, List.getElem_mapIdx]
    rw [hlist]
  · rfl

/-- Changing the selected channels is refused exactly when the selection names a channel the
board does not have; otherwise it changes the covered channels and no other. -/
theorem modifySelected_eq_mapIdx (b : Bank) (sel : Select) (f : ChannelSetting → ChannelSetting) :
    b.modifySelected sel f = if sel.Missing b.size then .error .noSuchChannel
      else .ok ⟨b.channels.mapIdx fun i s => if sel.Covers i then f s else s⟩ := by
  cases sel with
  | one c =>
    rw [modifySelected, modify_eq_mapIdx]
    by_cases hc : c < b.size
    · rw [if_pos hc, if_neg (show ¬(Select.one c).Missing b.size from Nat.not_le.mpr hc)]
      rfl
    · rw [if_neg hc, if_pos (show (Select.one c).Missing b.size from Nat.le_of_not_lt hc)]
  | all =>
    have hlist : b.channels.map f = b.channels.mapIdx fun i s => if Select.all.Covers i then f s else s := by
      apply List.ext_getElem
      · simp
      · intro i h₁ h₂
        simp [Select.Covers]
    rw [modifySelected, hlist, if_neg (show ¬Select.all.Missing b.size from id)]

/-- A change with a value out of bounds is refused as such, whatever its index. -/
theorem change_of_outOfBounds (b : Bank) {ch : Change} (h : ch.OutOfBounds) :
    b.change ch = .error .parameterOutOfBounds := by
  cases ch with
  | voltage c v => rw [change, setVoltage, if_neg (mt (isValid_voltage_iff v).mp (not_not.mpr h))]
  | delta c d => rw [change, setDelta, if_neg (mt (isValid_delta_iff d).mp (not_not.mpr h))]
  | start | stop | times | repeatCount => exact h.elim

/-- A change with its value in bounds is its update on the channels it addresses. -/
theorem change_of_inBounds (b : Bank) {ch : Change} (h : ¬ch.OutOfBounds) :
    b.change ch = b.modifySelected ch.target ch.update := by
  cases ch with
  | start sel =>
    have hupdate : requestStart = (Change.start sel).update := funext (requestStart_eq_update sel)
    rw [change, start, hupdate]
    rfl
  | stop sel => rfl
  | voltage c v => rw [change, setVoltage, if_pos ((isValid_voltage_iff v).mpr h)]; rfl
  | times c t => rfl
  | delta c d => rw [change, setDelta, if_pos ((isValid_delta_iff d).mpr h)]; rfl
  | repeatCount c count => rfl

/-- Every mutator of the bank fails exactly with the refusal of its call, and a refused call
leaves the bank as it was; an accepted one applies its update to the channels it addresses (for
a start, only to those not already active) and leaves every other channel and field as it was. -/
theorem change_outcome (b : Bank) (ch : Change) :
    (∀ e, b.change ch = .error e ↔ ch.refusal b.size = some e) ∧
    b.after (b.change ch) = if ch.refusal b.size = none then ch.applied b else b := by
  unfold Change.refusal
  by_cases hbounds : ch.OutOfBounds
  · rw [change_of_outOfBounds b hbounds]
    simp [hbounds, after]
  · rw [change_of_inBounds b hbounds, modifySelected_eq_mapIdx]
    by_cases hmissing : ch.target.Missing b.size
    · simp [hbounds, hmissing, after]
    · simp [hbounds, hmissing, after, Change.applied]

-- An amplitude out of bounds is refused even on a channel the board does not have.
example : (Bank.uniform 2).change (.voltage 5 ⟨60, 0⟩) = .error .parameterOutOfBounds := by
  rfl

end Bank

end Stimulator
