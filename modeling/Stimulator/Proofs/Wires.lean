import Stimulator.Proofs.Channel
import Stimulator.Stage.Basic

/-!
# What the pulse stage does on its wires

The engine's rig speaks of channels; the pulse stage turns each call into pin writes and bus
frames, and the rig's delays into waits. Recording the bus (`Bus.recorded`) and the delays
(`Stage.recordedRig`) gives the signal trace of a run, and this module computes it:

* `Stage.pulseSignals` : the signals of one pulse on a channel: the amplitude frame on the
  channel's digipot between its chip select going low and high, the positive phase on the
  channel's bridge, the interphase wait, the negative amplitude frame, and the negative phase
  when T3 is not zero;
* `Stage.emitPulse_recorded` : a recorded pulse is the pulse itself, and it records exactly those
  signals, on any bus, failing or not, and for any levels in the setting;
* `Stage.service_recorded` : a pass records the pulses of its channels (`Engine.pulses`), in
  channel order;
* `Stage.init_recorded` : setting the stage up deselects every digipot, then drives every pin of
  every bridge low, enables first;
* `Stage.written_pulseSignals` : a pulse writes only its own channel's pins, its digipot's chip
  select and its bridge's pins.
-/

namespace Stimulator

/-- One thing the output stage does on its wires: drive a pin, write a frame on the bus, wait. -/
inductive Signal (π : Type) where
  | pin (q : π) (high : Bool)
  | frame (bytes : List UInt8)
  | wait (ticks : UInt16)
  deriving DecidableEq, Repr

namespace Signal

variable {π : Type}

/-- The pin a signal drives, if it drives one. -/
def pinOf : Signal π → Option π
  | .pin q _ => some q
  | .frame _ => none
  | .wait _ => none

/-- The pins a run of signals drives, in order. -/
def written (xs : List (Signal π)) : List π := xs.filterMap pinOf

@[simp] theorem written_nil : written ([] : List (Signal π)) = [] := rfl

@[simp] theorem written_append (xs ys : List (Signal π)) :
    written (xs ++ ys) = written xs ++ written ys :=
  List.filterMap_append

theorem written_cons (x : Signal π) (xs : List (Signal π)) :
    written (x :: xs) = written [x] ++ written xs :=
  written_append [x] xs

@[simp] theorem written_flatMap {β : Type} (l : List β) (f : β → List (Signal π)) :
    written (l.flatMap f) = l.flatMap fun y => written (f y) := by
  induction l with
  | nil => rfl
  | cons y l ih => rw [List.flatMap_cons, written_append, ih, List.flatMap_cons]

@[simp] theorem written_map_pin (qs : List π) (v : Bool) :
    written (qs.map fun q => .pin q v) = qs := by
  induction qs with
  | nil => rfl
  | cons q qs ih => exact congrArg (q :: ·) ih

@[simp] theorem written_cons_pin (q : π) (v : Bool) (xs : List (Signal π)) :
    written (.pin q v :: xs) = q :: written xs := rfl

@[simp] theorem written_cons_frame (bytes : List UInt8) (xs : List (Signal π)) :
    written (.frame bytes :: xs) = written xs := rfl

@[simp] theorem written_cons_wait (ticks : UInt16) (xs : List (Signal π)) :
    written (.wait ticks :: xs) = written xs := rfl

end Signal

variable {σ π : Type}

/-- The bus with every pin write and every frame recorded beside the world, in order. A frame is
recorded whether it goes out or not. -/
def Bus.recorded (bus : Bus σ π) : Bus (σ × List (Signal π)) π where
  setPin q v w := (bus.setPin q v w.1, w.2 ++ [.pin q v])
  isHigh q w := bus.isHigh q w.1
  spiWrite data w := ((bus.spiWrite data w.1).1, ((bus.spiWrite data w.1).2, w.2 ++ [.frame data]))

/-- The pins a bridge owns. -/
def BridgePins.pins (p : BridgePins π) : List π := [p.enableA, p.enableB, p.directionA, p.directionB]

namespace Bridge

variable (bus : Bus σ π) (p : BridgePins π) (w : σ) (log : List (Signal π))

theorem release_recorded :
    release bus.recorded p (w, log) =
      (release bus p w, log ++ [.pin p.enableA false, .pin p.enableB false]) := by
  simp [release, Bus.recorded]

theorem drive_recorded (pol : Polarity) :
    drive bus.recorded p pol (w, log) =
      (drive bus p pol w, log ++ [.pin p.directionA (pol = .negative),
        .pin p.directionB (pol = .negative), .pin p.enableA true, .pin p.enableB true]) := by
  simp [drive, setDirection, Bus.recorded]

/-- Taking a bridge drives every one of its pins low, enables first. -/
theorem init_recorded :
    init bus.recorded p (w, log) = (init bus p w, log ++ p.pins.map fun q => .pin q false) := by
  simp [init, setDirection, release, Bus.recorded, BridgePins.pins]

end Bridge

/-- A recorded fold whose every step records its own signals records them all, in order. -/
theorem foldl_recorded {β : Type} (f : σ → β → σ) (g : β → List (Signal π))
    (F : σ × List (Signal π) → β → σ × List (Signal π))
    (hF : ∀ w log y, F (w, log) y = (f w y, log ++ g y)) (l : List β) (w : σ)
    (log : List (Signal π)) :
    l.foldl F (w, log) = (l.foldl f w, log ++ l.flatMap g) := by
  induction l generalizing w log with
  | nil => simp
  | cons y l ih => simp only [List.foldl_cons, hF, ih, List.flatMap_cons, List.append_assoc]

theorem Digipot.writeLevel_recorded (bus : Bus σ π) (cs : π) (pot : Pot) (level : UInt8) (w : σ)
    (log : List (Signal π)) :
    writeLevel bus.recorded cs pot level (w, log) =
      ((writeLevel bus cs pot level w).1, ((writeLevel bus cs pot level w).2,
        log ++ [.pin cs false, .frame [pot.command, levelToWiper level], .pin cs true])) := by
  simp [writeLevel, writeWiper, Bus.recorded]

namespace Engine

/-- The pulse of one decision, with its channel and setting: there is one exactly when the channel
is active and due to pulse. -/
def stepPulses (channel : Nat) (r : Runtime) (s : ChannelSetting) : List (Nat × ChannelSetting) :=
  if s.runState.isActive = true ∧ r.phase = .pulse then [(channel, s)] else []

/-- The pulses of the channels from `channel` on, in channel order. -/
def pulsesFrom : Nat → List Runtime → List ChannelSetting → List (Nat × ChannelSetting)
  | channel, r :: rs, s :: ss => stepPulses channel r s ++ pulsesFrom (channel + 1) rs ss
  | _, _, _ => []

/-- The pulses of one engine pass over the runtimes of `e` and the settings of `b`. -/
def pulses (e : Engine) (b : Bank) : List (Nat × ChannelSetting) :=
  pulsesFrom 0 e.runtimes b.channels

end Engine

namespace Stage

/-- The stage's rig on the recorded bus, its waits recorded too. -/
def recordedRig (bus : Bus σ π) (now : σ → UInt16) (delay : UInt16 → σ → σ) :
    Rig (Stage π × (σ × List (Signal π))) :=
  rig bus.recorded (fun w => now w.1) (fun k w => (delay k w.1, w.2 ++ [.wait k]))

/-- The frame that sets channel `c` to `level`: the command of the channel's wiper (0x11 for an
even channel, 0x12 for an odd one) and the level scaled by 5, held at 255. -/
def amplitudeFrame (c : Nat) (level : UInt8) : List UInt8 :=
  [if c % 2 = 0 then 0x11 else 0x12, UInt8.ofNat (min (5 * level.toNat) 255)]

/-- Setting channel `c` to `level`: the frame on digipot `c / 2` with its chip selected, or
nothing when the stage has no such digipot. -/
def amplitudeSignals (st : Stage π) (c : Nat) (level : UInt8) : List (Signal π) :=
  match st.digipots[c / 2]? with
  | some cs => [.pin cs false, .frame (amplitudeFrame c level), .pin cs true]
  | none => []

/-- Connecting a load: both direction pins of its bridge to the phase's level (high for the
negative phase), then both enables high. Nothing without a bridge. -/
def driveSignals (bridge : Option (BridgePins π)) (high : Bool) : List (Signal π) :=
  bridge.toList.flatMap fun p =>
    [.pin p.directionA high, .pin p.directionB high, .pin p.enableA true, .pin p.enableB true]

/-- Disconnecting a load: both enables of its bridge low. Nothing without a bridge. -/
def releaseSignals (bridge : Option (BridgePins π)) : List (Signal π) :=
  bridge.toList.flatMap fun p => [.pin p.enableA false, .pin p.enableB false]

/-- One phase: the load connected with the phase's direction, the wait, the load released. -/
def phaseSignals (bridge : Option (BridgePins π)) (high : Bool) (ticks : UInt16) :
    List (Signal π) :=
  driveSignals bridge high ++ .wait ticks :: releaseSignals bridge

/-- The signals of one pulse on channel `c` with setting `s`. -/
def pulseSignals (st : Stage π) (c : Nat) (s : ChannelSetting) : List (Signal π) :=
  amplitudeSignals st c s.voltage.positive ++ phaseSignals st.bridges[c]? false s.times.positive ++
    (if 0 < s.times.interphase then [.wait s.times.interphase] else []) ++
    amplitudeSignals st c s.voltage.negative ++
    (if 0 < s.times.negative then phaseSignals st.bridges[c]? true s.times.negative else [])

/-- The signals of a run of pulses, one after another. -/
def pulsesSignals (st : Stage π) (ps : List (Nat × ChannelSetting)) : List (Signal π) :=
  ps.flatMap fun x => pulseSignals st x.1 x.2

@[simp] theorem pulsesSignals_append (st : Stage π) (ps qs : List (Nat × ChannelSetting)) :
    pulsesSignals st (ps ++ qs) = pulsesSignals st ps ++ pulsesSignals st qs :=
  List.flatMap_append

/-- The signals of setting the stage up: every chip select high, then every pin of every bridge
low, enables first. -/
def initSignals (st : Stage π) : List (Signal π) :=
  st.digipots.map (fun cs => .pin cs true) ++
    st.bridges.flatMap fun p => p.pins.map fun q => .pin q false

/-- The pins channel `c` owns: the chip select of its digipot and the pins of its bridge. -/
def channelPins (st : Stage π) (c : Nat) : List π :=
  st.digipots[c / 2]?.toList ++ st.bridges[c]?.toList.flatMap BridgePins.pins

@[simp] theorem countFailure_digipots (ok : Bool) (st : Stage π) :
    (countFailure ok st).digipots = st.digipots := by
  cases ok <;> rfl

@[simp] theorem countFailure_bridges (ok : Bool) (st : Stage π) :
    (countFailure ok st).bridges = st.bridges := by
  cases ok <;> rfl

theorem command_potOf (c : Nat) : (potOf c).command = if c % 2 = 0 then 0x11 else 0x12 := by
  unfold potOf
  split <;> rfl

theorem levelToWiper_eq (level : UInt8) :
    Digipot.levelToWiper level = UInt8.ofNat (min (5 * level.toNat) 255) := by
  rw [Digipot.levelToWiper, Word.satMul8, Nat.mul_comm]
  rfl

@[simp] theorem setAmplitude_digipots (bus : Bus σ π) (c : Nat) (level : UInt8) (st : Stage π)
    (w : σ) : (setAmplitude bus c level st w).1.digipots = st.digipots := by
  unfold setAmplitude
  split <;> simp

@[simp] theorem setAmplitude_bridges (bus : Bus σ π) (c : Nat) (level : UInt8) (st : Stage π)
    (w : σ) : (setAmplitude bus c level st w).1.bridges = st.bridges := by
  unfold setAmplitude
  split <;> simp

@[simp] theorem amplitudeSignals_setAmplitude (bus : Bus σ π) (c' : Nat) (level' : UInt8)
    (st : Stage π) (w : σ) (c : Nat) (level : UInt8) :
    amplitudeSignals (setAmplitude bus c' level' st w).1 c level = amplitudeSignals st c level := by
  simp only [amplitudeSignals, setAmplitude_digipots]

/-- **Setting the stage up on a recorded bus** records every chip select going high, then every
bridge released with its direction pins low. -/
theorem init_recorded (bus : Bus σ π) (st : Stage π) (w : σ) (log : List (Signal π)) :
    init bus.recorded st (w, log) = (init bus st w, log ++ initSignals st) := by
  unfold init initSignals
  rw [foldl_recorded (fun w cs => Digipot.init bus cs w) (fun cs => [.pin cs true]) _
      (fun _ _ _ => rfl),
    foldl_recorded (fun w p => Bridge.init bus p w) _ _
      (fun w log p => Bridge.init_recorded bus p w log),
    List.map_eq_flatMap, List.append_assoc]

theorem written_amplitudeSignals (st : Stage π) (c : Nat) (level : UInt8) :
    Signal.written (amplitudeSignals st c level) ⊆ st.digipots[c / 2]?.toList := by
  unfold amplitudeSignals
  cases st.digipots[c / 2]? <;> simp

theorem written_phaseSignals (bridge : Option (BridgePins π)) (high : Bool) (ticks : UInt16) :
    Signal.written (phaseSignals bridge high ticks) ⊆ bridge.toList.flatMap BridgePins.pins := by
  cases bridge <;> simp [phaseSignals, driveSignals, releaseSignals, BridgePins.pins]

/-- **A pulse writes only its own channel's pins**: the chip select of its digipot and the pins of
its bridge. -/
theorem written_pulseSignals (st : Stage π) (c : Nat) (s : ChannelSetting) :
    Signal.written (pulseSignals st c s) ⊆ channelPins st c := by
  have hamp : ∀ level, Signal.written (amplitudeSignals st c level) ⊆ channelPins st c :=
    fun level =>
      List.Subset.trans (written_amplitudeSignals st c level) (List.subset_append_left _ _)
  have hphase : ∀ high ticks,
      Signal.written (phaseSignals st.bridges[c]? high ticks) ⊆ channelPins st c :=
    fun high ticks =>
      List.Subset.trans (written_phaseSignals _ high ticks) (List.subset_append_right _ _)
  simp only [pulseSignals, Signal.written_append, List.append_subset]
  split_ifs <;> simp [hamp, hphase]

/-- The signals of a pulse read only the stage's pins. -/
theorem pulseSignals_of_pins {st st' : Stage π} (hd : st'.digipots = st.digipots)
    (hb : st'.bridges = st.bridges) (c : Nat) (s : ChannelSetting) :
    pulseSignals st' c s = pulseSignals st c s := by
  simp only [pulseSignals, amplitudeSignals, hd, hb]

section Recorded

variable (bus : Bus σ π) (now : σ → UInt16) (delay : UInt16 → σ → σ)

/-- A recorded amplitude write is the write itself, with its signals beside it. -/
theorem setAmplitude_recorded (c : Nat) (level : UInt8) (st : Stage π) (w : σ)
    (log : List (Signal π)) :
    setAmplitude bus.recorded c level st (w, log) =
      ((setAmplitude bus c level st w).1,
        ((setAmplitude bus c level st w).2, log ++ amplitudeSignals st c level)) := by
  unfold setAmplitude amplitudeSignals
  cases st.digipots[c / 2]? with
  | none => simp
  | some cs => simp [Digipot.writeLevel_recorded, amplitudeFrame, command_potOf, levelToWiper_eq]

theorem drive_recorded (c : Nat) (pol : Polarity) (st : Stage π) (w : σ)
    (log : List (Signal π)) :
    drive bus.recorded c pol st (w, log) =
      (drive bus c pol st w, log ++ driveSignals st.bridges[c]? (pol = .negative)) := by
  unfold drive driveSignals
  cases st.bridges[c]? with
  | none => simp
  | some p => simp [Bridge.drive_recorded]

theorem release_recorded (c : Nat) (st : Stage π) (w : σ) (log : List (Signal π)) :
    release bus.recorded c st (w, log) =
      (release bus c st w, log ++ releaseSignals st.bridges[c]?) := by
  unfold release releaseSignals
  cases st.bridges[c]? with
  | none => simp
  | some p => simp [Bridge.release_recorded]

@[simp] theorem recordedRig_now (x : Stage π × (σ × List (Signal π))) :
    (recordedRig bus now delay).now x = now x.2.1 := rfl

@[simp] theorem recordedRig_setAmplitude (c : Nat) (level : UInt8) (st : Stage π) (w : σ)
    (log : List (Signal π)) :
    (recordedRig bus now delay).setAmplitude c level (st, (w, log)) =
      ((setAmplitude bus c level st w).1,
        ((setAmplitude bus c level st w).2, log ++ amplitudeSignals st c level)) :=
  setAmplitude_recorded bus c level st w log

@[simp] theorem recordedRig_drive (c : Nat) (pol : Polarity) (st : Stage π) (w : σ)
    (log : List (Signal π)) :
    (recordedRig bus now delay).drive c pol (st, (w, log)) =
      (st, (drive bus c pol st w, log ++ driveSignals st.bridges[c]? (pol = .negative))) :=
  congrArg (Prod.mk st) (drive_recorded bus c pol st w log)

@[simp] theorem recordedRig_release (c : Nat) (st : Stage π) (w : σ) (log : List (Signal π)) :
    (recordedRig bus now delay).release c (st, (w, log)) =
      (st, (release bus c st w, log ++ releaseSignals st.bridges[c]?)) :=
  congrArg (Prod.mk st) (release_recorded bus c st w log)

@[simp] theorem recordedRig_delay (k : UInt16) (st : Stage π) (w : σ) (log : List (Signal π)) :
    (recordedRig bus now delay).delay k (st, (w, log)) = (st, (delay k w, log ++ [.wait k])) := rfl

/-- **A recorded pulse is the pulse itself**, and the record grows by the pulse's signals. -/
theorem emitPulse_recorded (c : Nat) (s : ChannelSetting) (st : Stage π) (w : σ)
    (log : List (Signal π)) :
    Engine.emitPulse (recordedRig bus now delay) c s (st, (w, log)) =
      ((Engine.emitPulse (rig bus now delay) c s (st, w)).1,
        ((Engine.emitPulse (rig bus now delay) c s (st, w)).2, log ++ pulseSignals st c s)) := by
  by_cases h2 : 0 < s.times.interphase <;> by_cases h3 : 0 < s.times.negative <;>
    simp [Engine.emitPulse, rig, pulseSignals, phaseSignals, h2, h3]

/-- A pulse keeps the stage's pins: only the amplitude writes touch the stage, to count
failures. -/
theorem emitPulse_pins (c : Nat) (s : ChannelSetting) (st : Stage π) (w : σ) :
    (Engine.emitPulse (rig bus now delay) c s (st, w)).1.digipots = st.digipots ∧
      (Engine.emitPulse (rig bus now delay) c s (st, w)).1.bridges = st.bridges := by
  by_cases h2 : 0 < s.times.interphase <;> by_cases h3 : 0 < s.times.negative <;>
    simp [Engine.emitPulse, rig, h2, h3]

theorem step_pins (c : Nat) (t : UInt16) (r : Runtime) (s : ChannelSetting) (st : Stage π)
    (w : σ) :
    (Engine.step (rig bus now delay) c t r s (st, w)).world.1.digipots = st.digipots ∧
      (Engine.step (rig bus now delay) c t r s (st, w)).world.1.bridges = st.bridges := by
  refine Engine.step_rec (rig bus now delay) c t r s (st, w) ?inactive ?start ?clamp ?preWait
    ?running ?pulse ?interWait ?completed ?boundary
  case pulse => exact fun _ _ => emitPulse_pins ..
  all_goals intros; exact ⟨rfl, rfl⟩

/-- A recorded decision is the decision itself, and the record grows by its pulse's signals. -/
theorem step_recorded (c : Nat) (t : UInt16) (r : Runtime) (s : ChannelSetting) (st : Stage π)
    (w : σ) (log : List (Signal π)) :
    Engine.step (recordedRig bus now delay) c t r s (st, (w, log)) =
      let d := Engine.step (rig bus now delay) c t r s (st, w)
      ⟨d.runtime, d.setting,
        (d.world.1, (d.world.2, log ++ pulsesSignals st (Engine.stepPulses c r s))), d.event⟩ := by
  unfold Engine.step Engine.stepPulses
  cases hact : s.runState.isActive
  · simp [pulsesSignals]
  · cases hp : r.phase with
    | idle => by_cases hs : s.runState = .startRequested <;> simp [hs, pulsesSignals]
    | preWait =>
      by_cases hw : s.times.preWait ≤ Clock.elapsed t r.lastTransition <;>
        simp [hw, pulsesSignals]
    | pulse => simp [emitPulse_recorded, pulsesSignals, rig]
    | interWait =>
      by_cases hw : Clock.elapsed t r.lastTransition < r.currentPeriod <;> simp [hw, pulsesSignals]

theorem serviceFrom_pins (t : UInt16) (c : Nat) (rs : List Runtime) (ss : List ChannelSetting)
    (st : Stage π) (w : σ) :
    (Engine.serviceFrom (rig bus now delay) t c rs ss (st, w)).2.2.1.1.digipots = st.digipots ∧
      (Engine.serviceFrom (rig bus now delay) t c rs ss (st, w)).2.2.1.1.bridges = st.bridges := by
  induction rs generalizing c ss st w with
  | nil => cases ss <;> exact ⟨rfl, rfl⟩
  | cons r rs ih =>
    cases ss with
    | nil => exact ⟨rfl, rfl⟩
    | cons s ss =>
      obtain ⟨hd, hb⟩ := step_pins bus now delay c t r s st w
      obtain ⟨hd', hb'⟩ := ih (c + 1) ss
        (Engine.step (rig bus now delay) c t r s (st, w)).world.1
        (Engine.step (rig bus now delay) c t r s (st, w)).world.2
      exact ⟨hd'.trans hd, hb'.trans hb⟩

/-- A recorded run of decisions is the run itself, and the record grows by the signals of its
pulses, channel after channel. -/
theorem serviceFrom_recorded (t : UInt16) (c : Nat) (rs : List Runtime) (ss : List ChannelSetting)
    (st : Stage π) (w : σ) (log : List (Signal π)) :
    Engine.serviceFrom (recordedRig bus now delay) t c rs ss (st, (w, log)) =
      let p := Engine.serviceFrom (rig bus now delay) t c rs ss (st, w)
      (p.1, p.2.1, (p.2.2.1.1, (p.2.2.1.2, log ++ pulsesSignals st (Engine.pulsesFrom c rs ss))),
        p.2.2.2) := by
  induction rs generalizing c ss st w log with
  | nil => cases ss <;> simp [Engine.serviceFrom, Engine.pulsesFrom, pulsesSignals]
  | cons r rs ih =>
    cases ss with
    | nil => simp [Engine.serviceFrom, Engine.pulsesFrom, pulsesSignals]
    | cons s ss =>
      obtain ⟨hd, hb⟩ := step_pins bus now delay c t r s st w
      -- later channels pulse on the stage the decision left, which has the same pins
      have hlater : pulsesSignals (Engine.step (rig bus now delay) c t r s (st, w)).world.1
          (Engine.pulsesFrom (c + 1) rs ss) =
            pulsesSignals st (Engine.pulsesFrom (c + 1) rs ss) := by
        simp only [pulsesSignals, pulseSignals_of_pins hd hb]
      simp only [Engine.serviceFrom, Engine.pulsesFrom, step_recorded, ih, hlater, Prod.eta,
        pulsesSignals_append, List.append_assoc]

/-- **A recorded pass is the pass itself**, and the record grows by the signals of the pulses of
the pass, channel after channel. -/
theorem service_recorded (e : Engine) (b : Bank) (st : Stage π) (w : σ) (log : List (Signal π)) :
    Engine.service (recordedRig bus now delay) e b (st, (w, log)) =
      let p := Engine.service (rig bus now delay) e b (st, w)
      ⟨p.engine, p.bank, (p.world.1, (p.world.2, log ++ pulsesSignals st (Engine.pulses e b))),
        p.events⟩ := by
  simp only [Engine.service, recordedRig_now, serviceFrom_recorded, Engine.pulses]
  rfl

theorem service_pins (e : Engine) (b : Bank) (st : Stage π) (w : σ) :
    (Engine.service (rig bus now delay) e b (st, w)).world.1.digipots = st.digipots ∧
      (Engine.service (rig bus now delay) e b (st, w)).world.1.bridges = st.bridges :=
  serviceFrom_pins bus now delay _ 0 e.runtimes b.channels st w

end Recorded

end Stage

end Stimulator
