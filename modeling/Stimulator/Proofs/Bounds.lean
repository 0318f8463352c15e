import Stimulator.Proofs.Loop
import Stimulator.Board.Firmware
import Stimulator.Config.BuildScript
import Stimulator.Proofs.Codec

/-!
# Settings stay in bounds

A setting is in bounds (`ChannelSetting.IsValid`) when both amplitudes are at most 50 and the
ramp has at most 10 steps. Nothing builds settings through one checked constructor; the bound is
kept by each way settings come to be:

* `ChannelFile.isValid_of_mem_validate`, `BuildScript.generated_run` : the defaults the build
  step writes come from channel entries whose fields are read within their bounds;
* `Bank.valid_ofImage` : every record of an image is checked before it is accepted, so
  `Persist.valid_load` and, with the board's defaults, `Persist.valid_loadOrDefault`;
* `Command.valid_applyTo` : the amplitude and ramp commands refuse values out of bounds and the
  other commands leave amplitudes and ramp alone; a poll carries out at most one command
  (`Terminal.valid_poll`);
* `Engine.valid_service` : an engine pass writes nothing but run states;
* `Firmware.settingsValid_pass` : a pass of the main task, with its store and load requests;
* `Firmware.Reachable.settingsValid` : every bank the firmware holds, from any flash content at
  power-on, through any passes and anything the host does to the board;
* `settings_stay_in_bounds` : all of these together.
-/

namespace Stimulator

/-- Every channel's amplitudes and ramp are within the bounds the operator may set. -/
def Bank.Valid (b : Bank) : Prop := ∀ s ∈ b.channels, s.IsValid

/-- A change of one item that keeps a property keeps it for every item. -/
theorem Bank.forall_mem_modify {α : Type} {P : α → Prop} {f : α → α} (hf : ∀ a, P a → P (f a)) :
    ∀ (l : List α) (i : Nat), (∀ a ∈ l, P a) → ∀ a ∈ l.modify i f, P a := by
  intro l
  induction l with
  | nil => intro i _ a ha; simp at ha
  | cons x l ih =>
    intro i h
    obtain ⟨hx, hl⟩ := List.forall_mem_cons.mp h
    cases i with
    | zero => simpa using ⟨hf x hx, hl⟩
    | succ i => simpa using ⟨hx, ih i hl⟩

namespace ChannelSetting

/-- Validity reads only the amplitudes and the ramp. -/
theorem IsValid.of_eq {s s' : ChannelSetting} (h : s.IsValid) (hv : s'.voltage = s.voltage)
    (hd : s'.delta = s.delta) : s'.IsValid := by
  unfold IsValid at *
  rw [hv, hd]
  exact h

theorem IsValid.with_voltage {s : ChannelSetting} {v : Voltage} (h : s.IsValid) (hv : v.isValid = true) :
    { s with voltage := v }.IsValid := by
  rw [← isValid_eq_true] at h ⊢
  simp only [isValid, Bool.and_eq_true] at h ⊢
  exact ⟨hv, h.2⟩

theorem IsValid.with_delta {s : ChannelSetting} {d : RampDelta} (h : s.IsValid) (hd : d.isValid = true) :
    { s with delta := d }.IsValid := by
  rw [← isValid_eq_true] at h ⊢
  simp only [isValid, Bool.and_eq_true] at h ⊢
  exact ⟨h.1, hd⟩

end ChannelSetting

namespace Bank

variable {b b' : Bank}

theorem valid_modify {ch : Nat} {f : ChannelSetting → ChannelSetting}
    (hf : ∀ s, s.IsValid → (f s).IsValid) (hb : b.Valid) (h : b.modify ch f = .ok b') : b'.Valid := by
  unfold modify at h
  split at h
  · cases h
    exact forall_mem_modify hf _ _ hb
  · cases h

theorem valid_modifySelected {sel : Select} {f : ChannelSetting → ChannelSetting}
    (hf : ∀ s, s.IsValid → (f s).IsValid) (hb : b.Valid) (h : b.modifySelected sel f = .ok b') :
    b'.Valid := by
  cases sel with
  | one ch => exact valid_modify hf hb h
  | all =>
    cases h
    intro s hs
    obtain ⟨s₀, hs₀, rfl⟩ := List.mem_map.mp hs
    exact hf s₀ (hb s₀ hs₀)

theorem valid_after {r : Except SettingsError Bank} (hb : b.Valid)
    (h : ∀ b', r = .ok b' → b'.Valid) : (b.after r).Valid := by
  cases r with
  | ok b' => exact h b' rfl
  | error _ => exact hb

end Bank

/-- **No command takes a setting out of bounds**: the amplitude and ramp commands are refused
out of bounds, and every other command leaves amplitudes and ramp as they are. -/
theorem Command.valid_applyTo (cmd : Command) {b : Bank} (hb : b.Valid) : (cmd.applyTo b).Valid := by
  -- a change that keeps amplitudes and ramp keeps validity
  have keep : ∀ {f : ChannelSetting → ChannelSetting},
      (∀ s, (f s).voltage = s.voltage ∧ (f s).delta = s.delta) → ∀ s, s.IsValid → (f s).IsValid :=
    fun hf s hs => hs.of_eq (hf s).1 (hf s).2
  cases cmd with
  | start sel =>
    refine Bank.valid_after hb fun _ h => Bank.valid_modifySelected ?_ hb h
    refine keep fun s => ?_
    unfold Bank.requestStart
    split <;> exact ⟨rfl, rfl⟩
  | stop sel =>
    refine Bank.valid_after hb fun _ h => Bank.valid_modifySelected ?_ hb h
    exact keep fun _ => ⟨rfl, rfl⟩
  | setTimes ch t =>
    refine Bank.valid_after hb fun _ h => Bank.valid_modify ?_ hb h
    exact keep fun _ => ⟨rfl, rfl⟩
  | setRepeatCount ch n =>
    refine Bank.valid_after hb fun _ h => Bank.valid_modify ?_ hb h
    exact keep fun _ => ⟨rfl, rfl⟩
  | setVoltage ch v =>
    refine Bank.valid_after hb fun _ h => ?_
    unfold Bank.setVoltage at h
    split at h
    · next hv => exact Bank.valid_modify (fun _ hs => hs.with_voltage hv) hb h
    · cases h
  | setDelta ch d =>
    refine Bank.valid_after hb fun _ h => ?_
    unfold Bank.setDelta at h
    split at h
    · next hd => exact Bank.valid_modify (fun _ hs => hs.with_delta hd) hb h
    · cases h
  | _ => exact hb

variable {σ : Type}

/-- A poll keeps the settings in bounds: it changes them only by carrying out a command. -/
theorem Terminal.valid_poll (link : SerialLink σ) (t : Terminal) {b : Bank} (e : Engine) (w : σ)
    (hb : b.Valid) : (t.poll link b e w).2.1.Valid := by
  rw [Terminal.poll_bank]
  split
  · exact Command.valid_applyTo _ hb
  · exact hb

namespace Engine

theorem valid_serviceFrom (rig : Rig σ) (now : UInt16) (channel : Nat) (rs : List Runtime)
    (ss : List ChannelSetting) (w : σ) (h : ∀ s ∈ ss, s.IsValid) :
    ∀ s ∈ (serviceFrom rig now channel rs ss w).2.1, s.IsValid := by
  induction rs generalizing channel ss w with
  | nil => cases ss <;> exact h
  | cons r rs ih =>
    cases ss with
    | nil => simp [serviceFrom]
    | cons s ss =>
      obtain ⟨hs, hss⟩ := List.forall_mem_cons.mp h
      -- the decision writes only the run state, which validity does not read
      obtain ⟨rs', hstep⟩ := step_setting rig channel now r s w
      simp only [serviceFrom, List.forall_mem_cons]
      exact ⟨hstep ▸ hs.of_eq rfl rfl, ih _ _ _ hss⟩

/-- **An engine pass keeps the settings in bounds**: it writes nothing but run states. -/
theorem valid_service (rig : Rig σ) (e : Engine) {b : Bank} (w : σ) (hb : b.Valid) :
    (service rig e b w).bank.Valid :=
  valid_serviceFrom rig _ 0 e.runtimes b.channels w hb

end Engine

theorem Scheduler.valid_iterate (link : SerialLink σ) (rig : Rig σ) (t : Terminal) {s : Scheduler}
    (w : σ) (hs : s.bank.Valid) : (Scheduler.iterate link rig t s w).2.1.bank.Valid :=
  Engine.valid_service rig _ _ (Terminal.valid_poll link t s.engine w hs)

namespace Bank

theorem valid_decodeRecords {n first : Nat} {bytes : List UInt8} {ss : List ChannelSetting}
    (h : decodeRecords n first bytes = .ok ss) : ∀ s ∈ ss, s.IsValid := by
  induction n generalizing first bytes ss with
  | zero => cases h; simp
  | succ n ih =>
    obtain ⟨ss', hrest, rfl, hs⟩ := decodeRecords_succ_eq_ok h
    exact List.forall_mem_cons.mpr ⟨hs, ih hrest⟩

/-- **A bank read from an image is in bounds**: every record is checked. -/
theorem valid_ofImage {n : Nat} {bytes : List UInt8} (h : ofImage n bytes = .ok b) : b.Valid :=
  valid_decodeRecords (ofImage_eq_ok h).2

end Bank

namespace Persist

theorem valid_defaults : defaults.Valid := by
  intro s hs
  simp only [defaults, List.mem_cons, List.not_mem_nil, or_false] at hs
  rcases hs with rfl | rfl <;> exact (ChannelSetting.isValid_eq_true _).mp rfl

theorem valid_load {board board' : Board} {bank : Bank} (h : load board = (.ok bank, board')) :
    bank.Valid := by
  unfold load loadWith at h
  cases hr : (Storage.Store.readWith .settings .channelSettings maxImageSize board.flash).1 with
  | error e => simp only [hr] at h; cases h
  | ok data =>
    simp only [hr] at h
    cases hb : Bank.ofImage channelCount data with
    | ok bank' => simp only [hb, Prod.mk.injEq, Except.ok.injEq] at h; exact h.1 ▸ Bank.valid_ofImage hb
    | error e => simp only [hb] at h; cases h

theorem valid_loadOrDefault (board : Board) : (loadOrDefault board).1.Valid := by
  unfold loadOrDefault
  split
  · next h => exact valid_load h
  · exact valid_defaults
  · exact valid_defaults

end Persist

namespace Firmware

/-- The settings the main task holds, once it has started, are in bounds. -/
def SettingsValid (f : Firmware) : Prop := ∀ t s, f.task = some (t, s) → s.bank.Valid

theorem valid_startTask (b : Board) : (startTask b).2.1.bank.Valid :=
  Persist.valid_loadOrDefault _

theorem valid_serve {r : Request} {t t' : Terminal} {s s' : Scheduler} {b b' : Board}
    (hs : s.bank.Valid) (h : serve r t s b = (.ok (t', s'), b')) : s'.bank.Valid := by
  unfold serve at h
  cases r with
  | store =>
    simp only at h
    split at h
    · cases h; exact hs
    · cases h; exact hs
    · cases h
  | load =>
    simp only at h
    split at h
    · next hl => cases h; exact Persist.valid_load hl
    · cases h; exact hs
  | reboot => cases h

/-- **A pass of the main task keeps its settings in bounds.** -/
theorem settingsValid_pass (loopMicros : Nat) {f : Firmware} (hf : f.SettingsValid) :
    (f.pass loopMicros).SettingsValid := by
  intro t' s' h
  unfold pass at h
  split at h
  · exact hf t' s' h
  · split at h
    next t s b hstart =>
    -- the scheduler the pass starts from: the task's own, or the one started on loaded settings
    have h0 : s.bank.Valid := by
      cases ht : f.task with
      | none =>
        simp only [ht] at hstart
        have := valid_startTask f.board
        rw [hstart] at this
        exact this
      | some ts =>
        simp only [ht] at hstart
        cases hstart
        exact hf _ _ ht
    split at h
    next t₁ s₁ b₁ evs hit =>
    have h1 : s₁.bank.Valid := by
      have := Scheduler.valid_iterate Board.link Board.rig t b h0
      rw [hit] at this
      exact this
    split at h
    next req t₂ htake =>
    split at h
    · cases h; exact h1
    · split at h
      · next hserve => cases h; exact valid_serve h1 hserve
      · cases h

/-- The states of the firmware: power-on with any flash content, bus and flash faults, then
passes of the main task, with the host free to change anything of the board in between (send
on the terminal line, inject faults, let time pass). -/
inductive Reachable : Firmware → Prop
  | powerOn (flash : Storage.Nor) (spiFails : Bool) (faults : Storage.Faults) :
      Reachable (powerOn flash spiFails faults)
  | pass (loopMicros : Nat) {f : Firmware} : Reachable f → Reachable (f.pass loopMicros)
  | host {f : Firmware} (board : Board) : Reachable f → Reachable { f with board := board }

/-- **Every settings bank the firmware holds is in bounds.** -/
theorem Reachable.settingsValid {f : Firmware} (h : f.Reachable) : f.SettingsValid := by
  induction h with
  | powerOn flash spiFails faults => intro _ _ h; cases h
  | pass loopMicros _ ih => exact settingsValid_pass loopMicros ih
  | host board _ ih => exact ih

end Firmware

namespace ChannelFile

/-- An integer field's value is at most its bound, also when the field is refused. -/
theorem intField_le (v : Option Toml.Value) (channel : Nat) (name : String) (max : Nat) :
    (intField v channel name max).1 ≤ max := by
  unfold intField
  split
  · split
    · next n h => omega
    · exact Nat.zero_le _
  · exact Nat.zero_le _
  · exact Nat.zero_le _

theorem toNat_ofNat_le8 (n : Nat) : (UInt8.ofNat n).toNat ≤ n := by
  rw [UInt8.toNat_ofNat']
  exact Nat.mod_le _ _

theorem toNat_ofNat_le16 (n : Nat) : (UInt16.ofNat n).toNat ≤ n := by
  rw [UInt16.toNat_ofNat']
  exact Nat.mod_le _ _

/-- A channel entry without problems gives settings in bounds. -/
theorem isValid_checkChannel {channel : Nat} {entry : Toml.Value} {s : ChannelSetting}
    (h : (checkChannel channel entry).2 = some s) : s.IsValid := by
  unfold checkChannel at h
  split at h
  · cases h
  · simp only [Option.ite_none_right_eq_some, Option.some.injEq] at h
    obtain ⟨-, rfl⟩ := h
    refine ⟨?_, ?_, ?_⟩
    · exact Nat.le_trans (toNat_ofNat_le8 _) (intField_le _ _ _ _)
    · exact Nat.le_trans (toNat_ofNat_le8 _) (intField_le _ _ _ _)
    · exact Nat.le_trans (toNat_ofNat_le16 _) (intField_le _ _ _ _)

/-- **Every channel a configuration file yields is in bounds.** -/
theorem isValid_of_mem_validate {doc : Toml.Value} {s : ChannelSetting}
    (h : s ∈ (validate doc).channels) : s.IsValid := by
  unfold validate at h
  split at h
  · obtain ⟨c, hc, hs⟩ := List.mem_filterMap.mp h
    obtain ⟨⟨e, i⟩, -, rfl⟩ := List.mem_map.mp hc
    exact isValid_checkChannel hs
  · cases h
  · cases h

end ChannelFile

/-- The defaults the build step writes are those of the channels the configuration file yields. -/
theorem BuildScript.generated_run {file : Option ByteArray} {defmt : Bool} {text : String}
    (h : (BuildScript.run file defmt).generated = some text) :
    ∃ doc, text = ChannelFile.render (ChannelFile.validate doc).channels := by
  unfold BuildScript.run at h
  split at h
  · cases h
  · split at h
    · cases h
    · split at h
      · cases h
      · next doc _ =>
        simp only at h
        split at h
        · cases h; exact ⟨doc, rfl⟩
        · cases h

/-- **Settings stay in bounds.** The defaults any accepted configuration file generates, the
board's own defaults, the settings `loadOrDefault` gives for any flash content, those a load
installs, and every bank the firmware holds in any run are in bounds on every channel. -/
theorem settings_stay_in_bounds :
    (∀ (file : Option ByteArray) (defmt : Bool) (text : String),
      (BuildScript.run file defmt).generated = some text →
        ∃ defaults : List ChannelSetting,
          text = ChannelFile.render defaults ∧ ∀ s ∈ defaults, s.IsValid) ∧
    Persist.defaults.Valid ∧
    (∀ board : Board, (Persist.loadOrDefault board).1.Valid) ∧
    (∀ (board board' : Board) (bank : Bank), Persist.load board = (.ok bank, board') → bank.Valid) ∧
    (∀ f : Firmware, f.Reachable → ∀ t s, f.task = some (t, s) → s.bank.Valid) := by
  refine ⟨?_, Persist.valid_defaults, Persist.valid_loadOrDefault, fun _ _ _ h => Persist.valid_load h,
    fun _ hf => hf.settingsValid⟩
  intro file defmt text h
  obtain ⟨doc, rfl⟩ := BuildScript.generated_run h
  exact ⟨_, rfl, fun _ hs => ChannelFile.isValid_of_mem_validate hs⟩

/-- The first pass after power-on on a blank flash holds settings in bounds. -/
theorem settings_stay_in_bounds_first_pass :
    let f := (Firmware.powerOn Storage.Nor.blank false {}).pass 100
    f.Reachable ∧ ∀ t s, f.task = some (t, s) → s.bank.Valid :=
  ⟨.pass 100 (.powerOn _ _ _), settings_stay_in_bounds.2.2.2.2 _ (.pass 100 (.powerOn _ _ _))⟩

end Stimulator
