import Stimulator.Scheduler

/-!
# The output calls of the engine

The engine acts on the output stage only through its rig's world. To speak of the calls
themselves, the rig is wrapped in a recorder (`Rig.logged`) that appends each output call to a
log kept beside the world, and the terminal's link is lifted to the same world without touching
the log (`SerialLink.logged`). Both wrappers are transparent: a recorded run is the run itself,
with the log beside it.

* `Call` : an amplitude, drive or release call, with its channel;
* `Engine.pulseCalls` : the calls of one pulse; `Engine.stepCalls` : those of one decision, a
  pulse exactly when the channel is active and due to pulse; `Engine.passCalls` : those of a
  pass, channel after channel;
* `Engine.step_logged`, `Engine.service_logged` : a recorded decision or pass is the decision or
  pass itself, and the log grows by exactly its calls;
* `Terminal.poll_logged`, `Terminal.reportAll_logged` : the terminal adds nothing to the log;
* `Scheduler.calls` : what a recorder logs during one iteration of the main loop, which is the
  calls of the iteration's engine pass (`Scheduler.calls_eq`).
-/

namespace Stimulator

/-- One call of the engine on the output stage. -/
inductive Call where
  | setAmplitude (channel : Nat) (level : UInt8)
  | drive (channel : Nat) (polarity : Polarity)
  | release (channel : Nat)
  deriving DecidableEq, Repr

/-- The channel a call acts on. -/
def Call.channel : Call → Nat
  | .setAmplitude c _ => c
  | .drive c _ => c
  | .release c => c

variable {σ : Type}

/-- The rig with every output call appended to a log kept beside the world. -/
def Rig.logged (rig : Rig σ) : Rig (σ × List Call) where
  now w := rig.now w.1
  delay k w := (rig.delay k w.1, w.2)
  setAmplitude c level w := (rig.setAmplitude c level w.1, w.2 ++ [.setAmplitude c level])
  drive c p w := (rig.drive c p w.1, w.2 ++ [.drive c p])
  release c w := (rig.release c w.1, w.2 ++ [.release c])

@[simp] theorem Rig.logged_now (rig : Rig σ) (x : σ × List Call) : rig.logged.now x = rig.now x.1 :=
  rfl

/-- The link acting on the world beside the log, and leaving the log alone. -/
def SerialLink.logged (link : SerialLink σ) : SerialLink (σ × List Call) where
  tryWrite bytes w := ((link.tryWrite bytes w.1).1, ((link.tryWrite bytes w.1).2, w.2))
  tryRead w := ((link.tryRead w.1).1, ((link.tryRead w.1).2, w.2))
  overruns w := link.overruns w.1

namespace Engine

/-- The calls of one pulse on `channel`: the positive phase, the negative amplitude, and the
negative phase when T3 is not zero. -/
def pulseCalls (channel : Nat) (s : ChannelSetting) : List Call :=
  [.setAmplitude channel s.voltage.positive, .drive channel .positive, .release channel,
    .setAmplitude channel s.voltage.negative] ++
  if 0 < s.times.negative then [.drive channel .negative, .release channel] else []

/-- The calls of one decision: a pulse exactly when the channel is active and due to pulse. -/
def stepCalls (channel : Nat) (r : Runtime) (s : ChannelSetting) : List Call :=
  if s.runState.isActive = true ∧ r.phase = .pulse then pulseCalls channel s else []

/-- The calls of the channels from `channel` on, in channel order. -/
def callsFrom : Nat → List Runtime → List ChannelSetting → List Call
  | channel, r :: rs, s :: ss => stepCalls channel r s ++ callsFrom (channel + 1) rs ss
  | _, _, _ => []

/-- The calls of one engine pass over the runtimes of `e` and the settings of `b`. -/
def passCalls (e : Engine) (b : Bank) : List Call := callsFrom 0 e.runtimes b.channels

/-- What a recorder logs during one engine pass. -/
def calls (rig : Rig σ) (e : Engine) (b : Bank) (w : σ) : List Call :=
  (service rig.logged e b (w, [])).world.2

theorem channel_of_mem_pulseCalls {channel : Nat} {s : ChannelSetting} {k : Call}
    (hk : k ∈ pulseCalls channel s) : k.channel = channel := by
  unfold pulseCalls at hk
  split at hk <;> simp at hk <;> rcases hk with rfl | rfl | rfl | rfl | rfl | rfl <;> rfl

theorem count_drive_pulseCalls (channel : Nat) (s : ChannelSetting) :
    (pulseCalls channel s).count (.drive channel .positive) = 1 := by
  unfold pulseCalls
  split <;> simp

theorem channel_of_mem_stepCalls {channel : Nat} {r : Runtime} {s : ChannelSetting} {k : Call}
    (hk : k ∈ stepCalls channel r s) : k.channel = channel := by
  unfold stepCalls at hk
  split at hk
  · exact channel_of_mem_pulseCalls hk
  · cases hk

/-- A decision drives its channel positive once if it pulses, and never otherwise. -/
theorem count_drive_stepCalls (channel : Nat) (r : Runtime) (s : ChannelSetting) :
    (stepCalls channel r s).count (.drive channel .positive) =
      if s.runState.isActive = true ∧ r.phase = .pulse then 1 else 0 := by
  unfold stepCalls
  split
  · exact count_drive_pulseCalls channel s
  · rfl

theorem emitPulse_logged (rig : Rig σ) (channel : Nat) (s : ChannelSetting) (w : σ)
    (log : List Call) :
    emitPulse rig.logged channel s (w, log) = (emitPulse rig channel s w, log ++ pulseCalls channel s) := by
  unfold emitPulse pulseCalls
  by_cases h2 : 0 < s.times.interphase <;> by_cases h3 : 0 < s.times.negative <;>
    simp [h2, h3, Rig.logged]

/-- A recorded decision is the decision itself, and the log grows by its calls. -/
theorem step_logged (rig : Rig σ) (channel : Nat) (now : UInt16) (r : Runtime)
    (s : ChannelSetting) (w : σ) (log : List Call) :
    step rig.logged channel now r s (w, log) =
      let c := step rig channel now r s w
      ⟨c.runtime, c.setting, (c.world, log ++ stepCalls channel r s), c.event⟩ := by
  unfold step stepCalls
  cases hact : s.runState.isActive
  · simp
  · cases hp : r.phase with
    | idle => by_cases hs : s.runState = .startRequested <;> simp [hs]
    | preWait => by_cases hw : s.times.preWait ≤ Clock.elapsed now r.lastTransition <;> simp [hw]
    | pulse => simp [emitPulse_logged]
    | interWait =>
      by_cases hw : Clock.elapsed now r.lastTransition < r.currentPeriod <;> simp [hw]

theorem serviceFrom_logged (rig : Rig σ) (now : UInt16) (channel : Nat) (rs : List Runtime)
    (ss : List ChannelSetting) (w : σ) (log : List Call) :
    serviceFrom rig.logged now channel rs ss (w, log) =
      let p := serviceFrom rig now channel rs ss w
      (p.1, p.2.1, (p.2.2.1, log ++ callsFrom channel rs ss), p.2.2.2) := by
  induction rs generalizing channel ss w log with
  | nil => cases ss <;> simp [serviceFrom, callsFrom]
  | cons r rs ih =>
    cases ss with
    | nil => simp [serviceFrom, callsFrom]
    | cons s ss =>
      simp only [serviceFrom, callsFrom, step_logged, ih, List.append_assoc]

/-- A recorded pass is the pass itself, and the log grows by the calls of the pass. -/
theorem service_logged (rig : Rig σ) (e : Engine) (b : Bank) (w : σ) (log : List Call) :
    service rig.logged e b (w, log) =
      let p := service rig e b w
      ⟨p.engine, p.bank, (p.world, log ++ passCalls e b), p.events⟩ := by
  simp only [service, passCalls, Rig.logged_now, serviceFrom_logged]

theorem calls_eq (rig : Rig σ) (e : Engine) (b : Bank) (w : σ) :
    calls rig e b w = passCalls e b := by
  simp [calls, service_logged]

end Engine

namespace Terminal

variable (link : SerialLink σ) (log : List Call)

theorem write_logged (bytes : List UInt8) (t : Terminal) (w : σ) :
    write link.logged bytes t (w, log) = ((write link bytes t w).1, ((write link bytes t w).2, log)) :=
  rfl

theorem say_logged (pieces : List String) (t : Terminal) (w : σ) :
    say link.logged pieces t (w, log) = ((say link pieces t w).1, ((say link pieces t w).2, log)) :=
  rfl

theorem sayAll_logged (lines : List (List String)) (t : Terminal) (w : σ) :
    sayAll link.logged lines t (w, log) =
      ((sayAll link lines t w).1, ((sayAll link lines t w).2, log)) := by
  unfold sayAll
  induction lines generalizing t w with
  | nil => rfl
  | cons l ls ih =>
    simp only [List.foldl_cons]
    rw [say_logged]
    exact ih _ _

theorem applied_logged (t : Terminal) (w : σ) (r : Except SettingsError Bank) :
    applied link.logged t (w, log) r = (applied link t w r).map fun x => (x.1, x.2.1, (x.2.2, log)) := by
  cases r <;> rfl

theorem execute_logged (c : Command) (t : Terminal) (b : Bank) (e : Engine) (w : σ) :
    execute link.logged c t b e (w, log) =
      (execute link c t b e w).map fun x => (x.1, x.2.1, (x.2.2, log)) := by
  cases c with
  | help => simp only [execute, sayAll_logged]; rfl
  | state => simp only [execute, sayAll_logged]; rfl
  | query ch =>
    simp only [execute]
    cases b.query ch <;> rfl
  | start sel => exact applied_logged ..
  | stop sel => exact applied_logged ..
  | setVoltage ch v => exact applied_logged ..
  | setTimes ch v => exact applied_logged ..
  | setDelta ch v => exact applied_logged ..
  | setRepeatCount ch v => exact applied_logged ..
  | _ => rfl

theorem completeLine_logged (t : Terminal) (b : Bank) (e : Engine) (w : σ) :
    completeLine link.logged t b e (w, log) =
      ((completeLine link t b e w).1, (completeLine link t b e w).2.1,
        ((completeLine link t b e w).2.2, log)) := by
  unfold completeLine
  dsimp only
  split
  · rfl
  -- the three outcomes of parsing: refused, no command, a command carried out or refused
  · rcases Command.parse t.editor.line with err | (_ | c)
    · cases err <;> simp only [say_logged, sayAll_logged] <;> split <;> rfl
    · simp only; split <;> rfl
    · simp only [execute_logged]
      cases execute link c _ b e w
      · simp only [Except.map, say_logged]; split <;> rfl
      · simp only [Except.map]; split <;> rfl

/-- The terminal's poll adds nothing to the log. -/
theorem poll_logged (t : Terminal) (b : Bank) (e : Engine) (w : σ) :
    poll link.logged t b e (w, log) =
      ((poll link t b e w).1, (poll link t b e w).2.1, ((poll link t b e w).2.2, log)) := by
  have hread : link.logged.tryRead (w, log) = ((link.tryRead w).1, ((link.tryRead w).2, log)) := rfl
  unfold poll
  rw [hread]
  rcases link.tryRead w with ⟨_ | _ | _, w'⟩
  · dsimp only
    split <;> simp only [write_logged, completeLine_logged, writeText]
  · rfl
  · rfl

theorem reportAll_logged (events : List (Nat × Event)) (t : Terminal) (w : σ) :
    Scheduler.reportAll link.logged events t (w, log) =
      ((Scheduler.reportAll link events t w).1, ((Scheduler.reportAll link events t w).2, log)) := by
  unfold Scheduler.reportAll
  induction events generalizing t w with
  | nil => rfl
  | cons ev evs ih =>
    simp only [List.foldl_cons]
    exact ih _ _

end Terminal

namespace Scheduler

/-- A recorded iteration of the main loop is the iteration itself, and the log grows by the
calls of its engine pass. -/
theorem iterate_logged (link : SerialLink σ) (rig : Rig σ) (t : Terminal) (s : Scheduler) (w : σ)
    (log : List Call) :
    iterate link.logged rig.logged t s (w, log) =
      let i := iterate link rig t s w
      (i.1, i.2.1, (i.2.2.1, log ++ Engine.passCalls s.engine (t.poll link s.bank s.engine w).2.1),
        i.2.2.2) := by
  simp only [iterate, Terminal.poll_logged, Engine.service_logged, Terminal.reportAll_logged]

/-- What a recorder logs during one iteration of the main loop. -/
def calls (link : SerialLink σ) (rig : Rig σ) (t : Terminal) (s : Scheduler) (w : σ) : List Call :=
  (iterate link.logged rig.logged t s (w, [])).2.2.1.2

theorem calls_eq (link : SerialLink σ) (rig : Rig σ) (t : Terminal) (s : Scheduler) (w : σ) :
    calls link rig t s w = Engine.passCalls s.engine (t.poll link s.bank s.engine w).2.1 := by
  simp [calls, iterate_logged]

end Scheduler

end Stimulator
