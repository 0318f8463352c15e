import Stimulator.Proofs.Channel
import Mathlib.Tactic.SplitIfs
import Mathlib.Logic.Function.Iterate

/-!
# Waits in real time

The engine never sees real time. It reads a 16-bit counter and measures each wait by
`Clock.elapsed`, the distance forward on the circle of 65536 ticks, from a reference tick it
took at the start of the wait. Here a rig shows a real tick count modulo 65536 that never goes
back (`Rig.Clocked`), and passes follow each other in real time (`Engine.TimedRun`). The circle
distance from an earlier reading never exceeds the real time since, so a wait the engine finds
over has run out in real time, however often the counter has wrapped.

* `Clock.toNat_elapsed_ofNat`, `Clock.add_le_of_le_elapsed` : the circle distance is the real
  distance modulo 65536, so at most the real distance;
* `Phase.reference` : which reading a reference tick holds after a change of phase;
  `Engine.lastTransition_step` : every decision follows it;
* `Engine.TimedRun` : passes one after another, the settings free to change between them, and
  `TimedRun.refTime` the real time of the reading a channel's reference tick came from;
* `TimedRun.Anchored` : the reference tick is that reading, taken no later than the pass
  snapshot; once a channel has taken one, every pass keeps it so (`anchored_of_le`);
* `TimedRun.pulse_onset_not_early` : the first pulse after a start begins no earlier than the
  start's snapshot plus the pre-wait, and each later pulse no earlier than the reading after the
  pulse before it plus the period the inter-wait check compared against.
-/

namespace Stimulator

variable {σ : Type}

/-- A rig whose clock shows a real tick count modulo 65536, a count none of its actions moves
back. -/
structure Rig.Clocked (rig : Rig σ) (time : σ → Nat) : Prop where
  now_eq : ∀ w, rig.now w = UInt16.ofNat (time w)
  delay_le : ∀ n w, time w ≤ time (rig.delay n w)
  setAmplitude_le : ∀ c v w, time w ≤ time (rig.setAmplitude c v w)
  drive_le : ∀ c p w, time w ≤ time (rig.drive c p w)
  release_le : ∀ c w, time w ≤ time (rig.release c w)

namespace Clock

theorem toNat_elapsed_ofNat {a b : Nat} (h : a ≤ b) :
    (elapsed (UInt16.ofNat b) (UInt16.ofNat a)).toNat = (b - a) % 65536 := by
  rw [toNat_elapsed, UInt16.toNat_ofNat', UInt16.toNat_ofNat']
  omega

/-- A wait found over has run out in real time: the circle distance from a reading at `a` to
one at `b` is at most `b - a`. -/
theorem add_le_of_le_elapsed {a b : Nat} {x : UInt16} (h : a ≤ b)
    (hx : x ≤ elapsed (UInt16.ofNat b) (UInt16.ofNat a)) : a + x.toNat ≤ b := by
  have hd := toNat_elapsed_ofNat h
  have hx' := UInt16.le_iff_toNat_le.mp hx
  omega

/-- Within one turn of the counter the circle distance is the real one, so a later reference is
nearer. -/
theorem elapsed_le_elapsed {a a' b : Nat} (ha : a ≤ a') (hb : a' ≤ b) (hspan : b < a + 65536) :
    elapsed (UInt16.ofNat b) (UInt16.ofNat a') ≤ elapsed (UInt16.ofNat b) (UInt16.ofNat a) := by
  apply UInt16.le_iff_toNat_le.mpr
  rw [toNat_elapsed_ofNat hb, toNat_elapsed_ofNat (Nat.le_trans ha hb)]
  omega

end Clock

/-- Which reading a channel's reference holds after its phase goes from `p` to `p'`: the pass
snapshot when a pre-wait starts or a pulse is scheduled, the reading after the pulse when the
inter-wait starts, and the one it held otherwise. -/
def Phase.reference {α : Type} (p p' : Phase) (snapshot reading held : α) : α :=
  if p' = .pulse ∨ (p = .idle ∧ p' = .preWait) then snapshot
  else if p = .pulse ∧ p' = .interWait then reading
  else held

/-- The change of phase from `p` to `p'` takes a new reading. -/
def Phase.Renews (p p' : Phase) : Prop :=
  (p' = .pulse ∨ (p = .idle ∧ p' = .preWait)) ∨ (p = .pulse ∧ p' = .interWait)

theorem Phase.reference_map {α β : Type} (f : α → β) (p p' : Phase) (a b c : α) :
    f (reference p p' a b c) = reference p p' (f a) (f b) (f c) := by
  unfold reference
  split_ifs <;> rfl

theorem Phase.reference_le (p p' : Phase) {a a' b b' c c' : Nat} (ha : a ≤ a') (hb : b ≤ b')
    (hc : c ≤ c') : reference p p' a b c ≤ reference p p' a' b' c' := by
  unfold reference
  split_ifs <;> assumption

/-- A decision takes its reference tick as `Phase.reference` says, from the pass snapshot `now`
and the clock read after its pulse. -/
theorem Engine.lastTransition_step (rig : Rig σ) (channel : Nat) (now : UInt16) (r : Runtime)
    (s : ChannelSetting) (w : σ) :
    (step rig channel now r s w).runtime.lastTransition =
      Phase.reference r.phase (step rig channel now r s w).runtime.phase now
        (rig.now (step rig channel now r s w).world) r.lastTransition := by
  refine Engine.step_rec rig channel now r s w ?inactive ?start ?clamp ?preWait ?running ?pulse
    ?interWait ?completed ?boundary
  case inactive => intro; simp [Phase.reference, Runtime.reset]
  case start | clamp => intro hp _; simp [Phase.reference, hp]
  case preWait | interWait => intro _ hp _; simp [Phase.reference, hp]
  case running | boundary => intros; simp [Phase.reference]
  case pulse => intro _ hp; simp [Phase.reference, hp]
  case completed => intro _ hp _ _; simp [Phase.reference, hp]

theorem Engine.preWait_le_of_running {rig : Rig σ} {channel : Nat} {now : UInt16} {r : Runtime}
    {s : ChannelSetting} {w : σ} (h : (step rig channel now r s w).event = some .running) :
    s.times.preWait ≤ Clock.elapsed now r.lastTransition := by
  revert h
  refine Engine.step_rec rig channel now r s w ?inactive ?start ?clamp ?preWait ?running ?pulse
    ?interWait ?completed ?boundary
  case running => intro _ _ hw _; exact hw
  case inactive => intro _; dsimp only; split <;> simp
  case boundary =>
    intro _ _ _ hc
    rcases (Engine.periodBoundary_of_not_limit hc).2 with h | ⟨p, h⟩ <;> simp [h]
  all_goals intros; simp_all

theorem Engine.currentPeriod_le_of_pulse {rig : Rig σ} {channel : Nat} {now : UInt16} {r : Runtime}
    {s : ChannelSetting} {w : σ} (hp : r.phase = .interWait)
    (h : (step rig channel now r s w).runtime.phase = .pulse) :
    r.currentPeriod ≤ Clock.elapsed now r.lastTransition := by
  revert h
  refine Engine.step_rec rig channel now r s w ?inactive ?start ?clamp ?preWait ?running ?pulse
    ?interWait ?completed ?boundary
  case boundary => intro _ _ hw _ _; exact UInt16.not_lt.mp hw
  case inactive => intro _; simp [Runtime.reset]
  all_goals intros; simp_all

namespace Rig.Clocked

variable {rig : Rig σ} {time : σ → Nat} (hclk : rig.Clocked time)
include hclk

theorem time_le_emitPulse (channel : Nat) (s : ChannelSetting) (w : σ) :
    time w ≤ time (Engine.emitPulse rig channel s w) := by
  have := hclk.delay_le
  have := hclk.setAmplitude_le
  have := hclk.drive_le
  have := hclk.release_le
  unfold Engine.emitPulse
  dsimp only
  -- a pulse is a chain of output actions and delays, none of which moves time back
  split_ifs <;> grind

theorem time_le_step (channel : Nat) (now : UInt16) (r : Runtime) (s : ChannelSetting) (w : σ) :
    time w ≤ time (Engine.step rig channel now r s w).world := by
  refine Engine.step_rec rig channel now r s w ?inactive ?start ?clamp ?preWait ?running ?pulse
    ?interWait ?completed ?boundary
  case pulse => exact fun _ _ => hclk.time_le_emitPulse channel s w
  all_goals intros; exact Nat.le_refl _

theorem time_le_worldFrom (now : UInt16) (channel : Nat) (rs : List Runtime)
    (ss : List ChannelSetting) (w : σ) (i : Nat) :
    time w ≤ time (Engine.worldFrom rig now channel rs ss w i) := by
  induction rs generalizing channel ss w i with
  | nil => cases ss <;> cases i <;> simp [Engine.worldFrom]
  | cons r rs ih =>
    cases ss with
    | nil => cases i <;> simp [Engine.worldFrom]
    | cons s ss =>
      cases i with
      | zero => simp
      | succ i =>
        rw [Engine.worldFrom_cons_succ]
        exact Nat.le_trans (hclk.time_le_step channel now r s w) (ih _ _ _ _)

theorem time_worldFrom_mono (now : UInt16) (channel : Nat) (rs : List Runtime)
    (ss : List ChannelSetting) (w : σ) {i j : Nat} (h : i ≤ j) :
    time (Engine.worldFrom rig now channel rs ss w i) ≤ time (Engine.worldFrom rig now channel rs ss w j) := by
  induction rs generalizing channel ss w i j with
  | nil => cases ss <;> cases i <;> cases j <;> simp [Engine.worldFrom]
  | cons r rs ih =>
    cases ss with
    | nil => cases i <;> cases j <;> simp [Engine.worldFrom]
    | cons s ss =>
      cases i with
      | zero => rw [Engine.worldFrom_zero]; exact hclk.time_le_worldFrom _ _ _ _ _ _
      | succ i =>
        cases j with
        | zero => omega
        | succ j =>
          simp only [Engine.worldFrom_cons_succ]
          exact ih _ _ _ (by omega)

end Rig.Clocked

/-- Engine passes one after another in real time. Between passes the settings may change and
time may pass, never back. -/
structure Engine.TimedRun (rig : Rig σ) (time : σ → Nat) where
  /-- The engine each pass starts from. -/
  engine : Nat → Engine
  /-- The settings each pass reads. -/
  bank : Nat → Bank
  /-- The world each pass starts on. -/
  world : Nat → σ
  size_eq : ∀ i, (bank i).channels.length = (engine i).runtimes.length
  engine_succ : ∀ i, engine (i + 1) = (Engine.service rig (engine i) (bank i) (world i)).engine
  time_le : ∀ i, time (Engine.service rig (engine i) (bank i) (world i)).world ≤ time (world (i + 1))

/-- A rig on a bare tick count: a delay moves it on by its ticks, and the output stage takes no
time. -/
def Rig.ticks : Rig Nat where
  now t := UInt16.ofNat t
  delay k t := t + k.toNat
  setAmplitude _ _ t := t
  drive _ _ t := t
  release _ t := t

theorem Rig.ticks_clocked : Rig.ticks.Clocked id where
  now_eq _ := rfl
  delay_le _ _ := Nat.le_add_right _ _
  setAmplitude_le _ _ _ := Nat.le_refl _
  drive_le _ _ _ := Nat.le_refl _
  release_le _ _ := Nat.le_refl _

/-- One pass, then `gap` on the world it leaves. -/
def Engine.passThen (rig : Rig σ) (gap : σ → σ) (x : Engine × Bank × σ) : Engine × Bank × σ :=
  let p := service rig x.1 x.2.1 x.2.2
  (p.engine, p.bank, gap p.world)

/-- The run of an engine left alone: each pass reads the settings the one before left, and `gap`
moves the world on between passes. -/
def Engine.TimedRun.alone (rig : Rig σ) (time : σ → Nat) (gap : σ → σ)
    (hgap : ∀ w, time w ≤ time (gap w)) (e : Engine) (b : Bank) (w : σ)
    (hsize : b.channels.length = e.runtimes.length) : TimedRun rig time where
  engine i := ((passThen rig gap)^[i] (e, b, w)).1
  bank i := ((passThen rig gap)^[i] (e, b, w)).2.1
  world i := ((passThen rig gap)^[i] (e, b, w)).2.2
  size_eq i := by
    induction i with
    | zero => exact hsize
    | succ i ih =>
      rw [Function.iterate_succ_apply']
      simpa only [passThen, channels_length_service, runtimes_length_service] using ih
  engine_succ i := by rw [Function.iterate_succ_apply']; rfl
  time_le i := by rw [Function.iterate_succ_apply']; exact hgap _

namespace Engine.TimedRun

variable {rig : Rig σ} {time : σ → Nat} (run : TimedRun rig time)

def pass (i : Nat) : Pass σ := service rig (run.engine i) (run.bank i) (run.world i)

theorem alone_bank_succ (rig : Rig σ) (time : σ → Nat) (gap : σ → σ)
    (hgap : ∀ w, time w ≤ time (gap w)) (e : Engine) (b : Bank) (w : σ)
    (hsize : b.channels.length = e.runtimes.length) (i : Nat) :
    (alone rig time gap hgap e b w hsize).bank (i + 1) =
      ((alone rig time gap hgap e b w hsize).pass i).bank := by
  show ((passThen rig gap)^[i + 1] (e, b, w)).2.1 = _
  rw [Function.iterate_succ_apply']
  rfl

def decision (i c : Nat) : ChannelStep σ :=
  Engine.decision rig (run.engine i) (run.bank i) (run.world i) c

/-- The world on which channel `c` connects its positive phase when pass `i` emits its pulse:
the level for it is set, the drive comes next. -/
def onset (i c : Nat) : σ :=
  rig.setAmplitude c ((run.bank i).setting c).voltage.positive
    (worldBefore rig (run.engine i) (run.bank i) (run.world i) c)

/-- Pass `i` emits a pulse on channel `c`. -/
def Emits (i c : Nat) : Prop :=
  ((run.engine i).runtime c).phase = .pulse ∧ ((run.bank i).setting c).runState.isActive = true

/-- In pass `i` channel `c`'s inter-wait check lets its next pulse through. -/
def EndsWait (i c : Nat) : Prop :=
  ((run.engine i).runtime c).phase = .interWait ∧ ((run.engine (i + 1)).runtime c).phase = .pulse

instance (i c : Nat) : Decidable (run.Emits i c) := inferInstanceAs (Decidable (_ ∧ _))

instance (i c : Nat) : Decidable (run.EndsWait i c) := inferInstanceAs (Decidable (_ ∧ _))

/-- The real time of the reading channel `c`'s reference tick holds when pass `i` starts. Before
the first pass no reading is known, and the first snapshot stands in. -/
def refTime (c : Nat) : Nat → Nat
  | 0 => time (run.world 0)
  | i + 1 =>
    Phase.reference ((run.engine i).runtime c).phase ((run.engine (i + 1)).runtime c).phase
      (time (run.world i)) (time (run.decision i c).world) (refTime c i)

/-- Channel `c`'s reference tick at pass `i` is its reading at real time `refTime c i`, no later
than the pass snapshot. -/
def Anchored (c i : Nat) : Prop :=
  ((run.engine i).runtime c).lastTransition = UInt16.ofNat (run.refTime c i) ∧
    run.refTime c i ≤ time (run.world i)

theorem length_engine (i : Nat) : (run.engine i).runtimes.length = (run.engine 0).runtimes.length := by
  induction i with
  | zero => rfl
  | succ i ih => rw [run.engine_succ, runtimes_length_service, ih]

theorem runtime_of_le {c : Nat} (hc : (run.engine 0).runtimes.length ≤ c) (i : Nat) :
    (run.engine i).runtime c = {} :=
  Engine.runtime_of_length_le (run.length_engine i ▸ hc)

/-- A channel the engine has ends each pass as its decision leaves it. -/
theorem pass_decision {c : Nat} (hc : c < (run.engine 0).runtimes.length) (i : Nat) :
    (run.pass i).engine.runtime c = (run.decision i c).runtime ∧
      (run.pass i).bank.setting c = (run.decision i c).setting ∧
      eventsFor c (run.pass i).events = (run.decision i c).event.toList := by
  have he : c < (run.engine i).runtimes.length := run.length_engine i ▸ hc
  exact service_decision _ _ _ he (run.size_eq i ▸ he)

theorem runtime_succ {c : Nat} (hc : c < (run.engine 0).runtimes.length) (i : Nat) :
    (run.engine (i + 1)).runtime c = (run.decision i c).runtime := by
  rw [run.engine_succ]
  exact (run.pass_decision hc i).1

theorem setting_pass {c : Nat} (hc : c < (run.engine 0).runtimes.length) (i : Nat) :
    (run.pass i).bank.setting c = (run.decision i c).setting :=
  (run.pass_decision hc i).2.1

theorem eventsFor_pass {c : Nat} (hc : c < (run.engine 0).runtimes.length) (i : Nat) :
    eventsFor c (run.pass i).events = (run.decision i c).event.toList :=
  (run.pass_decision hc i).2.2

theorem eventsFor_pass_of_le {c : Nat} (hc : (run.engine 0).runtimes.length ≤ c) (i : Nat) :
    eventsFor c (run.pass i).events = [] :=
  eventsFor_service_of_le _ _ _ (run.length_engine i ▸ hc)

theorem lt_length_of_phase {c i : Nat} (h : ((run.engine i).runtime c).phase ≠ .idle) :
    c < (run.engine 0).runtimes.length :=
  Nat.lt_of_not_le fun hc => h (by rw [run.runtime_of_le hc])

/-- A channel a pass reports an event for is one the engine has, and its decision made it. -/
theorem decision_event {c i : Nat} {e : Event} (h : eventsFor c (run.pass i).events = [e]) :
    c < (run.engine 0).runtimes.length ∧ (run.decision i c).event = some e := by
  have hc : c < (run.engine 0).runtimes.length := Nat.lt_of_not_le fun hle => by
    rw [run.eventsFor_pass_of_le hle] at h
    cases h
  refine ⟨hc, ?_⟩
  rw [run.eventsFor_pass hc] at h
  cases he : (run.decision i c).event <;> simp_all

section Clocked

variable {run} (hclk : rig.Clocked time)
include hclk

theorem time_le_pass (i : Nat) : time (run.world i) ≤ time (run.pass i).world := by
  rw [pass, world_service]
  exact hclk.time_le_worldFrom _ _ _ _ _ _

theorem time_world_mono {i j : Nat} (h : i ≤ j) : time (run.world i) ≤ time (run.world j) := by
  induction h with
  | refl => exact Nat.le_refl _
  | step _ ih => exact Nat.le_trans ih (Nat.le_trans (time_le_pass hclk _) (run.time_le _))

theorem time_le_worldBefore (i c : Nat) :
    time (run.world i) ≤ time (worldBefore rig (run.engine i) (run.bank i) (run.world i) c) :=
  hclk.time_le_worldFrom _ _ _ _ _ _

theorem time_le_onset (i c : Nat) : time (run.world i) ≤ time (run.onset i c) :=
  Nat.le_trans (time_le_worldBefore hclk i c) (hclk.setAmplitude_le _ _ _)

theorem time_le_decision (i c : Nat) : time (run.world i) ≤ time (run.decision i c).world :=
  Nat.le_trans (time_le_worldBefore hclk i c) (hclk.time_le_step _ _ _ _ _)

theorem time_decision_le_succ {c : Nat} (hc : c < (run.engine 0).runtimes.length) (i : Nat) :
    time (run.decision i c).world ≤ time (run.world (i + 1)) := by
  have he : c < (run.engine i).runtimes.length := run.length_engine i ▸ hc
  have hw : time (run.decision i c).world ≤ time (run.pass i).world := by
    rw [decision, decision_world _ _ _ he (run.size_eq i ▸ he), pass, world_service]
    exact hclk.time_worldFrom_mono _ _ _ _ _ he
  exact Nat.le_trans hw (run.time_le i)

/-- Within a pass, a channel's pulse ends no later than a later channel's begins. -/
theorem time_decision_le_decision {c d : Nat} (hcd : c < d) (hd : d < (run.engine 0).runtimes.length)
    (i : Nat) : time (run.decision i c).world ≤ time (run.decision i d).world := by
  have he : c < (run.engine i).runtimes.length := run.length_engine i ▸ (Nat.lt_trans hcd hd)
  have hb : time (run.decision i c).world ≤
      time (worldBefore rig (run.engine i) (run.bank i) (run.world i) d) := by
    rw [decision, decision_world _ _ _ he (run.size_eq i ▸ he)]
    exact hclk.time_worldFrom_mono _ _ _ _ _ hcd
  exact Nat.le_trans hb (hclk.time_le_step _ _ _ _ _)

/-- Every pass moves the reference tick the way `refTime` moves its reading. -/
theorem lastTransition_succ (c i : Nat) :
    ((run.engine (i + 1)).runtime c).lastTransition =
      Phase.reference ((run.engine i).runtime c).phase ((run.engine (i + 1)).runtime c).phase
        (UInt16.ofNat (time (run.world i))) (UInt16.ofNat (time (run.decision i c).world))
        ((run.engine i).runtime c).lastTransition := by
  by_cases hc : c < (run.engine 0).runtimes.length
  · rw [run.runtime_succ hc, decision, Engine.decision, lastTransition_step, hclk.now_eq, hclk.now_eq]
  · -- a channel the engine does not have stays idle and keeps its reference
    have hle : (run.engine 0).runtimes.length ≤ c := Nat.le_of_not_lt hc
    simp [run.runtime_of_le hle, Phase.reference]

/-- **Step lemma.** A channel whose reference is anchored stays anchored, and so does one whose
phase change takes a new reading; an anchored reading never goes back. -/
theorem anchored_succ {c i : Nat}
    (h : run.Anchored c i ∨
      Phase.Renews ((run.engine i).runtime c).phase ((run.engine (i + 1)).runtime c).phase) :
    run.Anchored c (i + 1) ∧ (run.Anchored c i → run.refTime c i ≤ run.refTime c (i + 1)) := by
  have hsnap : time (run.world i) ≤ time (run.world (i + 1)) :=
    Nat.le_trans (time_le_pass hclk i) (run.time_le i)
  unfold Phase.Renews at h
  refine ⟨⟨?_, ?_⟩, fun ha => ?_⟩
  · rw [lastTransition_succ hclk, refTime, Phase.reference_map UInt16.ofNat]
    unfold Phase.reference
    split_ifs with hs hr
    · rfl
    · rfl
    · exact (h.resolve_right fun h' => h'.elim hs hr).1
  · simp only [refTime]
    unfold Phase.reference
    split_ifs with hs hr
    · exact hsnap
    · -- only a pulse takes a reading, and only a channel the engine has emits one
      have hc := run.lt_length_of_phase (i := i) (c := c) (by rw [hr.1]; decide)
      exact time_decision_le_succ hclk hc i
    · exact Nat.le_trans (h.resolve_right fun h' => h'.elim hs hr).2 hsnap
  · simp only [refTime]
    unfold Phase.reference
    split_ifs
    · exact ha.2
    · exact Nat.le_trans ha.2 (time_le_decision hclk i c)
    · exact Nat.le_refl _

/-- **Run lemma.** Once anchored, a channel stays anchored, and its reading only moves forward. -/
theorem anchored_of_le {c i j : Nat} (h : run.Anchored c i) (hij : i ≤ j) :
    run.Anchored c j ∧ run.refTime c i ≤ run.refTime c j := by
  induction hij with
  | refl => exact ⟨h, Nat.le_refl _⟩
  | step _ ih =>
    obtain ⟨hj, hle⟩ := ih
    obtain ⟨hj', hmono⟩ := anchored_succ hclk (.inl hj)
    exact ⟨hj', Nat.le_trans hle (hmono hj)⟩

/-- A wait of `x` ticks that an anchored channel finds over at pass `j` began at least `x` real
ticks before the pass snapshot. -/
theorem refTime_add_le {c j : Nat} (h : run.Anchored c j) {x : UInt16}
    (hx : x ≤ Clock.elapsed (rig.now (run.world j)) ((run.engine j).runtime c).lastTransition) :
    run.refTime c j + x.toNat ≤ time (run.world j) := by
  rw [hclk.now_eq, h.1] at hx
  exact Clock.add_le_of_le_elapsed h.2 hx

/-- A start takes the pass snapshot as the channel's reading. -/
theorem anchored_of_started {c i : Nat} (h : eventsFor c (run.pass i).events = [.started]) :
    run.Anchored c (i + 1) ∧ run.refTime c (i + 1) = time (run.world i) := by
  obtain ⟨hc, hev⟩ := run.decision_event h
  obtain ⟨hp, hs⟩ := (step_started_iff _ _ _ _ _ _).mp hev
  have hp' : ((run.engine (i + 1)).runtime c).phase = .preWait := by
    rw [run.runtime_succ hc, decision, Engine.decision, step_idle_start _ _ _ _ _ _ hp hs]
  refine ⟨(anchored_succ hclk (.inr (.inl (.inr ⟨hp, hp'⟩)))).1, ?_⟩
  simp [refTime, Phase.reference, hp, hp']

/-- A pulse takes the reading right after it as the channel's reading. -/
theorem anchored_of_emits {c i : Nat} (h : run.Emits i c) :
    run.Anchored c (i + 1) ∧ run.refTime c (i + 1) = time (run.decision i c).world := by
  obtain ⟨hp, hact⟩ := h
  have hc := run.lt_length_of_phase (i := i) (by rw [hp]; decide)
  have hp' : ((run.engine (i + 1)).runtime c).phase = .interWait := by
    rw [run.runtime_succ hc, decision, Engine.decision, step_pulse _ _ _ _ _ _ hact hp]
  refine ⟨(anchored_succ hclk (.inr (.inr ⟨hp, hp'⟩))).1, ?_⟩
  simp [refTime, Phase.reference, hp, hp']

end Clocked

/-- **No pulse comes early**, in real time, from any starting tick and however often the counter
wraps. On a clocked rig, the first pulse after a start begins no earlier than the snapshot of the
pass that reported the start plus the pre-wait read when `running` was reported; every later
pulse begins no earlier than the reading taken right after the pulse before it plus the period
the inter-wait check compared against. -/
theorem pulse_onset_not_early (hclk : rig.Clocked time) (run : TimedRun rig time) (c : Nat) :
    (∀ i j k, i < j → j < k → eventsFor c (run.pass i).events = [.started] →
        eventsFor c (run.pass j).events = [.running] → run.Emits k c →
        time (run.world i) + ((run.bank j).setting c).times.preWait.toNat ≤ time (run.onset k c)) ∧
      (∀ i j k, i < j → j < k → run.Emits i c → run.EndsWait j c → run.Emits k c →
        time (run.decision i c).world + ((run.engine j).runtime c).currentPeriod.toNat ≤
          time (run.onset k c)) := by
  -- each bound: a reading anchored before the check, a wait found over against it at pass `j`,
  -- then time going on to the pulse
  have hlater : ∀ j k, j < k → time (run.world j) ≤ time (run.onset k c) := fun j k hjk =>
    Nat.le_trans (time_world_mono hclk (Nat.le_of_lt hjk)) (time_le_onset hclk k c)
  constructor
  · intro i j k hij hjk hstart hrun _
    obtain ⟨hanchor, hsnap⟩ := anchored_of_started hclk hstart
    obtain ⟨hj, hmono⟩ := anchored_of_le hclk hanchor hij
    have hwait := refTime_add_le hclk hj (preWait_le_of_running (run.decision_event hrun).2)
    calc time (run.world i) + ((run.bank j).setting c).times.preWait.toNat
        = run.refTime c (i + 1) + ((run.bank j).setting c).times.preWait.toNat := by rw [hsnap]
      _ ≤ run.refTime c j + ((run.bank j).setting c).times.preWait.toNat := Nat.add_le_add_right hmono _
      _ ≤ time (run.world j) := hwait
      _ ≤ time (run.onset k c) := hlater j k hjk
  · intro i j k hij hjk hemit hend _
    obtain ⟨hanchor, hread⟩ := anchored_of_emits hclk hemit
    obtain ⟨hj, hmono⟩ := anchored_of_le hclk hanchor hij
    obtain ⟨hp, hp'⟩ := hend
    have hc := run.lt_length_of_phase (i := j) (by rw [hp]; decide)
    rw [run.runtime_succ hc] at hp'
    have hwait := refTime_add_le hclk hj (currentPeriod_le_of_pulse hp hp')
    calc time (run.decision i c).world + ((run.engine j).runtime c).currentPeriod.toNat
        = run.refTime c (i + 1) + ((run.engine j).runtime c).currentPeriod.toNat := by rw [hread]
      _ ≤ run.refTime c j + ((run.engine j).runtime c).currentPeriod.toNat := Nat.add_le_add_right hmono _
      _ ≤ time (run.world j) := hwait
      _ ≤ time (run.onset k c) := hlater j k hjk

/-- One channel on the bare tick count, each pass a tick after the one before: a start at pass 0,
the pre-wait of 3 ticks over at pass 3, a pulse of one tick at pass 4, the period of 2 ticks over
at pass 6 and the next pulse at pass 7. -/
def ticksRun : TimedRun Rig.ticks id :=
  alone Rig.ticks id (· + 1) (fun w => Nat.le_succ w) (Engine.new 1)
    ⟨[{ runState := .startRequested, times := ⟨3, 1, 0, 0, 2⟩ }]⟩ 0 rfl

theorem pulse_onset_not_early_ticks :
    Rig.ticks.Clocked id ∧
      (eventsFor 0 (ticksRun.pass 0).events = [.started] ∧
        eventsFor 0 (ticksRun.pass 3).events = [.running] ∧ ticksRun.Emits 4 0 ∧
        ticksRun.world 0 + ((ticksRun.bank 3).setting 0).times.preWait.toNat ≤ ticksRun.onset 4 0) ∧
      (ticksRun.Emits 4 0 ∧ ticksRun.EndsWait 6 0 ∧ ticksRun.Emits 7 0 ∧
        (ticksRun.decision 4 0).world + ((ticksRun.engine 6).runtime 0).currentPeriod.toNat ≤
          ticksRun.onset 7 0) := by
  have hstart : eventsFor 0 (ticksRun.pass 0).events = [.started] := by decide +kernel
  have hrun : eventsFor 0 (ticksRun.pass 3).events = [.running] := by decide +kernel
  have h4 : ticksRun.Emits 4 0 := by decide +kernel
  have h6 : ticksRun.EndsWait 6 0 := by decide +kernel
  have h7 : ticksRun.Emits 7 0 := by decide +kernel
  have hbound := pulse_onset_not_early Rig.ticks_clocked ticksRun 0
  exact ⟨Rig.ticks_clocked, ⟨hstart, hrun, h4, hbound.1 0 3 4 (by decide) (by decide) hstart hrun h4⟩,
    ⟨h4, h6, h7, hbound.2 4 6 7 (by decide) (by decide) h4 h6 h7⟩⟩

end Engine.TimedRun

end Stimulator
