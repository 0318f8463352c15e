import Stimulator.Proofs.Calls
import Mathlib.Tactic.SplitIfs

/-!
# One channel through the engine

An engine pass runs every channel's decision in turn; a channel's decision reads only its own
runtime and setting, the pass snapshot, and after a pulse the clock. This module gives the
decision one equation per branch and then reads a pass off channel by channel.

* `Engine.step_of_inactive` … `Engine.step_interWait` : the decision of each branch;
* `Engine.step_setting` : the engine writes nothing of a setting but its run state;
* `Runtime.Settled` : idle and pre-wait channels have their counters cleared; every decision
  keeps it (`Engine.step_settled`), so every reachable engine has it (`Engine.Reachable.settled`);
* `Engine.step_started_iff` : only an idle channel with a start request reports a start;
* `Engine.step_idle_stopped`, `Engine.step_halted_iff` : after a decision an idle channel is
  stopped, and a channel left neither idle nor active is one the decision has just completed;
* `Engine.service_channel`, `Engine.passCalls_channel` : channel `c`'s runtime, setting, events
  and calls after a pass are those of its own decision.
-/

namespace Stimulator

variable {σ : Type}

/-- Channel `c`'s runtime. -/
def Engine.runtime (e : Engine) (c : Nat) : Runtime := e.runtimes.getD c {}

/-- A channel the engine does not have is idle with nothing counted. -/
theorem Engine.runtime_of_length_le {e : Engine} {c : Nat} (h : e.runtimes.length ≤ c) :
    e.runtime c = {} := by
  simp [Engine.runtime, List.getD_eq_getElem?_getD, List.getElem?_eq_none h]

/-- Channel `c`'s setting. -/
def Bank.setting (b : Bank) (c : Nat) : ChannelSetting := b.channels.getD c {}

/-- The events of channel `c` among the events of a pass, in order. -/
def eventsFor (c : Nat) (events : List (Nat × Event)) : List Event :=
  events.filterMap fun e => if e.1 = c then some e.2 else none

/-- The counters of an idle or pre-waiting channel are clear: no pulse has been emitted since
the channel was last reset. -/
def Runtime.Settled (r : Runtime) : Prop :=
  r.phase = .idle ∨ r.phase = .preWait → r.pulsesEmitted = 0 ∧ r.pulsesInPeriod = 0 ∧ r.stepsApplied = 0

theorem Runtime.settled_reset (r : Runtime) : r.reset.Settled := by
  intro _
  exact ⟨rfl, rfl, rfl⟩

theorem Runtime.settled_default : ({} : Runtime).Settled := by
  intro _
  exact ⟨rfl, rfl, rfl⟩

@[simp] theorem RunState.isActive_stopped : RunState.stopped.isActive = false := rfl
@[simp] theorem RunState.isActive_startRequested : RunState.startRequested.isActive = true := rfl
@[simp] theorem RunState.isActive_running : RunState.running.isActive = true := rfl
@[simp] theorem RunState.isActive_undefined (raw : UInt8) : (RunState.undefined raw).isActive = false := rfl

namespace Engine

section Step

variable (rig : Rig σ) (channel : Nat) (now : UInt16) (r : Runtime) (s : ChannelSetting) (w : σ)

theorem step_of_inactive (h : s.runState.isActive = false) :
    step rig channel now r s w =
      ⟨r.reset, { s with runState := .stopped }, w, if r.phase = .idle then none else some .stopped⟩ := by
  simp [step, h]

theorem step_idle_start (hp : r.phase = .idle) (hs : s.runState = .startRequested) :
    step rig channel now r s w =
      ⟨{ r with lastTransition := now, currentPeriod := s.times.period, phase := .preWait }, s, w,
        some .started⟩ := by
  simp [step, hp, hs, RunState.isActive]

theorem step_idle_running (hp : r.phase = .idle) (hs : s.runState = .running) :
    step rig channel now r s w = ⟨r, { s with runState := .stopped }, w, none⟩ := by
  simp [step, hp, hs, RunState.isActive]

theorem step_preWait_waiting (h : s.runState.isActive = true) (hp : r.phase = .preWait)
    (hw : ¬s.times.preWait ≤ Clock.elapsed now r.lastTransition) :
    step rig channel now r s w = ⟨r, s, w, none⟩ := by
  simp [step, h, hp, hw]

theorem step_preWait_elapsed (h : s.runState.isActive = true) (hp : r.phase = .preWait)
    (hw : s.times.preWait ≤ Clock.elapsed now r.lastTransition) :
    step rig channel now r s w =
      ⟨{ r with lastTransition := now, phase := .pulse }, { s with runState := .running }, w,
        some .running⟩ := by
  simp [step, h, hp, hw]

theorem step_pulse (h : s.runState.isActive = true) (hp : r.phase = .pulse) :
    step rig channel now r s w =
      ⟨{ r with
          lastTransition := rig.now (emitPulse rig channel s w)
          pulsesEmitted := Word.satAdd32 r.pulsesEmitted 1
          pulsesInPeriod := Word.satAdd32 r.pulsesInPeriod 1
          phase := .interWait }, s, emitPulse rig channel s w, none⟩ := by
  simp [step, h, hp]

theorem step_interWait_waiting (h : s.runState.isActive = true) (hp : r.phase = .interWait)
    (hw : Clock.elapsed now r.lastTransition < r.currentPeriod) :
    step rig channel now r s w = ⟨r, s, w, none⟩ := by
  simp [step, h, hp, hw]

/-- At a boundary that reaches the pulse limit the channel is stopped and stays in inter-wait;
only the next pass takes it back to idle. -/
theorem step_interWait_completed (h : s.runState.isActive = true) (hp : r.phase = .interWait)
    (hw : ¬Clock.elapsed now r.lastTransition < r.currentPeriod)
    (hc : s.pulseLimit ≠ 0 ∧ s.pulseLimit.toUInt32 ≤ r.pulsesEmitted) :
    step rig channel now r s w =
      ⟨r, { s with runState := .stopped }, w, some (.completed r.pulsesEmitted)⟩ := by
  simp [step, h, hp, hw, Ramp.periodBoundary, hc]

theorem step_interWait_next (h : s.runState.isActive = true) (hp : r.phase = .interWait)
    (hw : ¬Clock.elapsed now r.lastTransition < r.currentPeriod)
    (hc : ¬(s.pulseLimit ≠ 0 ∧ s.pulseLimit.toUInt32 ≤ r.pulsesEmitted)) :
    step rig channel now r s w =
      ⟨{ (Ramp.periodBoundary r s).1 with lastTransition := now, phase := .pulse }, s, w,
        (Ramp.periodBoundary r s).2.2⟩ := by
  have hs : (Ramp.periodBoundary r s).2.1 = s := by
    unfold Ramp.periodBoundary
    rw [if_neg hc]
    split
    · rfl
    · split <;> rfl
  simp only [step, h, hp, hw, Bool.not_true, if_false, hs, if_true]
  rfl

end Step

/-- A period boundary short of the pulse limit keeps the pulse count and reports nothing or a
new period. -/
theorem periodBoundary_of_not_limit {r : Runtime} {s : ChannelSetting}
    (hc : ¬(s.pulseLimit ≠ 0 ∧ s.pulseLimit.toUInt32 ≤ r.pulsesEmitted)) :
    (Ramp.periodBoundary r s).1.pulsesEmitted = r.pulsesEmitted ∧
      ((Ramp.periodBoundary r s).2.2 = none ∨
        ∃ p, (Ramp.periodBoundary r s).2.2 = some (.periodChanged p)) := by
  unfold Ramp.periodBoundary
  rw [if_neg hc]
  split
  · exact ⟨rfl, .inl rfl⟩
  · split
    · exact ⟨rfl, .inl rfl⟩
    · dsimp only
      split <;> exact ⟨rfl, .inr ⟨_, rfl⟩⟩

/-- The period boundary neither reads nor writes the reference tick. -/
theorem periodBoundary_lastTransition (r : Runtime) (s : ChannelSetting) (t : UInt16) :
    Ramp.periodBoundary { r with lastTransition := t } s =
      ({ (Ramp.periodBoundary r s).1 with lastTransition := t }, (Ramp.periodBoundary r s).2) := by
  unfold Ramp.periodBoundary
  dsimp only
  split_ifs <;> rfl

theorem lastTransition_periodBoundary (r : Runtime) (s : ChannelSetting) :
    (Ramp.periodBoundary r s).1.lastTransition = r.lastTransition := by
  unfold Ramp.periodBoundary
  split_ifs <;> rfl

/-- The branches of one decision, each with its guards. Every fact about a decision is proved
once per branch from this. -/
@[elab_as_elim]
theorem step_rec (rig : Rig σ) (channel : Nat) (now : UInt16) (r : Runtime) (s : ChannelSetting) (w : σ)
    {motive : ChannelStep σ → Prop}
    (inactive : s.runState.isActive = false →
      motive ⟨r.reset, { s with runState := .stopped }, w, if r.phase = .idle then none else some .stopped⟩)
    (start : r.phase = .idle → s.runState = .startRequested →
      motive ⟨{ r with lastTransition := now, currentPeriod := s.times.period, phase := .preWait }, s, w,
        some .started⟩)
    (clamp : r.phase = .idle → s.runState = .running → motive ⟨r, { s with runState := .stopped }, w, none⟩)
    (preWait : s.runState.isActive = true → r.phase = .preWait →
      ¬s.times.preWait ≤ Clock.elapsed now r.lastTransition → motive ⟨r, s, w, none⟩)
    (running : s.runState.isActive = true → r.phase = .preWait →
      s.times.preWait ≤ Clock.elapsed now r.lastTransition →
      motive ⟨{ r with lastTransition := now, phase := .pulse }, { s with runState := .running }, w,
        some .running⟩)
    (pulse : s.runState.isActive = true → r.phase = .pulse →
      motive ⟨{ r with
          lastTransition := rig.now (emitPulse rig channel s w)
          pulsesEmitted := Word.satAdd32 r.pulsesEmitted 1
          pulsesInPeriod := Word.satAdd32 r.pulsesInPeriod 1
          phase := .interWait }, s, emitPulse rig channel s w, none⟩)
    (interWait : s.runState.isActive = true → r.phase = .interWait →
      Clock.elapsed now r.lastTransition < r.currentPeriod → motive ⟨r, s, w, none⟩)
    (completed : s.runState.isActive = true → r.phase = .interWait →
      ¬Clock.elapsed now r.lastTransition < r.currentPeriod →
      s.pulseLimit ≠ 0 ∧ s.pulseLimit.toUInt32 ≤ r.pulsesEmitted →
      motive ⟨r, { s with runState := .stopped }, w, some (.completed r.pulsesEmitted)⟩)
    (boundary : s.runState.isActive = true → r.phase = .interWait →
      ¬Clock.elapsed now r.lastTransition < r.currentPeriod →
      ¬(s.pulseLimit ≠ 0 ∧ s.pulseLimit.toUInt32 ≤ r.pulsesEmitted) →
      motive ⟨{ (Ramp.periodBoundary r s).1 with lastTransition := now, phase := .pulse }, s, w,
        (Ramp.periodBoundary r s).2.2⟩) :
    motive (step rig channel now r s w) := by
  cases hact : s.runState.isActive
  · rw [step_of_inactive _ _ _ _ _ _ hact]
    exact inactive hact
  · cases hp : r.phase with
    | idle =>
      cases hs : s.runState with
      | startRequested => rw [step_idle_start _ _ _ _ _ _ hp hs]; exact start hp hs
      | running => rw [step_idle_running _ _ _ _ _ _ hp hs]; exact clamp hp hs
      | _ => simp [hs, RunState.isActive] at hact
    | preWait =>
      by_cases hw : s.times.preWait ≤ Clock.elapsed now r.lastTransition
      · rw [step_preWait_elapsed _ _ _ _ _ _ hact hp hw]; exact running hact hp hw
      · rw [step_preWait_waiting _ _ _ _ _ _ hact hp hw]; exact preWait hact hp hw
    | pulse => rw [step_pulse _ _ _ _ _ _ hact hp]; exact pulse hact hp
    | interWait =>
      by_cases hw : Clock.elapsed now r.lastTransition < r.currentPeriod
      · rw [step_interWait_waiting _ _ _ _ _ _ hact hp hw]; exact interWait hact hp hw
      · by_cases hc : s.pulseLimit ≠ 0 ∧ s.pulseLimit.toUInt32 ≤ r.pulsesEmitted
        · rw [step_interWait_completed _ _ _ _ _ _ hact hp hw hc]; exact completed hact hp hw hc
        · rw [step_interWait_next _ _ _ _ _ _ hact hp hw hc]; exact boundary hact hp hw hc

section Facts

variable (rig : Rig σ) (channel : Nat) (now : UInt16) (r : Runtime) (s : ChannelSetting) (w : σ)

/-- The engine writes nothing of a channel's setting but its run state. -/
theorem step_setting :
    ∃ rs, (step rig channel now r s w).setting = { s with runState := rs } := by
  refine step_rec rig channel now r s w ?_ ?_ ?_ ?_ ?_ ?_ ?_ ?_ ?_ <;> intros <;> exact ⟨_, rfl⟩

/-- Every decision keeps the counters of an idle or pre-waiting channel clear. -/
theorem step_settled (h : r.Settled) : (step rig channel now r s w).runtime.Settled := by
  refine step_rec rig channel now r s w ?inactive ?start ?clamp ?preWait ?running ?pulse ?interWait
    ?completed ?boundary
  case inactive => exact fun _ => Runtime.settled_reset r
  case start => exact fun hp _ _ => h (.inl hp)
  case clamp | preWait | interWait | completed => intros; exact h
  case running | pulse | boundary => intros; rintro (h' | h') <;> cases h'

/-- After a decision an idle channel is stopped: no decision leaves a start waiting. -/
theorem step_idle_stopped (h : (step rig channel now r s w).runtime.phase = .idle) :
    (step rig channel now r s w).setting.runState = .stopped := by
  revert h
  refine step_rec rig channel now r s w ?inactive ?start ?clamp ?preWait ?running ?pulse ?interWait
    ?completed ?boundary
  case inactive | clamp | completed => intros; rfl
  case start | running | pulse | boundary => intros _ _; simp
  case preWait | interWait => intro hact hp _ hidle; simp [hp] at hidle

/-- A decision reports a start exactly when it finds its channel idle with a start request. -/
theorem step_started_iff :
    (step rig channel now r s w).event = some .started ↔ r.phase = .idle ∧ s.runState = .startRequested := by
  refine step_rec rig channel now r s w ?inactive ?start ?clamp ?preWait ?running ?pulse ?interWait
    ?completed ?boundary
  case inactive =>
    intro hact
    -- a start request is active, so an inactive channel has none
    have hs : s.runState ≠ .startRequested := fun hs => by simp [hs] at hact
    constructor
    · dsimp only
      split <;> simp
    · exact fun h => absurd h.2 hs
  case start => intro hp hs; simp [hp, hs]
  case clamp => intro _ hs; simp [hs]
  case preWait | running | pulse | interWait | completed => intro _ hp; intros; simp [hp]
  case boundary =>
    intro _ hp _ hc
    rcases (periodBoundary_of_not_limit hc).2 with h | ⟨p, h⟩ <;> simp [hp, h]

/-- A decision leaves its channel neither idle nor active exactly when it completes the pulse
limit: the channel then waits in inter-wait for the pass that takes it back to idle. -/
theorem step_halted_iff :
    ((step rig channel now r s w).runtime.phase ≠ .idle ∧
        (step rig channel now r s w).setting.runState.isActive = false) ↔
      ∃ n, (step rig channel now r s w).event = some (.completed n) := by
  refine step_rec rig channel now r s w ?inactive ?start ?clamp ?preWait ?running ?pulse ?interWait
    ?completed ?boundary
  case inactive => intro; simp [Runtime.reset]
  case start | clamp | running => intros; simp_all [RunState.isActive]
  case preWait | pulse | interWait => intro hact; intros; simp_all
  case completed => intro _ hp; intros; simp [hp, RunState.isActive]
  case boundary =>
    intro hact _ _ hc
    constructor
    · rintro ⟨-, h⟩; simp_all
    · rintro ⟨n, hn⟩
      rcases (periodBoundary_of_not_limit hc).2 with h | ⟨p, h⟩ <;> simp [h] at hn

end Facts

/-- The world at which the `i`-th channel from `channel` on makes its decision: the world the
channels before it have left. -/
def worldFrom (rig : Rig σ) (now : UInt16) (channel : Nat) :
    List Runtime → List ChannelSetting → σ → Nat → σ
  | r :: rs, s :: ss, w, i + 1 => worldFrom rig now (channel + 1) rs ss (step rig channel now r s w).world i
  | _, _, w, _ => w

@[simp] theorem worldFrom_zero (rig : Rig σ) (now : UInt16) (channel : Nat) (rs : List Runtime)
    (ss : List ChannelSetting) (w : σ) : worldFrom rig now channel rs ss w 0 = w := by
  cases rs <;> cases ss <;> rfl

@[simp] theorem worldFrom_cons_succ (rig : Rig σ) (now : UInt16) (channel : Nat) (r : Runtime)
    (rs : List Runtime) (s : ChannelSetting) (ss : List ChannelSetting) (w : σ) (i : Nat) :
    worldFrom rig now channel (r :: rs) (s :: ss) w (i + 1) =
      worldFrom rig now (channel + 1) rs ss (step rig channel now r s w).world i := rfl

section Pass

variable {rig : Rig σ} {now : UInt16}

theorem le_of_mem_serviceFrom {channel : Nat} {rs : List Runtime} {ss : List ChannelSetting} {w : σ}
    {ev : Nat × Event} (h : ev ∈ (serviceFrom rig now channel rs ss w).2.2.2) : channel ≤ ev.1 := by
  induction rs generalizing channel ss w with
  | nil => simp [serviceFrom] at h
  | cons r rs ih =>
    cases ss with
    | nil => simp [serviceFrom] at h
    | cons s ss =>
      simp only [serviceFrom, List.mem_append] at h
      rcases h with h | h
      · cases hev : (step rig channel now r s w).event <;> simp [hev] at h
        subst h
        exact Nat.le_refl _
      · exact Nat.le_of_succ_le (ih h)

theorem lt_of_mem_serviceFrom {channel : Nat} {rs : List Runtime}
    {ss : List ChannelSetting} {w : σ} {ev : Nat × Event}
    (h : ev ∈ (serviceFrom rig now channel rs ss w).2.2.2) : ev.1 < channel + rs.length := by
  induction rs generalizing channel ss w with
  | nil => simp [serviceFrom] at h
  | cons r rs ih =>
    cases ss with
    | nil => simp [serviceFrom] at h
    | cons s ss =>
      simp only [serviceFrom, List.mem_append] at h
      rcases h with h | h
      · cases hev : (step rig channel now r s w).event <;> simp [hev] at h
        subst h
        simp
      · have := ih h
        simp only [List.length_cons]
        omega

theorem le_channel_of_mem_callsFrom {channel : Nat} {rs : List Runtime} {ss : List ChannelSetting}
    {k : Call} (h : k ∈ callsFrom channel rs ss) : channel ≤ k.channel := by
  induction rs generalizing channel ss with
  | nil => simp [callsFrom] at h
  | cons r rs ih =>
    cases ss with
    | nil => simp [callsFrom] at h
    | cons s ss =>
      simp only [callsFrom, List.mem_append] at h
      rcases h with h | h
      · exact Nat.le_of_eq (channel_of_mem_stepCalls h).symm
      · exact Nat.le_of_succ_le (ih h)

theorem length_serviceFrom (channel : Nat) (rs : List Runtime) (ss : List ChannelSetting) (w : σ) :
    (serviceFrom rig now channel rs ss w).1.length = rs.length ∧
      (serviceFrom rig now channel rs ss w).2.1.length = ss.length := by
  induction rs generalizing channel ss w with
  | nil => cases ss <;> simp [serviceFrom]
  | cons r rs ih =>
    cases ss with
    | nil => simp [serviceFrom]
    | cons s ss =>
      obtain ⟨h1, h2⟩ := ih (channel + 1) ss (step rig channel now r s w).world
      simp [serviceFrom, h1, h2]

/-- The `i`-th channel from `channel` on ends the pass as its own decision leaves it, at the world
the channels before it have left. -/
theorem serviceFrom_channel (channel i : Nat) (rs : List Runtime) (ss : List ChannelSetting) (w : σ)
    (hr : i < rs.length) (hs : i < ss.length) :
    (serviceFrom rig now channel rs ss w).1.getD i {} =
        (step rig (channel + i) now (rs.getD i {}) (ss.getD i {}) (worldFrom rig now channel rs ss w i)).runtime ∧
      (serviceFrom rig now channel rs ss w).2.1.getD i {} =
        (step rig (channel + i) now (rs.getD i {}) (ss.getD i {}) (worldFrom rig now channel rs ss w i)).setting ∧
      eventsFor (channel + i) (serviceFrom rig now channel rs ss w).2.2.2 =
        (step rig (channel + i) now (rs.getD i {}) (ss.getD i {}) (worldFrom rig now channel rs ss w i)).event.toList := by
  induction rs generalizing channel i ss w with
  | nil => cases hr
  | cons r rs ih =>
    cases ss with
    | nil => cases hs
    | cons s ss =>
      -- the later channels' events all carry larger channel numbers
      have hlater : ∀ c < channel + 1,
          eventsFor c (serviceFrom rig now (channel + 1) rs ss (step rig channel now r s w).world).2.2.2 = [] := by
        intro c hc
        simp only [eventsFor, List.filterMap_eq_nil_iff]
        intro ev hev
        have := le_of_mem_serviceFrom hev
        simp only [ite_eq_right_iff, reduceCtorEq, imp_false]
        omega
      cases i with
      | zero =>
        refine ⟨rfl, rfl, ?_⟩
        simp only [serviceFrom, eventsFor, List.filterMap_append, Nat.add_zero, worldFrom_zero] at hlater ⊢
        rw [hlater channel (Nat.lt_succ_self _)]
        cases hev : (step rig channel now r s w).event <;> simp [hev]
      | succ i =>
        obtain ⟨h1, h2, h3⟩ := ih (channel + 1) i ss (step rig channel now r s w).world
          (Nat.lt_of_succ_lt_succ hr) (Nat.lt_of_succ_lt_succ hs)
        refine ⟨?_, ?_, ?_⟩
        · simpa [serviceFrom, Nat.add_assoc, Nat.add_comm 1 i] using h1
        · simpa [serviceFrom, Nat.add_assoc, Nat.add_comm 1 i] using h2
        · have hne : channel ≠ channel + (i + 1) := by omega
          simp only [serviceFrom, eventsFor, List.filterMap_append] at h3 ⊢
          cases hev : (step rig channel now r s w).event <;>
            simpa [hne, Nat.add_assoc, Nat.add_comm 1 i] using h3

theorem worldFrom_succ (channel i : Nat) (rs : List Runtime) (ss : List ChannelSetting) (w : σ)
    (hr : i < rs.length) (hs : i < ss.length) :
    worldFrom rig now channel rs ss w (i + 1) =
      (step rig (channel + i) now (rs.getD i {}) (ss.getD i {}) (worldFrom rig now channel rs ss w i)).world := by
  induction rs generalizing channel i ss w with
  | nil => cases hr
  | cons r rs ih =>
    cases ss with
    | nil => cases hs
    | cons s ss =>
      cases i with
      | zero => simp
      | succ i =>
        rw [worldFrom_cons_succ, worldFrom_cons_succ,
          ih (channel + 1) i ss _ (by simpa using hr) (by simpa using hs)]
        simp [Nat.add_assoc, Nat.add_comm 1 i]

/-- A pass ends on the world its last channel left. -/
theorem serviceFrom_world (channel : Nat) (rs : List Runtime) (ss : List ChannelSetting) (w : σ)
    {i : Nat} (h : rs.length ≤ i) :
    (serviceFrom rig now channel rs ss w).2.2.1 = worldFrom rig now channel rs ss w i := by
  induction rs generalizing channel ss w i with
  | nil => cases ss <;> cases i <;> simp [serviceFrom, worldFrom]
  | cons r rs ih =>
    cases ss with
    | nil => cases i <;> simp [serviceFrom, worldFrom]
    | cons s ss =>
      cases i with
      | zero => simp at h
      | succ i =>
        simp only [serviceFrom, worldFrom_cons_succ]
        exact ih _ _ _ (by simpa using h)

theorem callsFrom_channel (channel i : Nat) (rs : List Runtime) (ss : List ChannelSetting)
    (hr : i < rs.length) (hs : i < ss.length) :
    (callsFrom channel rs ss).filter (fun k => k.channel = channel + i) =
      stepCalls (channel + i) (rs.getD i {}) (ss.getD i {}) := by
  induction rs generalizing channel i ss with
  | nil => cases hr
  | cons r rs ih =>
    cases ss with
    | nil => cases hs
    | cons s ss =>
      simp only [callsFrom, List.filter_append]
      cases i with
      | zero =>
        simp only [Nat.add_zero]
        have hlater : (callsFrom (channel + 1) rs ss).filter (fun k => k.channel = channel) = [] := by
          rw [List.filter_eq_nil_iff]
          intro k hk
          have := le_channel_of_mem_callsFrom hk
          simp only [decide_eq_true_eq]
          omega
        rw [hlater, List.append_nil, List.filter_eq_self.mpr]
        · rfl
        · intro k hk
          simp [channel_of_mem_stepCalls hk]
      | succ i =>
        have hmine : (stepCalls channel r s).filter (fun k => k.channel = channel + (i + 1)) = [] := by
          rw [List.filter_eq_nil_iff]
          intro k hk
          simp only [channel_of_mem_stepCalls hk, decide_eq_true_eq]
          omega
        rw [hmine, List.nil_append]
        simpa [Nat.add_assoc, Nat.add_comm 1 i] using
          ih (channel + 1) i ss (Nat.lt_of_succ_lt_succ hr) (Nat.lt_of_succ_lt_succ hs)

end Pass

variable {rig : Rig σ}

theorem runtimes_length_service (e : Engine) (b : Bank) (w : σ) :
    (service rig e b w).engine.runtimes.length = e.runtimes.length :=
  (length_serviceFrom 0 e.runtimes b.channels w).1

theorem channels_length_service (e : Engine) (b : Bank) (w : σ) :
    (service rig e b w).bank.channels.length = b.channels.length :=
  (length_serviceFrom 0 e.runtimes b.channels w).2

variable (rig) in
/-- The world at which channel `c` makes its decision in a pass. -/
def worldBefore (e : Engine) (b : Bank) (w : σ) (c : Nat) : σ :=
  worldFrom rig (rig.now w) 0 e.runtimes b.channels w c

variable (rig) in
/-- Channel `c`'s decision in a pass: at the pass snapshot, on the world the channels before it
left. -/
def decision (e : Engine) (b : Bank) (w : σ) (c : Nat) : ChannelStep σ :=
  step rig c (rig.now w) (e.runtime c) (b.setting c) (worldBefore rig e b w c)

/-- **A pass, seen from one channel**: the channel's runtime, setting and events after a pass are
those of its own decision. -/
theorem service_decision (e : Engine) (b : Bank) (w : σ) {c : Nat} (he : c < e.runtimes.length)
    (hb : c < b.channels.length) :
    (service rig e b w).engine.runtime c = (decision rig e b w c).runtime ∧
      (service rig e b w).bank.setting c = (decision rig e b w c).setting ∧
      eventsFor c (service rig e b w).events = (decision rig e b w c).event.toList := by
  simpa [service, runtime, Bank.setting, decision, worldBefore] using
    @serviceFrom_channel _ rig _ 0 c e.runtimes b.channels w he hb

/-- A channel's decision leaves the world the next channel decides on. -/
theorem decision_world (e : Engine) (b : Bank) (w : σ) {c : Nat} (he : c < e.runtimes.length)
    (hb : c < b.channels.length) :
    (decision rig e b w c).world = worldFrom rig (rig.now w) 0 e.runtimes b.channels w (c + 1) := by
  rw [worldFrom_succ 0 c _ _ w he hb]
  simp [decision, worldBefore, runtime, Bank.setting]

theorem world_service (e : Engine) (b : Bank) (w : σ) :
    (service rig e b w).world = worldFrom rig (rig.now w) 0 e.runtimes b.channels w e.runtimes.length :=
  serviceFrom_world 0 e.runtimes b.channels w (Nat.le_refl _)

theorem service_channel (e : Engine) (b : Bank) (w : σ) {c : Nat} (he : c < e.runtimes.length)
    (hb : c < b.channels.length) :
    ∃ w', (service rig e b w).engine.runtime c = (step rig c (rig.now w) (e.runtime c) (b.setting c) w').runtime ∧
      (service rig e b w).bank.setting c = (step rig c (rig.now w) (e.runtime c) (b.setting c) w').setting ∧
      eventsFor c (service rig e b w).events = (step rig c (rig.now w) (e.runtime c) (b.setting c) w').event.toList :=
  ⟨_, service_decision e b w he hb⟩

/-- A pass reports nothing for a channel the engine does not have. -/
theorem eventsFor_service_of_le (e : Engine) (b : Bank) (w : σ) {c : Nat}
    (hc : e.runtimes.length ≤ c) : eventsFor c (service rig e b w).events = [] := by
  simp only [eventsFor, List.filterMap_eq_nil_iff]
  intro ev hev
  have := lt_of_mem_serviceFrom hev
  simp only [ite_eq_right_iff, reduceCtorEq, imp_false]
  omega


theorem passCalls_channel (e : Engine) (b : Bank) {c : Nat} (he : c < e.runtimes.length)
    (hb : c < b.channels.length) :
    (passCalls e b).filter (fun k => k.channel = c) = stepCalls c (e.runtime c) (b.setting c) := by
  simpa [passCalls, runtime, Bank.setting] using callsFrom_channel 0 c e.runtimes b.channels he hb

/-- The engines that passes reach from `Engine.new`, over any settings and any worlds. -/
inductive Reachable (rig : Rig σ) : Engine → Prop
  | new (n : Nat) : Reachable rig (new n)
  | pass {e : Engine} (b : Bank) (w : σ) : Reachable rig e → Reachable rig (service rig e b w).engine

theorem settled_serviceFrom {now : UInt16} (channel : Nat) (rs : List Runtime) (ss : List ChannelSetting)
    (w : σ) (h : ∀ r ∈ rs, r.Settled) : ∀ r ∈ (serviceFrom rig now channel rs ss w).1, r.Settled := by
  induction rs generalizing channel ss w with
  | nil => cases ss <;> simp [serviceFrom]
  | cons r rs ih =>
    cases ss with
    | nil => simpa [serviceFrom] using h
    | cons s ss =>
      simp only [serviceFrom, List.mem_cons, forall_eq_or_imp] at h ⊢
      exact ⟨step_settled rig channel now r s w h.1, ih _ _ _ h.2⟩

/-- **In every reachable engine the counters of idle and pre-waiting channels are clear.** -/
theorem Reachable.settled {e : Engine} (h : Reachable rig e) (c : Nat) : (e.runtime c).Settled := by
  suffices hall : ∀ r ∈ e.runtimes, r.Settled by
    unfold runtime
    rw [List.getD_eq_getElem?_getD]
    cases hc : e.runtimes[c]? with
    | none => exact Runtime.settled_default
    | some r => exact hall r (List.mem_of_getElem? hc)
  induction h with
  | new n => simp [Engine.new, Runtime.settled_default]
  | pass b w _ ih => exact settled_serviceFrom 0 _ _ w ih

end Engine

end Stimulator
