import Stimulator.Proofs.Channel
import Mathlib.Tactic.SplitIfs

/-!
# Rollover: where the tick counter stands does not matter

The engine reads the 16-bit tick counter at the start of a pass and right after each pulse, keeps
the reading as a channel's reference tick, and measures every wait by `Clock.elapsed`, the
forward distance on the circle of 65536 ticks. It compares no reading with anything else. So moving
every reading by the same `k`, and every reference tick with it, changes nothing but the reference
ticks: the same output calls and delays, the same events and settings, pass after pass. A run
that crosses the wrap behaves as the same run far from it.

* `Runtime.shift`, `Engine.shift` : every reference tick moved by `k`;
* `Rig.shift` : the rig with every clock reading moved by `k`;
* `Clock.elapsed_add_add` : moving both ends keeps the distance;
* `Engine.step_shift`, `Engine.service_shift` : a decision and a pass commute with the shift;
* `Engine.passes` : passes one after another, the world moved before each by a change of its own;
* `Engine.passes_shift` : the whole statement, for any number of passes.
-/

namespace Stimulator

variable {σ : Type}

theorem Clock.elapsed_add_add (now earlier k : UInt16) :
    elapsed (now + k) (earlier + k) = elapsed now earlier := by
  unfold elapsed
  grind

/-- The runtime with its reference tick moved by `k`. -/
def Runtime.shift (k : UInt16) (r : Runtime) : Runtime :=
  { r with lastTransition := r.lastTransition + k }

/-- Every channel's reference tick moved by `k`. -/
def Engine.shift (k : UInt16) (e : Engine) : Engine := ⟨e.runtimes.map (Runtime.shift k)⟩

/-- The rig whose clock reads `k` ticks later than `rig`'s; it acts on the world as `rig` does. -/
def Rig.shift (k : UInt16) (rig : Rig σ) : Rig σ := { rig with now := fun w => rig.now w + k }

namespace Runtime

variable (k : UInt16) (r : Runtime)

@[simp] theorem shift_phase : (r.shift k).phase = r.phase := rfl
@[simp] theorem shift_pulsesEmitted : (r.shift k).pulsesEmitted = r.pulsesEmitted := rfl
@[simp] theorem shift_pulsesInPeriod : (r.shift k).pulsesInPeriod = r.pulsesInPeriod := rfl
@[simp] theorem shift_currentPeriod : (r.shift k).currentPeriod = r.currentPeriod := rfl
@[simp] theorem shift_lastTransition : (r.shift k).lastTransition = r.lastTransition + k := rfl

theorem reset_shift : (r.shift k).reset = r.reset.shift k := rfl

end Runtime

/-- The period boundary neither reads nor writes the reference tick. -/
theorem Ramp.periodBoundary_shift (k : UInt16) (r : Runtime) (s : ChannelSetting) :
    periodBoundary (r.shift k) s = ((periodBoundary r s).1.shift k, (periodBoundary r s).2) := by
  simp only [Runtime.shift]
  rw [Engine.periodBoundary_lastTransition, Engine.lastTransition_periodBoundary]

namespace Engine

theorem emitPulse_shift (rig : Rig σ) (k : UInt16) (channel : Nat) (s : ChannelSetting) (w : σ) :
    emitPulse (rig.shift k) channel s w = emitPulse rig channel s w := rfl

/-- **One decision commutes with the shift**: at a snapshot `k` ticks later, with the reference
tick `k` ticks later and a clock `k` ticks ahead, a decision does what it does unshifted, and
leaves its reference tick `k` ticks later. -/
theorem step_shift (rig : Rig σ) (k : UInt16) (channel : Nat) (now : UInt16) (r : Runtime)
    (s : ChannelSetting) (w : σ) :
    step (rig.shift k) channel (now + k) (r.shift k) s w =
      let c := step rig channel now r s w
      ⟨c.runtime.shift k, c.setting, c.world, c.event⟩ := by
  -- each branch of the shifted decision is the same branch of the decision itself
  have hw : Clock.elapsed (now + k) (r.shift k).lastTransition = Clock.elapsed now r.lastTransition :=
    Clock.elapsed_add_add now r.lastTransition k
  cases hact : s.runState.isActive
  · rw [step_of_inactive _ _ _ _ _ _ hact, step_of_inactive _ _ _ _ _ _ hact]
    rfl
  · cases hp : r.phase with
    | idle =>
      cases hs : s.runState with
      | startRequested =>
        rw [step_idle_start (rig.shift k) channel (now + k) (r.shift k) s w hp hs,
          step_idle_start rig channel now r s w hp hs]
        rfl
      | running =>
        rw [step_idle_running (rig.shift k) channel (now + k) (r.shift k) s w hp hs,
          step_idle_running rig channel now r s w hp hs]
      | _ => simp [hs, RunState.isActive] at hact
    | preWait =>
      by_cases hwait : s.times.preWait ≤ Clock.elapsed now r.lastTransition
      · rw [step_preWait_elapsed (rig.shift k) channel (now + k) (r.shift k) s w hact hp (by rwa [hw]),
          step_preWait_elapsed rig channel now r s w hact hp hwait]
        rfl
      · rw [step_preWait_waiting (rig.shift k) channel (now + k) (r.shift k) s w hact hp (by rwa [hw]),
          step_preWait_waiting rig channel now r s w hact hp hwait]
    | pulse =>
      rw [step_pulse (rig.shift k) channel (now + k) (r.shift k) s w hact hp,
        step_pulse rig channel now r s w hact hp]
      rfl
    | interWait =>
      by_cases hwait : Clock.elapsed now r.lastTransition < r.currentPeriod
      · rw [step_interWait_waiting (rig.shift k) channel (now + k) (r.shift k) s w hact hp (by rwa [hw]),
          step_interWait_waiting rig channel now r s w hact hp hwait]
      · by_cases hlim : s.pulseLimit ≠ 0 ∧ s.pulseLimit.toUInt32 ≤ r.pulsesEmitted
        · rw [step_interWait_completed (rig.shift k) channel (now + k) (r.shift k) s w hact hp
              (by rwa [hw]) hlim,
            step_interWait_completed rig channel now r s w hact hp hwait hlim]
          rfl
        · rw [step_interWait_next (rig.shift k) channel (now + k) (r.shift k) s w hact hp
              (by rwa [hw]) hlim,
            step_interWait_next rig channel now r s w hact hp hwait hlim, Ramp.periodBoundary_shift]
          rfl

theorem serviceFrom_shift (rig : Rig σ) (k now : UInt16) (channel : Nat) (rs : List Runtime)
    (ss : List ChannelSetting) (w : σ) :
    serviceFrom (rig.shift k) (now + k) channel (rs.map (Runtime.shift k)) ss w =
      let p := serviceFrom rig now channel rs ss w
      (p.1.map (Runtime.shift k), p.2.1, p.2.2.1, p.2.2.2) := by
  induction rs generalizing channel ss w with
  | nil => cases ss <;> rfl
  | cons r rs ih =>
    cases ss with
    | nil => rfl
    | cons s ss => simp only [List.map_cons, serviceFrom, step_shift, ih]

/-- **One pass commutes with the shift.** -/
theorem service_shift (rig : Rig σ) (k : UInt16) (e : Engine) (b : Bank) (w : σ) :
    service (rig.shift k) (e.shift k) b w =
      let p := service rig e b w
      ⟨p.engine.shift k, p.bank, p.world, p.events⟩ := by
  have hnow : (rig.shift k).now w = rig.now w + k := rfl
  simp only [service, shift, hnow, serviceFrom_shift]

/-- Passes one after another: before each, the world is moved by the next change of `gaps` (time
passing, or whatever else the board does between passes), and each pass runs on the engine and the
settings the one before left. The result is the engine, settings and world after the last pass,
and the events of each pass in turn. -/
def passes (rig : Rig σ) : List (σ → σ) → Engine → Bank → σ →
    Engine × Bank × σ × List (List (Nat × Event))
  | [], e, b, w => (e, b, w, [])
  | gap :: gaps, e, b, w =>
    let p := service rig e b (gap w)
    let (e', b', w', events) := passes rig gaps p.engine p.bank p.world
    (e', b', w', p.events :: events)

/-- **Rollover safety.** Run any passes with every clock reading moved by `k` (the pass snapshots
and the reads after a pulse alike), from the runtimes with every reference tick moved by `k`: the
world, and so every output call and delay it records, the events of every pass and the settings
come out the same, and the runtimes differ only in their reference ticks, moved by `k`. -/
theorem passes_shift (rig : Rig σ) (k : UInt16) (gaps : List (σ → σ)) (e : Engine) (b : Bank)
    (w : σ) :
    passes (rig.shift k) gaps (e.shift k) b w =
      let r := passes rig gaps e b w
      (r.1.shift k, r.2.1, r.2.2.1, r.2.2.2) := by
  induction gaps generalizing e b w with
  | nil => rfl
  | cons gap gaps ih => simp only [passes, service_shift, ih]

end Engine

end Stimulator
