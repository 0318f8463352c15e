import Stimulator.Proofs.RealTime

/-!
# Channels started together stay in order

Start every channel of an idle engine in one pass, with the same settings, and leave the settings
alone. Every channel then goes through the same cycle: the pre-wait, then pulse after pulse, each
period and ramp step decided by the same counts. Only the timing differs. In every pass a channel
decides on the world the channels before it left, so a lower channel's reading after a pulse is
never later than a higher one's, and its waits run out no later. Within one turn of the counter a
channel is never behind a higher one, so at every pass boundary before a channel reports `stopped`
the pulse counts never rise from channel 0 up.

They do not stay within one of each other: a channel can be two pulses ahead of a higher one
(`pulse_counts_spread`).

* `Runtime.untimed` : a runtime without its reference tick, what a channel has done and not when;
* `Engine.cycle` : one turn of the cycle, a decision whose wait is over, without the tick;
  `Runtime.Due` : the wait is over; an active decision is a turn or nothing
  (`Engine.step_untimed_of_due`, `Engine.step_of_not_due`);
* `TimedRun.Leads m c d` : at pass `m` channel `c` is some turns of the cycle ahead of channel
  `d`, or level with it and holding an earlier reading (`Leads.succ`);
* `TimedRun.LockStep` : what a run started together keeps, pass after pass, until a stop
  (`lockStep_one`, `LockStep.succ`, `lockStep_of_le`);
* `TimedRun.pulses_emitted_antitone` : the pulse counts at every such pass boundary.
-/

namespace Stimulator

variable {σ : Type}

/-- The runtime without its reference tick: what a channel has done, not when. -/
def Runtime.untimed (r : Runtime) : Runtime := { r with lastTransition := 0 }

@[simp] theorem Runtime.phase_untimed (r : Runtime) : r.untimed.phase = r.phase := rfl

@[simp] theorem Runtime.pulsesEmitted_untimed (r : Runtime) : r.untimed.pulsesEmitted = r.pulsesEmitted := rfl

@[simp] theorem Runtime.currentPeriod_untimed (r : Runtime) : r.untimed.currentPeriod = r.currentPeriod := rfl

/-- The wait of a channel in `r` with setting `s` is over at snapshot `now`; a channel that is
idle or about to pulse waits for nothing. -/
def Runtime.Due (r : Runtime) (s : ChannelSetting) (now : UInt16) : Prop :=
  (r.phase = .preWait → s.times.preWait ≤ Clock.elapsed now r.lastTransition) ∧
    (r.phase = .interWait → r.currentPeriod ≤ Clock.elapsed now r.lastTransition)

instance (r : Runtime) (s : ChannelSetting) (now : UInt16) : Decidable (r.Due s now) :=
  inferInstanceAs (Decidable (_ ∧ _))

/-- A runtime that differs only in its reference tick, with a wait nearer its end, is due when
the other is. -/
theorem Runtime.Due.of_nearer {r r' : Runtime} {s : ChannelSetting} {now : UInt16}
    (heq : r.untimed = r'.untimed)
    (hel : r.phase = .preWait ∨ r.phase = .interWait →
      Clock.elapsed now r'.lastTransition ≤ Clock.elapsed now r.lastTransition)
    (hd : r'.Due s now) : r.Due s now := by
  have hph : r.phase = r'.phase := by simpa using congrArg Runtime.phase heq
  have hcp : r.currentPeriod = r'.currentPeriod := by simpa using congrArg Runtime.currentPeriod heq
  refine ⟨fun hp => ?_, fun hp => ?_⟩
  · exact UInt16.le_trans (hd.1 (hph ▸ hp)) (hel (.inl hp))
  · rw [hcp]
    exact UInt16.le_trans (hd.2 (hph ▸ hp)) (hel (.inr hp))

namespace Ramp

theorem phase_periodBoundary (r : Runtime) (s : ChannelSetting) :
    (periodBoundary r s).1.phase = r.phase := by
  unfold periodBoundary
  split_ifs <;> rfl

theorem pulsesEmitted_periodBoundary (r : Runtime) (s : ChannelSetting) :
    (periodBoundary r s).1.pulsesEmitted = r.pulsesEmitted := by
  unfold periodBoundary
  split_ifs <;> rfl

theorem setting_periodBoundary {r : Runtime} {s : ChannelSetting}
    (hc : ¬(s.pulseLimit ≠ 0 ∧ s.pulseLimit.toUInt32 ≤ r.pulsesEmitted)) :
    (periodBoundary r s).2.1 = s := by
  unfold periodBoundary
  rw [if_neg hc]
  split_ifs <;> rfl

end Ramp

namespace Engine

/-- One turn of a channel's cycle: what a pass does to an active channel whose wait is over,
leaving out the reference tick. An idle channel has no cycle to turn. -/
def cycle (x : Runtime × ChannelSetting) : Runtime × ChannelSetting :=
  match x.1.phase with
  | .idle => x
  | .preWait => ({ x.1 with phase := .pulse }, { x.2 with runState := .running })
  | .pulse =>
    ({ x.1 with
        pulsesEmitted := Word.satAdd32 x.1.pulsesEmitted 1
        pulsesInPeriod := Word.satAdd32 x.1.pulsesInPeriod 1
        phase := .interWait }, x.2)
  | .interWait =>
    let b := Ramp.periodBoundary x.1 x.2
    (if b.2.1.runState.isActive then { b.1 with phase := .pulse } else b.1, b.2.1)

theorem cycle_phase_ne_idle {x : Runtime × ChannelSetting} (h : x.1.phase ≠ .idle) :
    (cycle x).1.phase ≠ .idle := by
  unfold cycle
  split
  · contradiction
  · simp
  · simp
  · dsimp only
    split <;> simp [Ramp.phase_periodBoundary, *]

theorem pulsesEmitted_le_cycle (x : Runtime × ChannelSetting) :
    x.1.pulsesEmitted.toNat ≤ (cycle x).1.pulsesEmitted.toNat := by
  unfold cycle
  split
  · exact Nat.le_refl _
  · exact Nat.le_refl _
  · dsimp only
    rw [Word.toNat_satAdd32]
    have := x.1.pulsesEmitted.toNat_lt
    simp only [UInt32.toNat_one]
    omega
  · dsimp only
    split <;> simp [Ramp.pulsesEmitted_periodBoundary]

theorem pulsesEmitted_le_iterate (k : Nat) (x : Runtime × ChannelSetting) :
    x.1.pulsesEmitted.toNat ≤ (cycle^[k] x).1.pulsesEmitted.toNat := by
  induction k with
  | zero => exact Nat.le_refl _
  | succ k ih =>
    rw [Function.iterate_succ_apply']
    exact Nat.le_trans ih (pulsesEmitted_le_cycle _)

/-- A turn of the cycle that leaves the channel active takes a new reading; only a turn that
stops the channel at its pulse limit keeps the old one. -/
theorem renews_cycle {x : Runtime × ChannelSetting} (h : x.1.phase ≠ .idle)
    (hact : (cycle x).2.runState.isActive = true) : Phase.Renews x.1.phase (cycle x).1.phase := by
  unfold cycle Phase.Renews at *
  split at *
  · contradiction
  · simp_all
  · simp_all
  · dsimp only at hact ⊢
    split <;> simp_all

section Step

variable (rig : Rig σ) (channel : Nat) (now : UInt16) (r : Runtime) (s : ChannelSetting) (w : σ)

/-- An active channel whose wait is not over is left as it is. -/
theorem step_of_not_due (h : s.runState.isActive = true) (hd : ¬r.Due s now) :
    step rig channel now r s w = ⟨r, s, w, none⟩ := by
  unfold Runtime.Due at hd
  cases hp : r.phase with
  | idle => simp [hp] at hd
  | pulse => simp [hp] at hd
  | preWait => exact step_preWait_waiting rig channel now r s w h hp (by simpa [hp] using hd)
  | interWait =>
    exact step_interWait_waiting rig channel now r s w h hp (UInt16.not_le.mp (by simpa [hp] using hd))

/-- An active channel whose wait is over turns its cycle once. -/
theorem step_untimed_of_due (h : s.runState.isActive = true) (hp : r.phase ≠ .idle)
    (hd : r.Due s now) :
    ((step rig channel now r s w).runtime.untimed, (step rig channel now r s w).setting) =
      cycle (r.untimed, s) := by
  obtain ⟨hpre, hinter⟩ := hd
  cases hph : r.phase with
  | idle => exact absurd hph hp
  | preWait =>
    rw [step_preWait_elapsed rig channel now r s w h hph (hpre hph)]
    simp [cycle, hph, Runtime.untimed]
  | pulse =>
    rw [step_pulse rig channel now r s w h hph]
    simp [cycle, hph, Runtime.untimed]
  | interWait =>
    have hw : ¬Clock.elapsed now r.lastTransition < r.currentPeriod := UInt16.not_lt.mpr (hinter hph)
    by_cases hc : s.pulseLimit ≠ 0 ∧ s.pulseLimit.toUInt32 ≤ r.pulsesEmitted
    · rw [step_interWait_completed rig channel now r s w h hph hw hc]
      simp [cycle, hph, Ramp.periodBoundary, hc, Runtime.untimed]
    · rw [step_interWait_next rig channel now r s w h hph hw hc]
      have hb : Ramp.periodBoundary r.untimed s =
          ((Ramp.periodBoundary r s).1.untimed, (Ramp.periodBoundary r s).2) :=
        periodBoundary_lastTransition r s 0
      simp only [cycle, Runtime.phase_untimed, hph, hb, Ramp.setting_periodBoundary hc, h, if_true]
      rfl

end Step

end Engine

theorem mem_of_mem_eventsFor {c : Nat} {e : Event} {events : List (Nat × Event)}
    (h : e ∈ eventsFor c events) : (c, e) ∈ events := by
  simp only [eventsFor, List.mem_filterMap] at h
  obtain ⟨ev, hev, hsome⟩ := h
  split at hsome
  · cases hsome
    rename_i hc
    rw [← hc]
    exact hev
  · cases hsome

/-- A reading that a phase change renews is no earlier than the pass snapshot. -/
theorem Phase.le_reference_of_renews {p p' : Phase} (h : p.Renews p') {a b : Nat} (hab : a ≤ b)
    (c : Nat) : a ≤ reference p p' a b c := by
  unfold Renews at h
  unfold reference
  split_ifs with h1 h2
  · exact Nat.le_refl _
  · exact hab
  · exact absurd h (fun h' => h'.elim h1 h2)

/-- A phase kept by a channel that is not about to pulse keeps its reading. -/
theorem Phase.reference_self {p : Phase} (hp : p ≠ .pulse) {α : Type} (a b c : α) :
    reference p p a b c = c := by
  cases p <;> simp_all [reference]

namespace Engine.TimedRun

variable {rig : Rig σ} {time : σ → Nat} (run : TimedRun rig time)

/-- Channel `c` at pass `m`, without its reference tick. -/
def state (m c : Nat) : Runtime × ChannelSetting :=
  (((run.engine m).runtime c).untimed, (run.bank m).setting c)

/-- At pass `m` channel `c` is `k` turns of the cycle ahead of channel `d`; level with it, it holds
a reading no later than `d`'s. -/
def Leads (m c d : Nat) : Prop :=
  ∃ k, run.state m c = cycle^[k] (run.state m d) ∧ (k = 0 → run.refTime c m ≤ run.refTime d m)

/-- What a run whose channels were started together keeps at pass `m`: every channel anchored and
busy, and each ahead of or level with every higher channel. -/
structure LockStep (m : Nat) : Prop where
  anchored : ∀ x < (run.engine 0).runtimes.length, run.Anchored x m
  busy : ∀ x < (run.engine 0).runtimes.length, ((run.engine m).runtime x).phase ≠ .idle
  leads : ∀ c d, c < d → d < (run.engine 0).runtimes.length → run.Leads m c d

/-- A busy channel of a pass that reports no stop is active. -/
theorem active_of_quiet {x m : Nat} (hx : x < (run.engine 0).runtimes.length)
    (hbusy : ((run.engine m).runtime x).phase ≠ .idle)
    (hquiet : Event.stopped ∉ (run.pass m).events.map Prod.snd) :
    ((run.bank m).setting x).runState.isActive = true := by
  cases hact : ((run.bank m).setting x).runState.isActive
  · -- an inactive busy channel is stopped, and says so
    have hev : eventsFor x (run.pass m).events = [.stopped] := by
      rw [run.eventsFor_pass hx, decision, Engine.decision, step_of_inactive _ _ _ _ _ _ hact]
      simp [hbusy]
    have hmem : (x, Event.stopped) ∈ (run.pass m).events := mem_of_mem_eventsFor (by simp [hev])
    exact absurd (List.mem_map.mpr ⟨_, hmem, rfl⟩) hquiet
  · rfl

variable {run}

/-- **One channel, one pass.** With the settings kept, an active busy channel turns its cycle
once if its wait is over, and is left as it is if not. -/
theorem state_succ {x m : Nat} (hx : x < (run.engine 0).runtimes.length)
    (hkeep : run.bank (m + 1) = (run.pass m).bank)
    (hact : ((run.bank m).setting x).runState.isActive = true)
    (hbusy : ((run.engine m).runtime x).phase ≠ .idle) :
    run.state (m + 1) x =
      if ((run.engine m).runtime x).Due ((run.bank m).setting x) (rig.now (run.world m)) then
        cycle (run.state m x)
      else run.state m x := by
  have hs : (run.bank (m + 1)).setting x = (run.decision m x).setting := by
    rw [hkeep]
    exact run.setting_pass hx m
  unfold state
  rw [run.runtime_succ hx, hs]
  split_ifs with hd
  · exact step_untimed_of_due _ _ _ _ _ _ hact hbusy hd
  · rw [decision, Engine.decision, step_of_not_due _ _ _ _ _ _ hact hd]

theorem refTime_succ_of_not_due {x m : Nat} (hx : x < (run.engine 0).runtimes.length)
    (hact : ((run.bank m).setting x).runState.isActive = true)
    (hd : ¬((run.engine m).runtime x).Due ((run.bank m).setting x) (rig.now (run.world m))) :
    run.refTime x (m + 1) = run.refTime x m := by
  have hph : ((run.engine (m + 1)).runtime x).phase = ((run.engine m).runtime x).phase := by
    rw [run.runtime_succ hx, decision, Engine.decision, step_of_not_due _ _ _ _ _ _ hact hd]
  -- a channel about to pulse is always due
  have hnp : ((run.engine m).runtime x).phase ≠ .pulse := fun hp => hd ⟨by simp [hp], by simp [hp]⟩
  simp only [refTime, hph]
  exact Phase.reference_self hnp _ _ _

section Clocked

variable (hclk : rig.Clocked time)
include hclk

/-- Pass 0 starts every channel from the same cleared counters, with the same setting, at the
same snapshot. -/
theorem lockStep_one {s : ChannelSetting} (hreach : Engine.Reachable rig (run.engine 0))
    (hidle : ∀ x < (run.engine 0).runtimes.length, ((run.engine 0).runtime x).phase = .idle)
    (hstart : ∀ x < (run.engine 0).runtimes.length, (run.bank 0).setting x = s)
    (hs : s.runState = .startRequested) (hkeep : run.bank 1 = (run.pass 0).bank) :
    run.LockStep 1 := by
  have hdec : ∀ x < (run.engine 0).runtimes.length,
      (run.decision 0 x).runtime = { (run.engine 0).runtime x with
        lastTransition := rig.now (run.world 0), currentPeriod := s.times.period, phase := .preWait } ∧
        (run.decision 0 x).setting = s := by
    intro x hx
    rw [decision, Engine.decision, hstart x hx, step_idle_start _ _ _ _ _ _ (hidle x hx) hs]
    exact ⟨rfl, rfl⟩
  have hph : ∀ x < (run.engine 0).runtimes.length, ((run.engine 1).runtime x).phase = .preWait := by
    intro x hx
    rw [run.runtime_succ hx, (hdec x hx).1]
  have href : ∀ x < (run.engine 0).runtimes.length, run.refTime x 1 = time (run.world 0) := by
    intro x hx
    simp [refTime, Phase.reference, hidle x hx, hph x hx]
  -- the untimed state after the start: the counters an idle reachable channel has cleared
  have hstate : ∀ x < (run.engine 0).runtimes.length, run.state 1 x =
      ({ phase := .preWait, currentPeriod := s.times.period }, s) := by
    intro x hx
    obtain ⟨hpe, hpip, hsa⟩ := hreach.settled x (.inl (hidle x hx))
    have hset : (run.bank 1).setting x = s := by rw [hkeep, run.setting_pass hx, (hdec x hx).2]
    unfold state
    rw [run.runtime_succ hx, (hdec x hx).1, hset]
    simp [Runtime.untimed, hpe, hpip, hsa]
  refine ⟨fun x hx => ?_, fun x hx => ?_, fun c d hcd hd => ⟨0, ?_, fun _ => ?_⟩⟩
  · exact (anchored_succ hclk (.inr (.inl (.inr ⟨hidle x hx, hph x hx⟩)))).1
  · rw [hph x hx]
    decide
  · rw [Function.iterate_zero_apply, hstate c (Nat.lt_trans hcd hd), hstate d hd]
  · exact Nat.le_of_eq ((href c (Nat.lt_trans hcd hd)).trans (href d hd).symm)

/-- Two level channels that change phase alike keep their readings in order: both take the
snapshot, the lower one's reading after its pulse comes first, or both keep what they held. -/
theorem refTime_succ_le_of_level {m c d : Nat} (hcd : c < d) (hd : d < (run.engine 0).runtimes.length)
    (hph : ((run.engine m).runtime c).phase = ((run.engine m).runtime d).phase)
    (hph' : ((run.engine (m + 1)).runtime c).phase = ((run.engine (m + 1)).runtime d).phase)
    (hle : run.refTime c m ≤ run.refTime d m) : run.refTime c (m + 1) ≤ run.refTime d (m + 1) := by
  simp only [refTime, hph, hph']
  exact Phase.reference_le _ _ (Nat.le_refl _) (time_decision_le_decision hclk hcd hd m) hle

/-- **Step lemma.** A pass that reports no stop, with the settings kept and channel `c`'s wait
within one turn of the counter, keeps `c` ahead of or level with a higher channel `d`. -/
theorem Leads.succ {m c d : Nat} (hlock : run.LockStep m) (hcd : c < d)
    (hd : d < (run.engine 0).runtimes.length)
    (hquiet : Event.stopped ∉ (run.pass m).events.map Prod.snd)
    (hkeep : run.bank (m + 1) = (run.pass m).bank)
    (hspan : ((run.engine m).runtime c).phase = .preWait ∨ ((run.engine m).runtime c).phase = .interWait →
      time (run.world m) < run.refTime c m + 65536) :
    run.Leads (m + 1) c d := by
  have hc : c < (run.engine 0).runtimes.length := Nat.lt_trans hcd hd
  have hactc := run.active_of_quiet hc (hlock.busy c hc) hquiet
  have hactd := run.active_of_quiet hd (hlock.busy d hd) hquiet
  have hsc := state_succ hc hkeep hactc (hlock.busy c hc)
  have hsd := state_succ hd hkeep hactd (hlock.busy d hd)
  obtain ⟨k, hk, hk0⟩ := hlock.leads c d hcd hd
  by_cases hdc : ((run.engine m).runtime c).Due ((run.bank m).setting c) (rig.now (run.world m)) <;>
    by_cases hdd : ((run.engine m).runtime d).Due ((run.bank m).setting d) (rig.now (run.world m))
  · -- both turn: as far ahead as before
    have hnext : run.state (m + 1) c = cycle^[k] (run.state (m + 1) d) := by
      rw [hsc, hsd, if_pos hdc, if_pos hdd, hk, ← Function.iterate_succ_apply' cycle,
        Function.iterate_succ_apply]
    refine ⟨k, hnext, fun hk' => ?_⟩
    -- level before and after, so they changed phase alike
    subst hk'
    exact refTime_succ_le_of_level hclk hcd hd (congrArg (fun x => x.1.phase) hk)
      (congrArg (fun x => x.1.phase) hnext) (hk0 rfl)
  · -- only `c` turns: one more turn ahead
    refine ⟨k + 1, ?_, fun h => absurd h (Nat.succ_ne_zero k)⟩
    rw [hsc, hsd, if_pos hdc, if_neg hdd, hk, Function.iterate_succ_apply']
  · -- only `d` turns: `c` was ahead, since level with `d` it would be due as well
    cases k with
    | zero =>
      have huntimed : ((run.engine m).runtime c).untimed = ((run.engine m).runtime d).untimed :=
        congrArg Prod.fst hk
      have hset : (run.bank m).setting c = (run.bank m).setting d := congrArg Prod.snd hk
      refine absurd (Runtime.Due.of_nearer huntimed (fun hp => ?_) (hset ▸ hdd)) hdc
      rw [hclk.now_eq, (hlock.anchored c hc).1, (hlock.anchored d hd).1]
      exact Clock.elapsed_le_elapsed (hk0 rfl) (hlock.anchored d hd).2 (hspan hp)
    | succ k =>
      refine ⟨k, ?_, fun hk' => ?_⟩
      · rw [hsc, hsd, if_neg hdc, if_pos hdd, hk, Function.iterate_succ_apply]
      · -- now level: `c` kept a reading from before this pass, `d` took a new one in it
        subst hk'
        have hturn : cycle (run.state m d) = run.state m c := by rw [hk]; rfl
        have hd' : run.state (m + 1) d = cycle (run.state m d) := by rw [hsd, if_pos hdd]
        -- `d`'s turn leaves it as active as `c` is, so it took a new reading
        have hrenew : Phase.Renews ((run.engine m).runtime d).phase ((run.engine (m + 1)).runtime d).phase := by
          have h := renews_cycle (x := run.state m d) (hlock.busy d hd) (by rw [hturn]; exact hactc)
          rwa [← hd'] at h
        rw [refTime_succ_of_not_due hc hactc hdc]
        exact Nat.le_trans (hlock.anchored c hc).2
          (Phase.le_reference_of_renews hrenew (time_le_decision hclk m d) _)
  · -- neither turns: nothing changes
    refine ⟨k, ?_, fun hk' => ?_⟩
    · rw [hsc, hsd, if_neg hdc, if_neg hdd, hk]
    · rw [refTime_succ_of_not_due hc hactc hdc, refTime_succ_of_not_due hd hactd hdd]
      exact hk0 hk'

/-- **Step lemma.** A pass that reports no stop keeps the lock step, with the settings kept and
every wait within one turn of the counter. -/
theorem LockStep.succ {m : Nat} (hlock : run.LockStep m)
    (hquiet : Event.stopped ∉ (run.pass m).events.map Prod.snd)
    (hkeep : run.bank (m + 1) = (run.pass m).bank)
    (hspan : ∀ x, ((run.engine m).runtime x).phase = .preWait ∨
      ((run.engine m).runtime x).phase = .interWait → time (run.world m) < run.refTime x m + 65536) :
    run.LockStep (m + 1) := by
  refine ⟨fun x hx => (anchored_succ hclk (.inl (hlock.anchored x hx))).1, fun x hx => ?_,
    fun c d hcd hd => Leads.succ hclk hlock hcd hd hquiet hkeep (hspan c)⟩
  -- a busy channel turns its cycle or waits, and neither makes it idle
  have hact := run.active_of_quiet hx (hlock.busy x hx) hquiet
  have hph : ((run.engine (m + 1)).runtime x).phase = (run.state (m + 1) x).1.phase := rfl
  rw [hph, state_succ hx hkeep hact (hlock.busy x hx)]
  split_ifs
  · exact cycle_phase_ne_idle (hlock.busy x hx)
  · exact hlock.busy x hx

/-- **Run lemma.** A run started together keeps the lock step up to any pass boundary before a
stop, with the settings kept and every wait within one turn of the counter. -/
theorem lockStep_of_le {s : ChannelSetting} {n : Nat} (hreach : Engine.Reachable rig (run.engine 0))
    (hidle : ∀ x < (run.engine 0).runtimes.length, ((run.engine 0).runtime x).phase = .idle)
    (hstart : ∀ x < (run.engine 0).runtimes.length, (run.bank 0).setting x = s)
    (hs : s.runState = .startRequested)
    (hkeep : ∀ i < n, run.bank (i + 1) = (run.pass i).bank)
    (hspan : ∀ x, ∀ i < n, ((run.engine i).runtime x).phase = .preWait ∨
      ((run.engine i).runtime x).phase = .interWait → time (run.world i) < run.refTime x i + 65536)
    (hquiet : ∀ i < n, Event.stopped ∉ (run.pass i).events.map Prod.snd) :
    ∀ m, 1 ≤ m → m ≤ n → run.LockStep m := by
  intro m h1 hn
  induction m with
  | zero => exact absurd h1 (by decide)
  | succ m ih =>
    rcases Nat.eq_zero_or_pos m with rfl | hm
    · exact lockStep_one hclk hreach hidle hstart hs (hkeep 0 hn)
    · exact LockStep.succ hclk (ih hm (Nat.le_of_succ_le hn)) (hquiet m hn) (hkeep m hn)
        (fun x => hspan x m hn)

end Clocked

/-- **Channels started together stay in order.** Take an idle engine, start all its channels
with one setting in pass 0 and keep the settings from then on. Take a clocked rig, and waits that
each span less than one turn of the counter. Then at every pass boundary before any channel
reports `stopped`, no channel has emitted more pulses than a lower one. -/
theorem pulses_emitted_antitone (hclk : rig.Clocked time) (run : TimedRun rig time)
    (s : ChannelSetting) (m : Nat) (hreach : Engine.Reachable rig (run.engine 0))
    (hidle : ∀ x < (run.engine 0).runtimes.length, ((run.engine 0).runtime x).phase = .idle)
    (hstart : ∀ x < (run.engine 0).runtimes.length, (run.bank 0).setting x = s)
    (hs : s.runState = .startRequested)
    (hkeep : ∀ i < m, run.bank (i + 1) = (run.pass i).bank)
    (hspan : ∀ x, ∀ i < m, ((run.engine i).runtime x).phase = .preWait ∨
      ((run.engine i).runtime x).phase = .interWait → time (run.world i) < run.refTime x i + 65536)
    (hquiet : ∀ i < m, Event.stopped ∉ (run.pass i).events.map Prod.snd) :
    ∀ c d, c ≤ d →
      ((run.engine m).runtime d).pulsesEmitted ≤ ((run.engine m).runtime c).pulsesEmitted := by
  intro c d hcd
  apply UInt32.le_iff_toNat_le.mpr
  rcases Nat.eq_zero_or_pos m with rfl | hm
  · -- before the first pass every channel is idle with its counters clear
    have hzero : ∀ x, ((run.engine 0).runtime x).pulsesEmitted = 0 := by
      intro x
      by_cases hx : x < (run.engine 0).runtimes.length
      · exact (hreach.settled x (.inl (hidle x hx))).1
      · rw [run.runtime_of_le (Nat.le_of_not_lt hx)]
    exact Nat.le_of_eq (by rw [hzero c, hzero d])
  · rcases Nat.lt_or_eq_of_le hcd with hlt | rfl
    · by_cases hd : d < (run.engine 0).runtimes.length
      · -- `c` is some turns of the cycle ahead of `d`, and no turn lowers the count
        have hlock := lockStep_of_le hclk hreach hidle hstart hs hkeep hspan hquiet m hm (Nat.le_refl m)
        obtain ⟨k, hk, -⟩ := hlock.leads c d hlt hd
        have hle := pulsesEmitted_le_iterate k (run.state m d)
        rw [← hk] at hle
        exact hle
      · rw [run.runtime_of_le (Nat.le_of_not_lt hd)]
        exact Nat.zero_le _
    · exact Nat.le_refl _

/-- Three channels started together on the bare tick count, with pulses of one tick, a period of
one tick and no time between passes. -/
def lockStepRun : TimedRun Rig.ticks id :=
  alone Rig.ticks id id (fun _ => Nat.le_refl _) (Engine.new 3)
    ⟨List.replicate 3 { runState := .startRequested, times := ⟨0, 1, 0, 0, 1⟩ }⟩ 0 rfl

theorem pulses_emitted_antitone_ticks :
    Rig.ticks.Clocked id ∧ ∀ c d, c ≤ d →
      ((lockStepRun.engine 9).runtime d).pulsesEmitted ≤ ((lockStepRun.engine 9).runtime c).pulsesEmitted := by
  have hidle : ∀ x < (lockStepRun.engine 0).runtimes.length,
      ((lockStepRun.engine 0).runtime x).phase = .idle := by decide +kernel
  have hstart : ∀ x < (lockStepRun.engine 0).runtimes.length,
      (lockStepRun.bank 0).setting x = { runState := .startRequested, times := ⟨0, 1, 0, 0, 1⟩ } := by
    decide +kernel
  have hwrap : ∀ i < 9, lockStepRun.world i < 65536 := by decide +kernel
  have hquiet : ∀ i < 9, Event.stopped ∉ (lockStepRun.pass i).events.map Prod.snd := by decide +kernel
  exact ⟨Rig.ticks_clocked, pulses_emitted_antitone Rig.ticks_clocked lockStepRun _ 9
    (Engine.Reachable.new 3) hidle hstart rfl (fun i _ => alone_bank_succ _ _ _ _ _ _ _ _ i)
    (fun _ i hi _ => Nat.lt_of_lt_of_le (hwrap i hi) (Nat.le_add_left _ _)) hquiet⟩

/-- The counts do not stay within one of each other: after nine passes of `lockStepRun`, well
within one turn of the counter, channel 0 has emitted two pulses more than channel 2. -/
theorem pulse_counts_spread :
    lockStepRun.world 9 < 65536 ∧
      (lockStepRun.engine 9).runtimes.map (·.pulsesEmitted) = [4, 3, 2] := by
  decide +kernel

end Engine.TimedRun

end Stimulator
