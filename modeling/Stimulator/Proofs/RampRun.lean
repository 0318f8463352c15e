import Stimulator.Proofs.Counters
import Stimulator.Bench.EngineBench
import Mathlib.Logic.Function.Iterate
import Mathlib.Tactic.SplitIfs

/-!
# The period ramp over a run

At a period boundary below the pulse limit, a ramp with a step shortens the active period by the
step once every `pulsesPerStep` pulses, never below the pulse width, and after `maxSteps` steps
takes it back to T4; a flat ramp takes up T4 as it stands. Over a run whose times and ramp stay
fixed, the period therefore has a closed form:

* `Ramp.shortened` : one step of the period as a number, `g(p) = max(p - step, min(p, w))` when
  `p > step` and `g(p) = p` otherwise, for the pulse width `w`; `Ramp.periodAfter T D k` is
  `g^k(T4)`, and `Ramp.quota D` the pulses at one period, `pulsesPerStep` but at least one;
* `Ramp.periodAfter_le`, `Ramp.min_le_periodAfter` : every `g^k(T4)` lies between `min(T4, w)`
  and T4;
* `Engine.periodBoundary_change` : a boundary after a full quota moves the steps on modulo
  `maxSteps + 1` and the period to the closed form at the new steps;
* `Runtime.Ramped` : a runtime and its record since the channel was last idle against the closed
  form, kept by every decision (`Engine.ramped_step`);
* `Runtime.Flat` : on a flat ramp nothing is reported and the period is the T4 taken up last,
  kept by every decision (`Engine.flat_step`);
* `Engine.ramp_run` : the whole statement over any passes from an idle channel.
-/

namespace Stimulator

variable {σ : Type}

namespace Ramp

/-- One ramp step of the period `p` as a number, with step `step` and pulse width `w`. -/
def shortened (step w p : Nat) : Nat := if step < p then max (p - step) (min p w) else p

/-- The pulses at one period before the ramp steps: `pulsesPerStep`, and at least one. -/
def quota (D : RampDelta) : Nat := max D.pulsesPerStep.toNat 1

/-- The period after `k` ramp steps from T4. -/
def periodAfter (T : PhaseTimes) (D : RampDelta) (k : Nat) : Nat :=
  (shortened D.step.toNat T.pulseWidth.toNat)^[k] T.period.toNat

theorem toNat_shorten (step width p : UInt16) :
    (shorten step width p).toNat = shortened step.toNat width.toNat p.toNat := by
  unfold shorten shortened
  by_cases h : step < p
  · have h' : step.toNat < p.toNat := UInt16.lt_iff_toNat_lt.1 h
    have hsub : (p - step).toNat = p.toNat - step.toNat := UInt16.toNat_sub_of_le _ _ (UInt16.le_of_lt h)
    rw [if_pos h, if_pos h']
    -- `max` and `min` of words compare the words as numbers
    show (if p - step ≤ (if width ≤ p then width else p) then (if width ≤ p then width else p)
      else p - step).toNat = _
    simp only [UInt16.le_iff_toNat_le]
    split_ifs <;> simp only [hsub] at * <;> omega
  · have h' : ¬step.toNat < p.toNat := fun h' => h (UInt16.lt_iff_toNat_lt.2 h')
    rw [if_neg h, if_neg h']

theorem shortened_le (step w p : Nat) : shortened step w p ≤ p := by
  unfold shortened
  split <;> omega

theorem le_shortened {step w p m : Nat} (hp : m ≤ p) (hw : m ≤ w) : m ≤ shortened step w p := by
  unfold shortened
  split <;> omega

theorem periodAfter_succ (T : PhaseTimes) (D : RampDelta) (k : Nat) :
    periodAfter T D (k + 1) = shortened D.step.toNat T.pulseWidth.toNat (periodAfter T D k) :=
  Function.iterate_succ_apply' _ k _

theorem periodAfter_le (T : PhaseTimes) (D : RampDelta) (k : Nat) :
    periodAfter T D k ≤ T.period.toNat := by
  induction k with
  | zero => exact Nat.le_refl _
  | succ k ih =>
    rw [periodAfter_succ]
    exact Nat.le_trans (shortened_le _ _ _) ih

theorem min_le_periodAfter (T : PhaseTimes) (D : RampDelta) (k : Nat) :
    min T.period.toNat T.pulseWidth.toNat ≤ periodAfter T D k := by
  induction k with
  | zero => exact Nat.min_le_left _ _
  | succ k ih =>
    rw [periodAfter_succ]
    exact le_shortened ih (Nat.min_le_right _ _)

theorem quota_pos (D : RampDelta) : 0 < quota D := by
  unfold quota
  omega

/-- Counting one more step modulo `m + 1` wraps to zero from `m` and adds one below it. -/
theorem succ_mod_succ_of_le {j m : Nat} (h : j ≤ m) :
    (j + 1) % (m + 1) = if j = m then 0 else j + 1 := by
  split
  · next hj => rw [hj, Nat.mod_self]
  · next hj => exact Nat.mod_eq_of_lt (by omega)

end Ramp

namespace Engine

variable {s : ChannelSetting} {T : PhaseTimes} {D : RampDelta}

theorem periodBoundary_below {r : Runtime}
    (hc : ¬(s.pulseLimit ≠ 0 ∧ s.pulseLimit.toUInt32 ≤ r.pulsesEmitted)) (hstep : s.delta.step ≠ 0)
    (hlt : r.pulsesInPeriod < s.delta.pulsesPerStep.toUInt32) :
    Ramp.periodBoundary r s = (r, s, none) := by
  simp [Ramp.periodBoundary, hc, hstep, hlt]

theorem periodBoundary_flat {r : Runtime}
    (hc : ¬(s.pulseLimit ≠ 0 ∧ s.pulseLimit.toUInt32 ≤ r.pulsesEmitted)) (hstep : s.delta.step = 0) :
    Ramp.periodBoundary r s = ({ r with currentPeriod := s.times.period }, s, none) := by
  simp [Ramp.periodBoundary, hc, hstep]

/-- **A ramp boundary after `pulsesPerStep` pulses** moves the steps on by one modulo
`maxSteps + 1`, clears the pulses at the period and reports the new period, which is the closed
form at the new steps when the old period was the closed form at the old steps. -/
theorem periodBoundary_change (hT : s.times = T) (hD : s.delta = D) (hM : D.maxSteps.toNat ≤ 10)
    {r : Runtime} (hc : ¬(s.pulseLimit ≠ 0 ∧ s.pulseLimit.toUInt32 ≤ r.pulsesEmitted))
    (hstep : s.delta.step ≠ 0) (hge : ¬r.pulsesInPeriod < s.delta.pulsesPerStep.toUInt32)
    (hle : r.stepsApplied.toNat ≤ D.maxSteps.toNat)
    (hper : r.currentPeriod.toNat = Ramp.periodAfter T D r.stepsApplied.toNat) :
    ∃ steps period : UInt16, Ramp.periodBoundary r s =
        ({ r with currentPeriod := period, stepsApplied := steps, pulsesInPeriod := 0 }, s,
          some (.periodChanged period)) ∧
      steps.toNat = (r.stepsApplied.toNat + 1) % (D.maxSteps.toNat + 1) ∧
      period.toNat = Ramp.periodAfter T D steps.toNat := by
  -- at most ten steps, so adding one never saturates
  have hsat : (Word.satAdd16 r.stepsApplied 1).toNat = r.stepsApplied.toNat + 1 := by
    simp only [Word.toNat_satAdd16, UInt16.reduceToNat]
    omega
  have hwrap : s.delta.maxSteps < Word.satAdd16 r.stepsApplied 1 ↔
      r.stepsApplied.toNat = D.maxSteps.toNat := by
    rw [UInt16.lt_iff_toNat_lt, hsat, hD]
    omega
  simp only [Ramp.periodBoundary, hc, hstep, hge, if_false]
  rw [Ramp.succ_mod_succ_of_le hle]
  by_cases hw : s.delta.maxSteps < Word.satAdd16 r.stepsApplied 1
  · -- after the last step the period goes back to T4
    refine ⟨0, s.times.period, by simp only [hw, if_true], ?_, ?_⟩
    · rw [if_pos (hwrap.1 hw)]
      rfl
    · rw [hT]
      rfl
  · refine ⟨Word.satAdd16 r.stepsApplied 1, Ramp.shorten s.delta.step s.times.pulseWidth r.currentPeriod,
      by simp only [hw, if_false], ?_, ?_⟩
    · rw [if_neg (fun h => hw (hwrap.2 h)), hsat]
    · rw [hsat, Ramp.toNat_shorten, hper, hT, hD, Ramp.periodAfter_succ]

end Engine

/-- A channel on the ramp `D` with times `T`, against its record since it was last idle: while it
is not idle its steps count the reported changes modulo `maxSteps + 1` and its period is
`g^steps(T4)`; change `i + 1` came once `i + 1` quotas of pulses were made and reported
`g^((i + 1) mod (maxSteps + 1))(T4)`; and the pulses since the last change make up the rest of the
drives, at most one quota, fewer outside the inter-wait and at least one inside it. -/
structure Runtime.Ramped (T : PhaseTimes) (D : RampDelta) (r : Runtime) (acc : Engine.Since) : Prop where
  steps : r.phase ≠ .idle → r.stepsApplied.toNat = acc.changes.length % (D.maxSteps.toNat + 1)
  period : r.phase ≠ .idle → r.currentPeriod.toNat = Ramp.periodAfter T D r.stepsApplied.toNat
  changes : acc.changes.map (fun x => (x.1, x.2.toNat)) =
    (List.range acc.changes.length).map fun i =>
      ((i + 1) * Ramp.quota D, Ramp.periodAfter T D ((i + 1) % (D.maxSteps.toNat + 1)))
  drives : acc.drives = acc.changes.length * Ramp.quota D + r.pulsesInPeriod.toNat
  inPeriod_le : r.pulsesInPeriod.toNat ≤ Ramp.quota D
  inPeriod_lt : r.phase ≠ .interWait → r.pulsesInPeriod.toNat < Ramp.quota D
  inPeriod_pos : r.phase = .interWait → 0 < r.pulsesInPeriod.toNat

/-- A channel on a flat ramp against its record: no change reported, and while the channel is not
idle its period is the T4 it took up last. -/
structure Runtime.Flat (r : Runtime) (acc : Engine.Since) : Prop where
  changes : acc.changes = []
  period : r.phase ≠ .idle → r.currentPeriod = acc.periodRead

section

variable {T : PhaseTimes} {D : RampDelta}

/-- A decision that leaves the counters, the steps and the period alone, makes no drive and
reports no period keeps a channel that stays out of idle on the ramp. -/
theorem Runtime.Ramped.quiet {r r' : Runtime} {acc acc' : Engine.Since} (h : r.Ramped T D acc)
    (hr : r.phase ≠ .idle) (hacc : acc'.changes = acc.changes ∧ acc'.drives = acc.drives)
    (hin : r'.pulsesInPeriod = r.pulsesInPeriod) (hsteps : r'.stepsApplied = r.stepsApplied)
    (hper : r'.currentPeriod = r.currentPeriod)
    (hlt : r'.phase ≠ .interWait → r.pulsesInPeriod.toNat < Ramp.quota D)
    (hpos : r'.phase = .interWait → 0 < r.pulsesInPeriod.toNat) :
    r'.Ramped T D acc' := by
  obtain ⟨hch, hdr⟩ := hacc
  refine ⟨fun _ => ?_, fun _ => ?_, ?_, ?_, ?_, ?_, ?_⟩
  · rw [hsteps, hch]
    exact h.steps hr
  · rw [hper, hsteps]
    exact h.period hr
  · rw [hch]
    exact h.changes
  · rw [hdr, hch, hin]
    exact h.drives
  · rw [hin]
    exact h.inPeriod_le
  · rw [hin]
    exact hlt
  · rw [hin]
    exact hpos

end

namespace Engine

variable {T : PhaseTimes} {D : RampDelta}

theorem drives_of_not_pulse {r : Runtime} (s : ChannelSetting) (hr : r.phase ≠ .pulse) :
    (if s.runState.isActive = true ∧ r.phase = .pulse then 1 else 0) = 0 :=
  if_neg fun h => hr h.2

/-- A decision outside the pulse phase that reports no period keeps the record's changes and
drives, unless it leaves the channel idle. -/
theorem afterStep_quiet (acc : Since) {r r' : Runtime} (s : ChannelSetting) {ev : Option Event}
    (hev : ∀ p, ev ≠ some (.periodChanged p)) (hr : r.phase ≠ .pulse) (hr' : r'.phase ≠ .idle) :
    (acc.afterStep r r' s (if s.runState.isActive = true ∧ r.phase = .pulse then 1 else 0)
        ev.toList).changes = acc.changes ∧
      (acc.afterStep r r' s (if s.runState.isActive = true ∧ r.phase = .pulse then 1 else 0)
        ev.toList).drives = acc.drives := by
  have hnone : periodsOf ev.toList = [] := by
    cases ev with
    | none => rfl
    | some e =>
      cases e with
      | periodChanged p => exact absurd rfl (hev p)
      | started | running | completed _ | stopped => rfl
  simp [Since.afterStep, hr', hnone, drives_of_not_pulse s hr]

/-- An idle channel with its counters clear and nothing done is on the ramp. -/
theorem ramped_idle {r : Runtime} (h : r.Counts {}) (hidle : r.phase = .idle) :
    r.Ramped T D {} := by
  have hz := (h.1 (.inl hidle)).2.1
  have hq := Ramp.quota_pos D
  refine ⟨fun h' => absurd hidle h', fun h' => absurd hidle h', rfl, ?_, ?_, fun _ => ?_, ?_⟩
  · simp [hz]
  · simp [hz]
  · simpa [hz] using hq
  · intro h'
    rw [hidle] at h'
    cases h'

variable (rig : Rig σ) (c : Nat) (now : UInt16) (w : σ)

/-- A decision that reports a period and makes no drive adds the report to the record at the
drives made so far. -/
theorem afterStep_changed (acc : Since) (r r' : Runtime) (s : ChannelSetting) (p : UInt16)
    (hr' : r'.phase ≠ .idle) :
    (acc.afterStep r r' s 0 (some (Event.periodChanged p)).toList).changes =
        acc.changes ++ [(acc.drives, p)] ∧
      (acc.afterStep r r' s 0 (some (Event.periodChanged p)).toList).drives = acc.drives := by
  simp [Since.afterStep, hr', periodsOf, Event.period?]

/-- The boundary that reports a change keeps the channel on the ramp: a full quota was made, the
steps move on modulo `maxSteps + 1`, and the change joins the record at the drives made so far. -/
theorem ramped_change {s : ChannelSetting} (hT : s.times = T) (hD : s.delta = D)
    (hM : D.maxSteps.toNat ≤ 10) {r : Runtime} {acc : Since}
    (hc : ¬(s.pulseLimit ≠ 0 ∧ s.pulseLimit.toUInt32 ≤ r.pulsesEmitted)) (hstep : s.delta.step ≠ 0)
    (hge : ¬r.pulsesInPeriod < s.delta.pulsesPerStep.toUInt32) (h : r.Ramped T D acc)
    (hp : r.phase = .interWait) :
    ({ (Ramp.periodBoundary r s).1 with lastTransition := now, phase := .pulse } : Runtime).Ramped T D
      (acc.afterStep r { (Ramp.periodBoundary r s).1 with lastTransition := now, phase := .pulse } s
        (if s.runState.isActive = true ∧ r.phase = .pulse then 1 else 0)
        (Ramp.periodBoundary r s).2.2.toList) := by
  have hr : r.phase ≠ .idle := by rw [hp]; decide
  have hsteps := h.steps hr
  have hle : r.stepsApplied.toNat ≤ D.maxSteps.toNat := by
    rw [hsteps]
    exact Nat.le_of_lt_succ (Nat.mod_lt _ (Nat.succ_pos _))
  -- the pulses at the period fill exactly one quota
  have hfull : r.pulsesInPeriod.toNat = Ramp.quota D := by
    have hge' := h.inPeriod_pos hp
    have hle' := h.inPeriod_le
    rw [UInt32.lt_iff_toNat_lt, UInt16.toNat_toUInt32, hD] at hge
    unfold Ramp.quota at hle' ⊢
    omega
  obtain ⟨steps, period, hpb, hsteps', hperiod⟩ :=
    periodBoundary_change hT hD hM hc hstep hge hle (h.period hr)
  have hnext : steps.toNat = (acc.changes.length + 1) % (D.maxSteps.toNat + 1) := by
    rw [hsteps', hsteps, Nat.mod_add_mod]
  rw [hpb, drives_of_not_pulse s (by rw [hp]; decide)]
  dsimp only
  let r' : Runtime :=
    { r with currentPeriod := period, stepsApplied := steps, pulsesInPeriod := 0, lastTransition := now,
             phase := .pulse }
  obtain ⟨hch, hdr⟩ := afterStep_changed acc r r' s period (fun h' => by cases h')
  have hlen : (acc.changes ++ [(acc.drives, period)]).length = acc.changes.length + 1 := by
    rw [List.length_append, List.length_singleton]
  -- the change joins the record at `(L + 1)` quotas, `L` the changes before it
  have hat : acc.drives = (acc.changes.length + 1) * Ramp.quota D := by
    rw [h.drives, hfull, Nat.succ_mul]
  have hq := Ramp.quota_pos D
  refine ⟨fun _ => ?_, fun _ => hperiod, ?_, ?_, Nat.zero_le _, fun _ => hq, fun h' => by cases h'⟩
  · rw [hch, hlen]
    exact hnext
  · rw [hch, hlen, List.map_append, h.changes, List.range_succ, List.map_append]
    simp only [List.map_cons, List.map_nil, hat, hperiod, hnext]
  · rw [hdr, hch, hlen, hat]
    rfl

/-- **Every decision on the ramp's times and steps keeps the channel on the ramp.** -/
theorem ramped_step {s : ChannelSetting} (hT : s.times = T) (hD : s.delta = D) (hstep : 0 < D.step)
    (hM : D.maxSteps.toNat ≤ 10) {r : Runtime} {acc : Since} (hc : r.Counts acc) (h : r.Ramped T D acc) :
    (step rig c now r s w).runtime.Ramped T D
      (acc.afterStep r (step rig c now r s w).runtime s ((stepCalls c r s).count (.drive c .positive))
        (step rig c now r s w).event.toList) := by
  have hcounts := counts_step rig c now s w hc
  have hstep0 : s.delta.step ≠ 0 := by
    rw [hD]
    intro h0
    rw [h0] at hstep
    exact absurd hstep (by decide)
  rw [count_drive_stepCalls] at hcounts ⊢
  revert hcounts
  refine step_rec rig c now r s w ?inactive ?start ?clamp ?preWait ?running ?pulse ?interWait
    ?completed ?boundary
  case inactive =>
    intro _ hcounts
    have hidle : r.reset.phase = .idle := rfl
    simp only [Since.afterStep, hidle, if_true] at hcounts ⊢
    exact ramped_idle hcounts hidle
  case clamp =>
    intro hp _ hcounts
    simp only [Since.afterStep, hp, if_true] at hcounts ⊢
    exact ramped_idle hcounts hp
  case start =>
    intro hp _ _
    obtain rfl : acc = {} := hc.2.1 hp
    have hz := hc.1 (.inl hp)
    have hq := Ramp.quota_pos D
    have hev : periodsOf [Event.started] = [] := rfl
    refine ⟨fun _ => ?_, fun _ => ?_, ?_, ?_, ?_, fun _ => ?_, fun h' => by cases h'⟩
    all_goals simp [Since.afterStep, hev, hp, hz.2.1, hz.2.2, hq, hT]
    rfl
  case preWait | interWait =>
    intro _ hp _ _
    have hr : r.phase ≠ .idle := by rw [hp]; decide
    exact h.quiet hr (afterStep_quiet acc s (fun _ h => by cases h) (by rw [hp]; decide) hr) rfl rfl
      rfl h.inPeriod_lt h.inPeriod_pos
  case running =>
    intro _ hp _ _
    have hr : r.phase ≠ .idle := by rw [hp]; decide
    exact h.quiet hr (afterStep_quiet acc s (fun _ h => by cases h) (by rw [hp]; decide) (fun h' => by cases h'))
      rfl rfl rfl (fun _ => h.inPeriod_lt (by rw [hp]; decide)) (fun h' => by cases h')
  case completed =>
    intro _ hp _ _ _
    have hr : r.phase ≠ .idle := by rw [hp]; decide
    exact h.quiet hr (afterStep_quiet acc s (fun _ h => by cases h) (by rw [hp]; decide) hr) rfl rfl
      rfl h.inPeriod_lt h.inPeriod_pos
  case pulse =>
    intro hact hp _
    have hlt := h.inPeriod_lt (by rw [hp]; decide)
    -- below one quota the pulses at the period do not saturate
    have hsat : (Word.satAdd32 r.pulsesInPeriod 1).toNat = r.pulsesInPeriod.toNat + 1 := by
      have hpps := D.pulsesPerStep.toNat_lt
      simp only [Word.toNat_satAdd32, UInt32.reduceToNat]
      unfold Ramp.quota at hlt
      omega
    have hr : r.phase ≠ .idle := by rw [hp]; decide
    refine ⟨fun _ => ?_, fun _ => ?_, ?_, ?_, ?_, fun h' => absurd rfl h', fun _ => ?_⟩
    · simpa [Since.afterStep, hact, hp, periodsOf] using h.steps hr
    · exact h.period hr
    · simpa [Since.afterStep, hact, hp, periodsOf] using h.changes
    · simp only [Since.afterStep, hact, hp, and_self, if_true, reduceCtorEq, if_false,
        Option.toList_none, periodsOf, List.filterMap_nil, List.map_nil, List.append_nil, hsat]
      rw [h.drives]
      omega
    · rw [hsat]
      omega
    · rw [hsat]
      omega
  case boundary =>
    intro _ hp _ hc' _
    by_cases hbelow : r.pulsesInPeriod < s.delta.pulsesPerStep.toUInt32
    · -- short of a quota: nothing changes but the phase
      have hr : r.phase ≠ .idle := by rw [hp]; decide
      have hlt : r.pulsesInPeriod.toNat < Ramp.quota D := by
        rw [UInt32.lt_iff_toNat_lt, UInt16.toNat_toUInt32, hD] at hbelow
        unfold Ramp.quota
        omega
      rw [periodBoundary_below hc' hstep0 hbelow]
      exact h.quiet hr (afterStep_quiet acc s (fun _ h => by cases h) (by rw [hp]; decide)
        (fun h' => by cases h')) rfl rfl rfl (fun _ => hlt) (fun h' => by cases h')
    · exact ramped_change now hT hD hM hc' hstep0 hbelow h hp


theorem flat_of_idle {r r' : Runtime} {acc : Since} {s : ChannelSetting} {d : Nat} {evs : List Event}
    (hr' : r'.phase = .idle) : r'.Flat (acc.afterStep r r' s d evs) := by
  simp only [Since.afterStep, hr', if_true]
  exact ⟨rfl, fun h => absurd hr' h⟩

/-- A decision that begins a period on a flat ramp takes up T4, which the record reads. -/
theorem flat_begin {r r' : Runtime} {acc : Since} {s : ChannelSetting} {d : Nat} {evs : List Event}
    (h : r.Flat acc) (hr' : r'.phase ≠ .idle) (hb : BeginsPeriod r r')
    (hper : r'.currentPeriod = s.times.period) (hev : periodsOf evs = []) :
    r'.Flat (acc.afterStep r r' s d evs) := by
  refine ⟨?_, fun _ => ?_⟩
  · simp [Since.afterStep, hr', hev, h.changes]
  · simp [Since.afterStep, hr', hb, hper]

/-- A decision that begins no period and keeps the period keeps a flat channel flat. -/
theorem flat_keep {r r' : Runtime} {acc : Since} {s : ChannelSetting} {d : Nat}
    {evs : List Event} (h : r.Flat acc) (hr : r.phase ≠ .idle) (hr' : r'.phase ≠ .idle)
    (hb : ¬BeginsPeriod r r') (hper : r'.currentPeriod = r.currentPeriod) (hev : periodsOf evs = []) :
    r'.Flat (acc.afterStep r r' s d evs) := by
  refine ⟨?_, fun _ => ?_⟩
  · simp [Since.afterStep, hr', hev, h.changes]
  · simp [Since.afterStep, hr', hb, hper, h.period hr]

/-- **Every decision on a flat ramp keeps the period at the T4 taken up last**, whatever the
times: a start and a period boundary below the pulse limit take up T4, and no other decision
touches the period. -/
theorem flat_step {s : ChannelSetting} (hflat : s.delta.step = 0) {r : Runtime} {acc : Since}
    (h : r.Flat acc) :
    (step rig c now r s w).runtime.Flat
      (acc.afterStep r (step rig c now r s w).runtime s ((stepCalls c r s).count (.drive c .positive))
        (step rig c now r s w).event.toList) := by
  refine step_rec rig c now r s w ?inactive ?start ?clamp ?preWait ?running ?pulse ?interWait
    ?completed ?boundary
  case inactive => intro _; exact flat_of_idle rfl
  case clamp => intro hp _; exact flat_of_idle hp
  case start =>
    intro hp _
    exact flat_begin h (fun h' => by cases h') (.inl ⟨hp, rfl⟩) rfl rfl
  case preWait | interWait =>
    intro _ hp _
    have hr : r.phase ≠ .idle := by rw [hp]; decide
    exact flat_keep h hr hr (by simp [BeginsPeriod, hp]) rfl rfl
  case running =>
    intro _ hp _
    exact flat_keep h (by rw [hp]; decide) (fun h' => by cases h') (by simp [BeginsPeriod, hp]) rfl rfl
  case pulse =>
    intro _ hp
    exact flat_keep h (by rw [hp]; decide) (fun h' => by cases h') (by simp [BeginsPeriod, hp]) rfl rfl
  case completed =>
    -- the boundary that completes the pulse limit does not take up T4
    intro _ hp _ _
    have hr : r.phase ≠ .idle := by rw [hp]; decide
    exact flat_keep h hr hr (by simp [BeginsPeriod, hp]) rfl rfl
  case boundary =>
    intro _ hp _ hc
    rw [periodBoundary_flat hc hflat]
    exact flat_begin h (fun h' => by cases h') (.inr ⟨hp, rfl⟩) rfl rfl

theorem counts_of_idle {e : Engine} (he : Reachable rig e) (hidle : (e.runtime c).phase = .idle) :
    (e.runtime c).Counts {} := by
  have hz := he.settled c (.inl hidle)
  refine ⟨he.settled c, fun _ => rfl, ?_⟩
  rw [hz.1]
  rfl

/-- **The period ramp over any run from an idle channel.** Let channel `c` of a reachable engine
be idle, and let every pass give it the ramp `D`, while any settings operation may come between
passes. If the times stay `T` too and the ramp has a step and at most ten steps, then whenever the
channel is not idle its steps are at most `maxSteps` and its period is `g^steps(T4)`, between
`min(T4, w)` and T4; the periods reported since it was last idle are `g(T4)`, `g^2(T4)`, ... ,
`g^maxSteps(T4)`, T4 and again, the `i`-th once `i` quotas of pulses were made; and the pulses
since the last report make up the rest, at most one quota. On a flat ramp, whatever the times, no
period is reported and the period is the T4 taken up at the start or at the latest boundary below
the pulse limit. -/
theorem ramp_run {e : Engine} (he : Reachable rig e) (hidle : (e.runtime c).phase = .idle)
    {D : RampDelta} (inputs : List (Bank × σ))
    (hD : ∀ x ∈ inputs, c < x.1.channels.length → (x.1.setting c).delta = D) :
    let r := (runOn rig e inputs).runtime c
    let acc := sinceIdle rig c e inputs {}
    (∀ T : PhaseTimes, (∀ x ∈ inputs, c < x.1.channels.length → (x.1.setting c).times = T) →
        0 < D.step → D.maxSteps.toNat ≤ 10 →
        (r.phase ≠ .idle → r.stepsApplied.toNat ≤ D.maxSteps.toNat ∧
          r.currentPeriod.toNat = Ramp.periodAfter T D r.stepsApplied.toNat ∧
          min T.period.toNat T.pulseWidth.toNat ≤ r.currentPeriod.toNat ∧
          r.currentPeriod.toNat ≤ T.period.toNat) ∧
        acc.changes.map (fun x => (x.1, x.2.toNat)) = (List.range acc.changes.length).map (fun i =>
          ((i + 1) * Ramp.quota D, Ramp.periodAfter T D ((i + 1) % (D.maxSteps.toNat + 1)))) ∧
        acc.drives = acc.changes.length * Ramp.quota D + r.pulsesInPeriod.toNat ∧
        r.pulsesInPeriod.toNat ≤ Ramp.quota D) ∧
      (D.step = 0 → acc.changes = [] ∧ (r.phase ≠ .idle → r.currentPeriod = acc.periodRead)) := by
  have h0 := counts_of_idle rig c he hidle
  refine ⟨fun T hT hstep hM => ?_, fun hflat => ?_⟩
  · -- the counters and the ramp together, over every pass
    obtain ⟨-, hR⟩ := inv_runOn rig (fun s => s.times = T ∧ s.delta = D)
      (fun r acc => r.Counts acc ∧ r.Ramped T D acc) ⟨counts_none, ramped_idle counts_none rfl⟩
      (fun _ _ h hi => h.1.2.1 hi)
      (fun now w _ _ _ hs h => ⟨counts_step rig c now _ w h.1, ramped_step rig c now w hs.1 hs.2 hstep hM h.1 h.2⟩)
      inputs e {} (fun x hx hc => ⟨hT x hx hc, hD x hx hc⟩) ⟨h0, ramped_idle h0 hidle⟩
    refine ⟨fun hr => ?_, hR.changes, hR.drives, hR.inPeriod_le⟩
    have hper := hR.period hr
    refine ⟨?_, hper, ?_, ?_⟩
    · rw [hR.steps hr]
      exact Nat.le_of_lt_succ (Nat.mod_lt _ (Nat.succ_pos _))
    · rw [hper]
      exact Ramp.min_le_periodAfter T D _
    · rw [hper]
      exact Ramp.periodAfter_le T D _
  · obtain ⟨-, hF⟩ := inv_runOn rig (fun s => s.delta.step = 0) (fun r acc => r.Counts acc ∧ r.Flat acc)
      ⟨counts_none, ⟨rfl, fun h => absurd rfl h⟩⟩ (fun _ _ h hi => h.1.2.1 hi)
      (fun now w _ _ _ hs h => ⟨counts_step rig c now _ w h.1, flat_step rig c now w hs h.2⟩)
      inputs e {} (fun x hx hc => (hD x hx hc).symm ▸ hflat) ⟨h0, ⟨rfl, fun h => absurd hidle h⟩⟩
    exact ⟨hF.changes, hF.period⟩

/-- A ramp of step 2 from T4 = 5 on the engine bench: the hypotheses hold, and so does the closed
form of the period. -/
theorem ramp_run_sawtooth :
    let s : ChannelSetting :=
      { runState := .running, times := { preWait := 0, positive := 1, interphase := 0, negative := 0, period := 5 },
        delta := { step := 2, pulsesPerStep := 1, maxSteps := 2 } }
    let inputs : List (Bank × Bench.EngineBench) :=
      [(⟨[{ s with runState := .startRequested }]⟩, {}), (⟨[s]⟩, {}), (⟨[s]⟩, {}), (⟨[s]⟩, { clock := 10 })]
    let r := (runOn Bench.EngineBench.rig (new 1) inputs).runtime 0
    ((new 1).runtime 0).phase = .idle ∧
      (∀ x ∈ inputs, 0 < x.1.channels.length → (x.1.setting 0).delta = s.delta) ∧
      (r.phase ≠ .idle → r.stepsApplied.toNat ≤ s.delta.maxSteps.toNat ∧
        r.currentPeriod.toNat = Ramp.periodAfter s.times s.delta r.stepsApplied.toNat ∧
        min s.times.period.toNat s.times.pulseWidth.toNat ≤ r.currentPeriod.toNat ∧
        r.currentPeriod.toNat ≤ s.times.period.toNat) :=
  ⟨rfl, by decide, ((ramp_run Bench.EngineBench.rig 0 (.new 1) rfl _ (by decide)).1 _ (by decide)
    (by decide) (by decide)).1⟩

-- start, first pulse, then a boundary ten ticks on: one step, reported at the first pulse
example :
    let s : ChannelSetting :=
      { runState := .running, times := { preWait := 0, positive := 1, interphase := 0, negative := 0, period := 5 },
        delta := { step := 2, pulsesPerStep := 1, maxSteps := 2 } }
    let inputs : List (Bank × Bench.EngineBench) :=
      [(⟨[{ s with runState := .startRequested }]⟩, {}), (⟨[s]⟩, {}), (⟨[s]⟩, {}), (⟨[s]⟩, { clock := 10 })]
    ((runOn Bench.EngineBench.rig (new 1) inputs).runtime 0).currentPeriod = 3 ∧
      (sinceIdle Bench.EngineBench.rig 0 (new 1) inputs {}).changes = [(1, 3)] := by
  decide +kernel

/-- The boundary that completes the pulse limit does not take up T4: a flat channel whose T4 was
edited from 5 to 9 meets its boundary, reports completion and stays in inter-wait with period 5. -/
theorem flat_completion_keeps_period :
    let s : ChannelSetting :=
      { runState := .running, times := { preWait := 0, positive := 1, interphase := 0, negative := 0, period := 5 },
        pulseLimit := 1 }
    let e := runOn Bench.EngineBench.rig (new 1)
      [(⟨[{ s with runState := .startRequested }]⟩, {}), (⟨[s]⟩, {}), (⟨[s]⟩, {})]
    let b : Bank := ⟨[{ s with times := { s.times with period := 9 } }]⟩
    let p := service Bench.EngineBench.rig e b { clock := 10 }
    p.events = [(0, .completed 1)] ∧ (p.engine.runtime 0).phase = .interWait ∧
      (p.engine.runtime 0).currentPeriod = 5 ∧ (b.setting 0).times.period = 9 := by
  decide +kernel

end Engine

end Stimulator
