import Stimulator.Proofs.Loop
import Stimulator.Bench.TerminalBench

/-!
# A stopped channel stays silent

A stop only writes the run state in the settings; the engine notices it at the head of the
channel's next decision, before it looks at the wave phase. An iteration whose engine pass finds
a channel inactive resets the channel, makes no output call for it and reports a stop exactly
when the channel was running a wave. From then on the channel's setting stays stopped, and the
channel silent, through every iteration until one whose poll carries out a start covering it.

* `Loop.polled_stopped_of_stops`, `Loop.polled_stopped_of_not_starts` : what the poll leaves of a
  stop, and of a stopped channel no start covers;
* `Loop.off_next` : one iteration of a channel found inactive;
* `Loop.stopped_iterate` : iterations without a start covering `c` keep `c` stopped;
* `Loop.stop_silences_channel` : the whole statement.
-/

namespace Stimulator

variable {σ : Type}

namespace Loop

variable {link : SerialLink σ} {rig : Rig σ} {x : Loop σ} {c : Nat}

theorem polled_stopped_of_stops (hc : c < x.scheduler.bank.size) (h : x.Stops link c) :
    ((x.polled link).setting c).runState = .stopped := by
  obtain ⟨sel, hcmd, hcov⟩ := h
  -- a poll carries out one command, and here it is a stop
  have hns : ¬ x.Starts link c := by
    rintro ⟨sel', hcmd', -⟩
    rw [hcmd] at hcmd'
    cases hcmd'
  rw [runState_polled link x hc, if_neg hns, if_pos ⟨sel, hcmd, hcov⟩]

theorem polled_stopped_of_not_starts (hc : c < x.scheduler.bank.size)
    (hst : (x.scheduler.bank.setting c).runState = .stopped) (hns : ¬ x.Starts link c) :
    ((x.polled link).setting c).runState = .stopped := by
  rw [runState_polled link x hc, if_neg hns]
  split
  · rfl
  · exact hst

/-- An iteration whose engine pass finds channel `c` inactive makes no call for `c`, reports a
stop exactly when `c` was not idle, resets `c` and leaves its setting stopped. -/
theorem off_next (hx : x.Reachable link rig) (hc : c < x.scheduler.bank.size) (hoff : ((x.polled link).setting c).runState.isActive = false) :
    (∀ k ∈ x.calls link rig, k.channel ≠ c) ∧
      eventsFor c (x.events link rig) =
        (if (x.scheduler.engine.runtime c).phase = .idle then [] else [.stopped]) ∧
      (x.next link rig).scheduler.engine.runtime c = (x.scheduler.engine.runtime c).reset ∧
      ((x.next link rig).scheduler.bank.setting c).runState = .stopped := by
  have he : c < x.scheduler.engine.runtimes.length := hx.sizes ▸ hc
  obtain ⟨now, w', hr, hset, hev⟩ := channel_next link rig x he hc
  rw [Engine.step_of_inactive _ _ _ _ _ _ hoff] at hr hset hev
  refine ⟨?_, ?_, hr, by rw [hset]⟩
  · have hnil := calls_channel link rig x he hc
    rw [Engine.stepCalls, if_neg (by simp [hoff])] at hnil
    intro k hk hkc
    exact List.filter_eq_nil_iff.1 hnil k hk (by simp [hkc])
  · rw [hev]
    split <;> rfl

/-- **Iterations without a start keep a stopped channel stopped.** -/
theorem stopped_iterate (hx : x.Reachable link rig) (hc : c < x.scheduler.bank.size)
    (hst : (x.scheduler.bank.setting c).runState = .stopped) (m : Nat)
    (hns : ∀ i < m, ¬ ((next link rig)^[i] x).Starts link c) :
    (((next link rig)^[m] x).scheduler.bank.setting c).runState = .stopped := by
  induction m with
  | zero => exact hst
  | succ m ih =>
    -- the state before iteration `m` is reachable and has `c` stopped; no start covers `c`
    have hy := hx.iterate m
    have hcy : c < ((next link rig)^[m] x).scheduler.bank.size := by
      rw [size_iterate]
      exact hc
    have hpol := polled_stopped_of_not_starts hcy (ih fun i hi => hns i (by omega)) (hns m (by omega))
    rw [Function.iterate_succ_apply']
    exact (off_next hy hcy (by rw [hpol]; rfl)).2.2.2

/-- **A stopped channel is silent until a start covers it.** In a reachable state, if the poll
carries out a stop covering `c`, or otherwise leaves `c` inactive, then the iteration's engine
pass makes no call for `c`, reports a stop for `c` exactly when `c` was not idle, resets `c` to
idle with its counters cleared and leaves its setting stopped; and in every later iteration before
one whose poll carries out a start covering `c`, `c` makes no call at all, so no drive. -/
theorem stop_silences_channel (hx : x.Reachable link rig) (hc : c < x.scheduler.bank.size)
    (hoff : x.Stops link c ∨ ((x.polled link).setting c).runState.isActive = false) :
    (∀ k ∈ x.calls link rig, k.channel ≠ c) ∧
      eventsFor c (x.events link rig) =
        (if (x.scheduler.engine.runtime c).phase = .idle then [] else [.stopped]) ∧
      (x.next link rig).scheduler.engine.runtime c = (x.scheduler.engine.runtime c).reset ∧
      ((x.next link rig).scheduler.bank.setting c).runState = .stopped ∧
      ∀ m, (∀ i, 1 ≤ i → i ≤ m → ¬ ((next link rig)^[i] x).Starts link c) →
        ∀ k ∈ ((next link rig)^[m] x).calls link rig, k.channel ≠ c := by
  have hoff' : ((x.polled link).setting c).runState.isActive = false := by
    rcases hoff with h | h
    · rw [polled_stopped_of_stops hc h]
      rfl
    · exact h
  obtain ⟨hcalls, hev, hr, hst⟩ := off_next hx hc hoff'
  refine ⟨hcalls, hev, hr, hst, ?_⟩
  rintro (_ | m) hns
  · exact hcalls
  · -- after iteration `0` the channel is stopped; iterations `1 … m` keep it so, and the
    -- poll of iteration `m + 1` leaves it stopped
    have hy := hx.iterate (m + 1)
    have hcy : c < ((next link rig)^[m + 1] x).scheduler.bank.size := by
      rw [size_iterate]
      exact hc
    have hstm : (((next link rig)^[m] (x.next link rig)).scheduler.bank.setting c).runState =
        .stopped := by
      refine stopped_iterate hx.next (by rw [(sizes_next link rig x).1]; exact hc) hst m ?_
      intro i hi
      rw [← Function.iterate_succ_apply]
      exact hns (i + 1) (by omega) (by omega)
    rw [← Function.iterate_succ_apply] at hstm
    have hpol := polled_stopped_of_not_starts hcy hstm (hns (m + 1) (by omega) (Nat.le_refl _))
    exact (off_next hy hcy (by rw [hpol]; rfl)).1

/-- On the terminal bench, a stop typed for channel `0` of idle default settings. -/
theorem stop_silences_channel_typed :
    let x : Loop Bench.TermBench :=
      ⟨{ editor := ⟨[83, 80, 32, 48]⟩ }, Scheduler.new (Bank.uniform 2), { rx := [.byte 13] }⟩
    x.Stops Bench.TermBench.link 0 ∧
      ∀ k ∈ x.calls Bench.TermBench.link Bench.TermBench.rig, k.channel ≠ 0 :=
  ⟨⟨.one 0, by decide +kernel, rfl⟩,
    (stop_silences_channel (.start _ _ _) (by decide) (.inl ⟨.one 0, by decide +kernel, rfl⟩)).1⟩

end Loop

end Stimulator
