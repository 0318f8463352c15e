import Stimulator.Proofs.Loop
import Stimulator.Bench.TerminalBench

/-!
# What starts a channel

A start only writes a start request into the settings; the engine takes it up in the channel's
next decision, and only from idle. Two consequences:

* a start carried out on an inactive channel begins a fresh run, with its pre-wait, exactly when
  the channel is idle at the engine pass. A channel that has just completed its pulse limit is
  inactive but still waits in inter-wait for one more pass; a start that lands there meets the
  period boundary again, which completes the channel again instead (`Loop.start_fresh_iff_idle`);
* a channel reports a start only in an iteration whose poll carries out a start covering it, or
  in the first iteration on settings installed at boot or by a load that hold a start request
  for it (`Loop.started_needs_start_or_install`), since no iteration leaves an idle channel with
  a request (`Loop.idle_next_stopped`).
-/

namespace Stimulator

variable {σ : Type}

namespace Loop

variable {link : SerialLink σ} {rig : Rig σ} {x : Loop σ} {c : Nat}

theorem setting_polled_of_starts (hc : c < x.scheduler.bank.size) (h : x.Starts link c) :
    (x.polled link).setting c = Bank.requestStart (x.scheduler.bank.setting c) := by
  obtain ⟨sel, hcmd, hcov⟩ := h
  obtain ⟨b', hb'⟩ := Bank.modifySelected_ok Bank.requestStart hcov hc
  rw [polled_eq, hcmd]
  dsimp only
  rw [Command.applyTo, Bank.start, hb', Bank.after, Bank.setting_modifySelected hb' hc, if_pos hcov]

/-- **A start begins a fresh run exactly on an idle channel.** When the poll of an iteration
carries out a start covering an inactive channel `c`, the engine pass reports a start for `c` and
leaves it in its pre-wait with no pulse emitted and the base period if and only if `c` is idle
when the pass begins. -/
theorem start_fresh_iff_idle (hx : x.Reachable link rig) (hc : c < x.scheduler.bank.size)
    (hstart : x.Starts link c) (hoff : (x.scheduler.bank.setting c).runState.isActive = false) :
    (eventsFor c (x.events link rig) = [.started] ∧
        ((x.next link rig).scheduler.engine.runtime c).phase = .preWait ∧
        ((x.next link rig).scheduler.engine.runtime c).pulsesEmitted = 0 ∧
        ((x.next link rig).scheduler.engine.runtime c).currentPeriod =
          (x.scheduler.bank.setting c).times.period) ↔
      (x.scheduler.engine.runtime c).phase = .idle := by
  have he : c < x.scheduler.engine.runtimes.length := hx.sizes ▸ hc
  -- the start turns the inactive run state into a request and keeps the rest of the setting
  have hpol : (x.polled link).setting c =
      { x.scheduler.bank.setting c with runState := .startRequested } := by
    rw [setting_polled_of_starts hc hstart, Bank.requestStart, if_neg (by simp [hoff])]
  obtain ⟨now, w', hr, -, hev⟩ := channel_next link rig x he hc
  rw [hpol] at hr hev
  constructor
  · rintro ⟨hstarted, -⟩
    rw [hev, Option.toList_eq_singleton_iff, Engine.step_started_iff] at hstarted
    exact hstarted.1
  · intro hidle
    rw [Engine.step_idle_start _ _ _ _ _ _ hidle rfl] at hr hev
    refine ⟨hev, by rw [hr], ?_, by rw [hr]⟩
    rw [hr]
    exact (hx.engine.settled c (.inl hidle)).1

/-- On the terminal bench, a start typed for channel `0` of idle default settings. -/
theorem start_fresh_typed :
    let x : Loop Bench.TermBench :=
      ⟨{ editor := ⟨[71, 79, 32, 48]⟩ }, Scheduler.new (Bank.uniform 2), { rx := [.byte 13] }⟩
    x.Starts Bench.TermBench.link 0 ∧ (x.scheduler.bank.setting 0).runState.isActive = false ∧
      (eventsFor 0 (x.events Bench.TermBench.link Bench.TermBench.rig) = [.started] ∧
          ((x.next Bench.TermBench.link Bench.TermBench.rig).scheduler.engine.runtime 0).phase =
            .preWait ∧
          ((x.next Bench.TermBench.link Bench.TermBench.rig).scheduler.engine.runtime 0).pulsesEmitted =
            0 ∧
          ((x.next Bench.TermBench.link Bench.TermBench.rig).scheduler.engine.runtime 0).currentPeriod =
            (x.scheduler.bank.setting 0).times.period ↔
        (x.scheduler.engine.runtime 0).phase = .idle) :=
  ⟨⟨.one 0, by decide +kernel, rfl⟩, rfl,
    start_fresh_iff_idle (.start _ _ _) (by decide) ⟨.one 0, by decide +kernel, rfl⟩ rfl⟩

/-- After an iteration, an idle channel holds no start request. -/
theorem idle_next_stopped (hx : x.Reachable link rig) (hc : c < x.scheduler.bank.size)
    (hidle : ((x.next link rig).scheduler.engine.runtime c).phase = .idle) :
    ((x.next link rig).scheduler.bank.setting c).runState = .stopped := by
  obtain ⟨now, w', hr, hset, -⟩ := channel_next link rig x (hx.sizes ▸ hc) hc
  rw [hr] at hidle
  rw [hset]
  exact Engine.step_idle_stopped _ _ _ _ _ _ hidle

/-- **A channel starts only by a start command or from installed settings.** If the engine pass
of an iteration reports a start for channel `c`, then the iteration's poll carried out a start
covering `c`, or `c` was idle with a start request in the settings the iteration began with, and
those settings were not left by an iteration: they were installed, at boot or by a load. -/
theorem started_needs_start_or_install (hx : x.Reachable link rig) (hc : c < x.scheduler.bank.size)
    (hev : Event.started ∈ eventsFor c (x.events link rig)) :
    x.Starts link c ∨
      ((x.scheduler.bank.setting c).runState = .startRequested ∧
        (x.scheduler.engine.runtime c).phase = .idle ∧
        ∀ y : Loop σ, y.Reachable link rig → y.next link rig ≠ x) := by
  obtain ⟨now, w', -, -, hevs⟩ := channel_next link rig x (hx.sizes ▸ hc) hc
  rw [hevs, Option.mem_toList, Engine.step_started_iff] at hev
  obtain ⟨hidle, hreq⟩ := hev
  by_cases hs : x.Starts link c
  · exact .inl hs
  · -- without a start the poll keeps `c`'s run state or stops it, and a stop leaves no request
    have hreq0 : (x.scheduler.bank.setting c).runState = .startRequested := by
      rw [runState_polled link x hc, if_neg hs] at hreq
      split at hreq
      · cases hreq
      · exact hreq
    refine .inr ⟨hreq0, hidle, ?_⟩
    rintro y hy rfl
    have hcy : c < y.scheduler.bank.size := by
      rw [← (sizes_next link rig y).1]
      exact hc
    rw [idle_next_stopped hy hcy hidle] at hreq0
    cases hreq0

/-- Settings that hold a start request for channel `0` at boot start it with no command. -/
theorem started_from_installed :
    let x : Loop Bench.TermBench := ⟨{}, Scheduler.new ⟨[{ runState := .startRequested }]⟩, {}⟩
    Event.started ∈ eventsFor 0 (x.events Bench.TermBench.link Bench.TermBench.rig) ∧
      (x.Starts Bench.TermBench.link 0 ∨
        ((x.scheduler.bank.setting 0).runState = .startRequested ∧
          (x.scheduler.engine.runtime 0).phase = .idle ∧
          ∀ y : Loop Bench.TermBench, y.Reachable Bench.TermBench.link Bench.TermBench.rig →
            y.next Bench.TermBench.link Bench.TermBench.rig ≠ x)) :=
  ⟨by decide +kernel,
    started_needs_start_or_install (.start _ _ _) (by decide) (by decide +kernel)⟩

end Loop

end Stimulator
