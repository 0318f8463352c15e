import Stimulator.Proofs.Loop
import Stimulator.Bench.TerminalBench

/-!
# The pulse limit

A channel started with a pulse limit `P > 0` counts its pulses in its runtime and checks the
count only at a period boundary, after the wait that follows a pulse. Pulse, inter-wait and
boundary are separate passes, and the engine ends the run by writing the run state, so the run is
followed through its stages pass by pass (`Engine.Course`): ready, pre-wait, due to pulse,
between pulses, completed, and back to idle. Each stage fixes the drives made so far and the
events reported so far, and every decision takes a stage to a stage (`Engine.Course.step`).

* `Event.closes`, `Unfinished` : the events that end a run, and a history without them;
* `Engine.Course` : the stages of a run under the limit, with their drive count and history;
  `Engine.Course.atLimit_iff` : the engine's limit check in terms of the count;
* `Engine.Course.drives_le`, `Engine.Course.of_idle` : at most `P` drives in any stage, and
  once the run is back to idle exactly `P`, with one completion followed by one stop;
* `Loop.course_next` : one iteration of the main loop moves the channel's course on;
* `Loop.pulse_limit_run` : the whole statement, over the iterations of the main loop in which no
  command touches the channel.
-/

namespace Stimulator

variable {σ : Type}

/-- The events that end a run: a completion of the pulse limit, or a stop. -/
@[simp] def Event.closes : Event → Bool
  | .started => false
  | .running => false
  | .periodChanged _ => false
  | .completed _ => true
  | .stopped => true

/-- A history of events, pass by pass, in which nothing ended a run. -/
def Unfinished (h : List (List Event)) : Prop := ∀ l ∈ h, ∀ e ∈ l, e.closes = false

theorem Unfinished.append {h : List (List Event)} {o : Option Event} (hh : Unfinished h)
    (ho : ∀ e, o = some e → e.closes = false) : Unfinished (h ++ [o.toList]) := by
  intro l hl e he
  rcases List.mem_append.1 hl with hl | hl
  · exact hh l hl e he
  · rw [List.mem_singleton.1 hl, Option.mem_toList] at he
    exact ho e he

namespace Engine

/-- The course of a channel's run under the pulse limit `P`, from a start request on an idle
channel: its runtime and setting after some passes, the positive drives those passes made and
the events they reported, pass by pass. -/
inductive Course (P : UInt16) : Runtime → ChannelSetting → Nat → List (List Event) → Prop
  /-- Idle with a start request, before the run's first pass. -/
  | ready {r : Runtime} {s : ChannelSetting} :
      r.phase = .idle → s.runState = .startRequested → s.pulseLimit = P → r.pulsesEmitted = 0 →
      Course P r s 0 []
  /-- In the pre-wait. -/
  | preWait {r : Runtime} {s : ChannelSetting} {h : List (List Event)} :
      r.phase = .preWait → s.runState.isActive = true → s.pulseLimit = P → r.pulsesEmitted = 0 →
      Unfinished h → Course P r s 0 h
  /-- Due to emit pulse `d + 1`, below the limit. -/
  | pulse {r : Runtime} {s : ChannelSetting} {d : Nat} {h : List (List Event)} :
      r.phase = .pulse → s.runState.isActive = true → s.pulseLimit = P →
      r.pulsesEmitted.toNat = d → d < P.toNat → Unfinished h → Course P r s d h
  /-- Waiting after pulse `d`, at most the limit. -/
  | interWait {r : Runtime} {s : ChannelSetting} {d : Nat} {h : List (List Event)} :
      r.phase = .interWait → s.runState.isActive = true → s.pulseLimit = P →
      r.pulsesEmitted.toNat = d → d ≤ P.toNat → Unfinished h → Course P r s d h
  /-- The limit reached and reported; the channel waits for the pass that takes it to idle. -/
  | completed {r : Runtime} {s : ChannelSetting} {h : List (List Event)} :
      r.phase = .interWait → s.runState = .stopped → Unfinished h →
      Course P r s P.toNat (h ++ [[.completed P.toUInt32]])
  /-- Back to idle with the stop reported; the passes after it report nothing. -/
  | ended {r : Runtime} {s : ChannelSetting} {h rest : List (List Event)} :
      r.phase = .idle → s.runState = .stopped → Unfinished h → (∀ l ∈ rest, l = []) →
      Course P r s P.toNat (h ++ [[.completed P.toUInt32], [.stopped]] ++ rest)

namespace Course

variable {P : UInt16} {r : Runtime} {s : ChannelSetting} {d : Nat} {h : List (List Event)}

theorem drives_le (hcourse : Course P r s d h) : d ≤ P.toNat := by
  cases hcourse with
  | ready | preWait => exact Nat.zero_le _
  | pulse _ _ _ _ hd _ => exact Nat.le_of_lt hd
  | interWait _ _ _ _ hd _ => exact hd
  | completed | ended => exact Nat.le_refl _

/-- A course that is idle after at least one pass has ended. -/
theorem of_idle (hcourse : Course P r s d h) (hidle : r.phase = .idle) (hh : h ≠ []) :
    d = P.toNat ∧ ∃ pre rest, h = pre ++ [[.completed P.toUInt32], [.stopped]] ++ rest ∧
      Unfinished pre ∧ ∀ l ∈ rest, l = [] := by
  cases hcourse with
  | ready => exact absurd rfl hh
  | preWait hp | pulse hp | interWait hp | completed hp => rw [hidle] at hp; cases hp
  | ended _ _ hpre hrest => exact ⟨rfl, _, _, rfl, hpre, hrest⟩

/-- The engine's limit check in the course's terms: with `P > 0`, the limit is reached exactly when
the count is at least `P`. -/
theorem atLimit_iff (hP : 0 < P.toNat) (hl : s.pulseLimit = P) (he : r.pulsesEmitted.toNat = d) :
    (s.pulseLimit ≠ 0 ∧ s.pulseLimit.toUInt32 ≤ r.pulsesEmitted) ↔ P.toNat ≤ d := by
  have hP0 : P ≠ 0 := fun h0 => by simp [h0] at hP
  rw [UInt32.le_iff_toNat_le, hl, UInt16.toNat_toUInt32, he]
  exact ⟨fun h => h.2, fun h => ⟨hP0, h⟩⟩

variable {rig : Rig σ} {c : Nat} {now : UInt16} {w : σ}

/-- **Every decision moves a course on.** -/
theorem step (hP : 0 < P.toNat) (hcourse : Course P r s d h) :
    Course P (Engine.step rig c now r s w).runtime (Engine.step rig c now r s w).setting
      (d + (stepCalls c r s).count (.drive c .positive)) (h ++ [(Engine.step rig c now r s w).event.toList]) := by
  rw [count_drive_stepCalls]
  cases hcourse with
  | ready hp hs hl he =>
    rw [step_idle_start _ _ _ _ _ _ hp hs, if_neg (by simp [hp])]
    exact .preWait rfl (by simp [hs]) hl he (Unfinished.append (fun _ => by simp) (by simp))
  | preWait hp hact hl he hh =>
    rw [if_neg (by simp [hp])]
    by_cases hw : s.times.preWait ≤ Clock.elapsed now r.lastTransition
    · rw [step_preWait_elapsed _ _ _ _ _ _ hact hp hw]
      exact .pulse rfl rfl hl (by simp [he]) hP (hh.append (by simp))
    · rw [step_preWait_waiting _ _ _ _ _ _ hact hp hw]
      exact .preWait hp hact hl he (hh.append (by simp))
  | pulse hp hact hl he hd hh =>
    rw [step_pulse _ _ _ _ _ _ hact hp, if_pos ⟨hact, hp⟩]
    -- below the limit, the count of pulses does not saturate
    have hcount : (Word.satAdd32 r.pulsesEmitted 1).toNat = d + 1 := by
      have hP16 := P.toNat_lt
      rw [Word.toNat_satAdd32, he]
      simp only [UInt32.reduceToNat]
      omega
    exact .interWait rfl hact hl hcount hd (hh.append (by simp))
  | interWait hp hact hl he hd hh =>
    rw [if_neg (by simp [hp]), Nat.add_zero]
    by_cases hw : Clock.elapsed now r.lastTransition < r.currentPeriod
    · rw [step_interWait_waiting _ _ _ _ _ _ hact hp hw]
      exact .interWait hp hact hl he hd (hh.append (by simp))
    · by_cases hlim : s.pulseLimit ≠ 0 ∧ s.pulseLimit.toUInt32 ≤ r.pulsesEmitted
      · rw [step_interWait_completed _ _ _ _ _ _ hact hp hw hlim]
        -- the count is at the limit: not below it, and never above it
        have hdP : d = P.toNat := by
          have := (atLimit_iff hP hl he).1 hlim
          omega
        have hpe : r.pulsesEmitted = P.toUInt32 := by
          apply UInt32.toNat_inj.1
          rw [he, UInt16.toNat_toUInt32, hdP]
        rw [hpe, hdP]
        exact .completed hp rfl hh
      · rw [step_interWait_next _ _ _ _ _ _ hact hp hw hlim]
        obtain ⟨hpe, hev⟩ := periodBoundary_of_not_limit hlim
        have hdP : d < P.toNat := by
          have := (atLimit_iff hP hl he).not.1 hlim
          omega
        refine .pulse rfl hact hl (by rw [← he, ← hpe]) hdP (hh.append ?_)
        rcases hev with hev | ⟨p, hev⟩ <;> simp [hev]
  | @completed h hp hs hh =>
    have hoff : ¬(s.runState.isActive = true ∧ r.phase = .pulse) := by simp [hs]
    rw [step_of_inactive rig c now r s w (by simp [hs]), if_neg (show r.phase ≠ .idle by simp [hp]),
      if_neg hoff, Nat.add_zero]
    have hlist : h ++ [[Event.completed P.toUInt32]] ++ [(some Event.stopped).toList] =
        h ++ [[.completed P.toUInt32], [.stopped]] ++ [] := by
      simp
    rw [hlist]
    exact .ended rfl rfl hh (by simp)
  | @ended h rest hp hs hh hrest =>
    have hoff : ¬(s.runState.isActive = true ∧ r.phase = .pulse) := by simp [hs]
    rw [step_of_inactive rig c now r s w (by simp [hs]), if_pos hp, if_neg hoff, Nat.add_zero,
      List.append_assoc _ rest]
    refine .ended rfl rfl hh ?_
    intro l hl
    rcases List.mem_append.1 hl with hl | hl
    · exact hrest l hl
    · simpa using hl

end Course

end Engine

namespace Loop

variable {link : SerialLink σ} {rig : Rig σ} {x : Loop σ} {c : Nat}

theorem count_drive_calls (hs : x.scheduler.bank.size = x.scheduler.engine.runtimes.length)
    (hc : c < x.scheduler.bank.size) :
    (x.calls link rig).count (.drive c .positive) =
      (Engine.stepCalls c (x.scheduler.engine.runtime c) ((x.polled link).setting c)).count
        (.drive c .positive) := by
  rw [← calls_channel link rig x (hs ▸ hc) hc, List.count_filter]
  simp [Call.channel]

theorem course_next {P : UInt16} {d : Nat} {h : List (List Event)} (hP : 0 < P.toNat)
    (hx : x.Reachable link rig) (hc : c < x.scheduler.bank.size)
    (hcourse : Engine.Course P (x.scheduler.engine.runtime c) ((x.polled link).setting c) d h) :
    Engine.Course P ((x.next link rig).scheduler.engine.runtime c)
      ((x.next link rig).scheduler.bank.setting c)
      (d + (x.calls link rig).count (.drive c .positive)) (h ++ [eventsFor c (x.events link rig)]) := by
  obtain ⟨now, w', hr, hset, hev⟩ := channel_next link rig x (hx.sizes ▸ hc) hc
  rw [hr, hset, hev, count_drive_calls hx.sizes hc]
  exact hcourse.step hP

/-- The positive drives of channel `c` over the first `n` iterations from `x`. -/
def drivesOver (link : SerialLink σ) (rig : Rig σ) (c : Nat) : Nat → Loop σ → Nat
  | 0, _ => 0
  | n + 1, x => drivesOver link rig c n x + (((next link rig)^[n] x).calls link rig).count (.drive c .positive)

/-- The events of channel `c` over the first `n` iterations from `x`, iteration by iteration. -/
def historyOver (link : SerialLink σ) (rig : Rig σ) (c n : Nat) (x : Loop σ) : List (List Event) :=
  (List.range n).map fun i => eventsFor c (((next link rig)^[i] x).events link rig)

theorem drivesOver_succ (n : Nat) :
    drivesOver link rig c (n + 1) x =
      drivesOver link rig c n x + (((next link rig)^[n] x).calls link rig).count (.drive c .positive) :=
  rfl

theorem historyOver_succ (n : Nat) :
    historyOver link rig c (n + 1) x =
      historyOver link rig c n x ++ [eventsFor c (((next link rig)^[n] x).events link rig)] := by
  simp [historyOver, List.range_succ]

/-- Before each iteration of a run that no command touches, channel `c` is on its course, with
the drives and the events of the iterations so far. -/
theorem course_iterate {P : UInt16} (hP : 0 < P.toNat) (hx : x.Reachable link rig)
    (hc : c < x.scheduler.bank.size) (hidle : (x.scheduler.engine.runtime c).phase = .idle)
    (hreq : ((x.polled link).setting c).runState = .startRequested)
    (hl : ((x.polled link).setting c).pulseLimit = P) {n : Nat}
    (huntouched : ∀ i < n, 0 < i →
      (((next link rig)^[i] x).polled link).setting c = ((next link rig)^[i] x).scheduler.bank.setting c) :
    ∀ i < n, Engine.Course P (((next link rig)^[i] x).scheduler.engine.runtime c)
      ((((next link rig)^[i] x).polled link).setting c) (drivesOver link rig c i x)
      (historyOver link rig c i x) := by
  intro i
  induction i with
  | zero =>
    intro _
    exact .ready hidle hreq hl (hx.engine.settled c (.inl hidle)).1
  | succ i ih =>
    intro hi
    have hy := hx.iterate i
    have hcy : c < ((next link rig)^[i] x).scheduler.bank.size := by
      rw [size_iterate]
      exact hc
    -- the command of iteration `i + 1` leaves `c` as iteration `i` left it
    rw [huntouched (i + 1) hi (Nat.succ_pos i), Function.iterate_succ_apply', drivesOver_succ,
      historyOver_succ]
    exact course_next hP hy hcy (ih (by omega))

/-- **A run under the pulse limit makes at most `P` pulses, and exactly `P` when it ends.** In a
reachable state, let the poll of an iteration leave channel `c` idle with a start request and the
pulse limit `P > 0`, and let no command of the `n - 1` iterations after it touch `c`. Over these
`n` iterations `c` is driven positive at most `P` times; and if `c` is idle again after them, it
was driven exactly `P` times, and its events, iteration by iteration, are a completion of `P`
pulses, a stop in the next iteration, and nothing after, with no completion or stop before. -/
theorem pulse_limit_run {P : UInt16} (hx : x.Reachable link rig) (hc : c < x.scheduler.bank.size)
    (hidle : (x.scheduler.engine.runtime c).phase = .idle)
    (hreq : ((x.polled link).setting c).runState = .startRequested)
    (hl : ((x.polled link).setting c).pulseLimit = P) (hP : 0 < P) (n : Nat)
    (huntouched : ∀ i < n, 0 < i →
      (((next link rig)^[i] x).polled link).setting c = ((next link rig)^[i] x).scheduler.bank.setting c) :
    drivesOver link rig c n x ≤ P.toNat ∧
      (0 < n → (((next link rig)^[n] x).scheduler.engine.runtime c).phase = .idle →
        drivesOver link rig c n x = P.toNat ∧
          ∃ pre rest, historyOver link rig c n x = pre ++ [[.completed P.toUInt32], [.stopped]] ++ rest ∧
            Unfinished pre ∧ ∀ l ∈ rest, l = []) := by
  have hP' : 0 < P.toNat := by simpa [UInt16.lt_iff_toNat_lt] using hP
  cases n with
  | zero => exact ⟨Nat.zero_le _, fun h => absurd h (Nat.lt_irrefl 0)⟩
  | succ n =>
    -- the course before the last iteration, moved on by it
    have hy := hx.iterate n
    have hcy : c < ((next link rig)^[n] x).scheduler.bank.size := by
      rw [size_iterate]
      exact hc
    have hcourse := course_next hP' hy hcy
      (course_iterate hP' hx hc hidle hreq hl huntouched n (Nat.lt_succ_self n))
    rw [← Function.iterate_succ_apply' (next link rig), ← drivesOver_succ, ← historyOver_succ] at hcourse
    refine ⟨hcourse.drives_le, fun _ hidle' => hcourse.of_idle hidle' ?_⟩
    -- one entry of the history per iteration
    simp [historyOver]

/-- On the terminal bench, a channel with no pre-wait, no period and a limit of one pulse, started
at boot, is idle again after five iterations with its one pulse made. -/
theorem pulse_limit_run_bench :
    let s : ChannelSetting :=
      { runState := .startRequested, times := { preWait := 0, period := 0 }, pulseLimit := 1 }
    let x : Loop Bench.TermBench := ⟨{}, Scheduler.new ⟨[s]⟩, {}⟩
    (((next Bench.TermBench.link Bench.TermBench.rig)^[5] x).scheduler.engine.runtime 0).phase = .idle ∧
      drivesOver Bench.TermBench.link Bench.TermBench.rig 0 5 x ≤ (1 : UInt16).toNat ∧
      (0 < 5 → (((next Bench.TermBench.link Bench.TermBench.rig)^[5] x).scheduler.engine.runtime 0).phase =
          .idle →
        drivesOver Bench.TermBench.link Bench.TermBench.rig 0 5 x = (1 : UInt16).toNat ∧
          ∃ pre rest, historyOver Bench.TermBench.link Bench.TermBench.rig 0 5 x =
              pre ++ [[.completed (1 : UInt16).toUInt32], [.stopped]] ++ rest ∧
            Unfinished pre ∧ ∀ l ∈ rest, l = []) :=
  ⟨by decide +kernel,
    pulse_limit_run (.start _ _ _) (by decide) rfl rfl rfl (by decide) 5 (by decide +kernel)⟩

end Loop

end Stimulator
