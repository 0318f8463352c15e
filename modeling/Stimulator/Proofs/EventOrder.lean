import Stimulator.Proofs.Loop
import Stimulator.Bench.TerminalBench

/-!
# The order of a channel's events

The events reported for one channel follow its life: a start, then possibly the end of the
pre-wait, period changes and a completion of the pulse limit, then a stop. As a language, the
reports of a channel are the prefixes of the words of

```text
  (started (running periodChanged* completed?)? stopped)*
```

which the automaton `Lifecycle` reads event by event (`Lifecycle.after`): it follows the channel
from idle, to started, to running, to completed, and back to idle on a stop.

The engine keeps to this order on its own. Every state of the automaton matches a wave phase
(`Lifecycle.Fits`), every decision moves the automaton along its edges
(`Engine.step_lifecycle`), and a command changes only the run state, which the automaton looks at
only once the channel has completed. There it is the one thing that can go wrong: a channel that
has reported a completion waits one more pass in inter-wait with a stopped run state, and a start
that lands in that pass makes it active again in inter-wait, so it meets the period boundary again
and reports a second completion, or, under a new pulse limit, pulses on with no new start.

* `Lifecycle`, `Lifecycle.after` : the automaton and its reading of an event list;
* `Lifecycle.Fits` : the automaton states that a channel's phase and run state allow;
* `Engine.step_lifecycle` : a decision reports what the automaton accepts, and fits after it;
* `Loop.CleanRun` : the runs from boot in which no start and no install makes a channel active
  right after it reported a completion, with the events reported so far;
* `Loop.events_follow_lifecycle` : in these runs the reports of the channel are a prefix of a
  word of the language.
-/

namespace Stimulator

variable {σ : Type}

/-- Where a channel is in its life, as its reports show it. -/
inductive Lifecycle where
  /-- No run, or the last one stopped. -/
  | idle
  /-- Started; the pre-wait runs. -/
  | started
  /-- Pulsing. -/
  | running
  /-- The pulse limit was reported; the stop follows. -/
  | completed
  deriving DecidableEq, Repr

namespace Lifecycle

/-- The edges of the automaton; an event with no edge is refused. -/
def next : Lifecycle → Event → Option Lifecycle
  | .idle, .started => some .started
  | .idle, .running => none
  | .idle, .periodChanged _ => none
  | .idle, .completed _ => none
  | .idle, .stopped => none
  | .started, .started => none
  | .started, .running => some .running
  | .started, .periodChanged _ => none
  | .started, .completed _ => none
  | .started, .stopped => some .idle
  | .running, .started => none
  | .running, .running => none
  | .running, .periodChanged _ => some .running
  | .running, .completed _ => some .completed
  | .running, .stopped => some .idle
  | .completed, .started => none
  | .completed, .running => none
  | .completed, .periodChanged _ => none
  | .completed, .completed _ => none
  | .completed, .stopped => some .idle

/-- Where the automaton is after reading `events` from `g`, unless it refused one of them. -/
def after : Lifecycle → List Event → Option Lifecycle
  | g, [] => some g
  | g, e :: es => (g.next e).bind (·.after es)

@[simp] theorem after_nil (g : Lifecycle) : g.after [] = some g := rfl

theorem after_append (g : Lifecycle) (xs ys : List Event) :
    g.after (xs ++ ys) = (g.after xs).bind (·.after ys) := by
  induction xs generalizing g with
  | nil => rfl
  | cons e es ih =>
    simp only [List.cons_append, after]
    cases g.next e <;> simp [ih]

theorem eq_completed_of_next {g : Lifecycle} {e : Event} (h : g.next e = some .completed) :
    ∃ n, e = .completed n := by
  cases g <;> cases e <;> simp_all [next]

/-- The automaton enters `completed` only on a completion. -/
theorem getLast?_of_after_completed {g : Lifecycle} {events : List Event} (hne : events ≠ [])
    (h : g.after events = some .completed) : ∃ n, events.getLast? = some (.completed n) := by
  rw [← List.dropLast_concat_getLast hne, after_append] at h
  rw [List.getLast?_eq_some_getLast hne]
  cases hxs : g.after events.dropLast with
  | none => simp [hxs] at h
  | some g' =>
    simp only [hxs, Option.bind_some, after] at h
    obtain ⟨n, hn⟩ := eq_completed_of_next (g := g') (by simpa using h)
    exact ⟨n, by rw [hn]⟩

/-- The words of `(started (running periodChanged* completed?)? stopped)*`: the lists that lead
the automaton from idle back to idle. -/
def IsWord (events : List Event) : Prop := idle.after events = some .idle

/-- The automaton states a channel allows: idle when idle, started in the pre-wait, running while
it pulses or waits between pulses, and completed only in inter-wait with an inactive run state. -/
def Fits : Lifecycle → Runtime → ChannelSetting → Prop
  | .idle, r, _ => r.phase = .idle
  | .started, r, _ => r.phase = .preWait
  | .running, r, _ => r.phase = .pulse ∨ r.phase = .interWait
  | .completed, r, s => r.phase = .interWait ∧ s.runState.isActive = false

section Fits

variable {g : Lifecycle} {r : Runtime} {s : ChannelSetting}

theorem eq_idle_of_fits (h : g.Fits r s) (hr : r.phase = .idle) : g = .idle := by
  cases g <;> simp_all [Fits]

theorem eq_started_of_fits (h : g.Fits r s) (hr : r.phase = .preWait) : g = .started := by
  cases g <;> simp_all [Fits]

theorem eq_running_of_fits (h : g.Fits r s) (hact : s.runState.isActive = true)
    (hr : r.phase = .pulse ∨ r.phase = .interWait) : g = .running := by
  cases g <;> rcases hr with hr | hr <;> simp_all [Fits]

/-- A stop closes every run that has begun. -/
theorem next_stopped (h : g.Fits r s) (hr : r.phase ≠ .idle) : g.next .stopped = some .idle := by
  cases g <;> simp_all [Fits, next]

/-- Only the completed state looks at the run state. -/
theorem fits_setting {s' : ChannelSetting} (h : g.Fits r s)
    (hs' : g = .completed → s'.runState.isActive = false) : g.Fits r s' := by
  cases g with
  | completed => exact ⟨h.1, hs' rfl⟩
  | _ => exact h

/-- Every state the automaton reaches is the start of a word: a stop, if anything, ends it. -/
theorem isWord_append_close (hg : idle.after events = some g) :
    IsWord (events ++ if g = .idle then [] else [.stopped]) := by
  unfold IsWord
  rw [after_append, hg, Option.bind_some]
  cases g <;> rfl

end Fits

end Lifecycle

namespace Engine

/-- **A decision keeps to the lifecycle**: from an automaton state the channel fits, the event of
the decision is accepted, and the channel fits the state it leads to. -/
theorem step_lifecycle (rig : Rig σ) (channel : Nat) (now : UInt16) (r : Runtime) (s : ChannelSetting)
    (w : σ) {g : Lifecycle} (h : g.Fits r s) :
    ∃ g', g.after (step rig channel now r s w).event.toList = some g' ∧
      g'.Fits (step rig channel now r s w).runtime (step rig channel now r s w).setting := by
  refine step_rec rig channel now r s w ?inactive ?start ?clamp ?preWait ?running ?pulse ?interWait
    ?completed ?boundary
  case inactive =>
    intro _
    by_cases hidle : r.phase = .idle
    · refine ⟨.idle, ?_, rfl⟩
      rw [Lifecycle.eq_idle_of_fits h hidle]
      simp [hidle]
    · exact ⟨.idle, by simp [hidle, Lifecycle.after, Lifecycle.next_stopped h hidle], rfl⟩
  case start =>
    intro hp _
    rw [Lifecycle.eq_idle_of_fits h hp]
    exact ⟨.started, rfl, rfl⟩
  case clamp =>
    intro hp _
    rw [Lifecycle.eq_idle_of_fits h hp]
    exact ⟨.idle, rfl, hp⟩
  case preWait =>
    intro _ hp _
    rw [Lifecycle.eq_started_of_fits h hp]
    exact ⟨.started, rfl, hp⟩
  case running =>
    intro _ hp _
    rw [Lifecycle.eq_started_of_fits h hp]
    exact ⟨.running, rfl, .inl rfl⟩
  case pulse =>
    intro hact hp
    rw [Lifecycle.eq_running_of_fits h hact (.inl hp)]
    exact ⟨.running, rfl, .inr rfl⟩
  case interWait =>
    intro hact hp _
    rw [Lifecycle.eq_running_of_fits h hact (.inr hp)]
    exact ⟨.running, rfl, .inr hp⟩
  case completed =>
    intro hact hp _ _
    rw [Lifecycle.eq_running_of_fits h hact (.inr hp)]
    exact ⟨.completed, rfl, hp, rfl⟩
  case boundary =>
    intro hact hp _ hc
    rw [Lifecycle.eq_running_of_fits h hact (.inr hp)]
    -- short of the limit the boundary reports nothing or a new period
    rcases (periodBoundary_of_not_limit hc).2 with hev | ⟨p, hev⟩ <;>
      exact ⟨.running, by simp [hev, Lifecycle.after, Lifecycle.next], .inl rfl⟩

end Engine

theorem eventsFor_append (c : Nat) (xs ys : List (Nat × Event)) :
    eventsFor c (xs ++ ys) = eventsFor c xs ++ eventsFor c ys := by
  simp [eventsFor, List.filterMap_append]

/-- A completion of the pulse limit. -/
def Event.isCompletion : Event → Bool
  | .started => false
  | .running => false
  | .periodChanged _ => false
  | .completed _ => true
  | .stopped => false

/-- The last event reported for channel `c` is a completion. -/
def justCompleted (c : Nat) (h : List (Nat × Event)) : Bool :=
  (eventsFor c h).getLast?.any Event.isCompletion

theorem justCompleted_of_after {c : Nat} {h : List (Nat × Event)}
    (hg : Lifecycle.idle.after (eventsFor c h) = some .completed) : justCompleted c h = true := by
  have hne : eventsFor c h ≠ [] := by
    intro hnil
    rw [hnil] at hg
    cases hg
  obtain ⟨n, hn⟩ := Lifecycle.getLast?_of_after_completed hne hg
  simp [justCompleted, hn, Event.isCompletion]

namespace Loop

variable {link : SerialLink σ} {rig : Rig σ}

theorem not_starts_of_command? {x : Loop σ} {c : Nat} (h : x.command? link = none) :
    ¬ x.Starts link c := by
  rintro ⟨sel, hsel, -⟩
  rw [h] at hsel
  cases hsel

variable (link rig) in
/-- The runs of the main loop from boot, with the events reported so far, in which no start that
a poll carries out and no install of settings makes channel `c` active while the last event
reported for `c` is a completion. -/
inductive CleanRun (c : Nat) : Loop σ → List (Nat × Event) → Prop
  | boot (t : Terminal) (b : Bank) (w : σ) : CleanRun c ⟨t, Scheduler.new b, w⟩ []
  | next {x : Loop σ} {h : List (Nat × Event)} : CleanRun c x h →
      (justCompleted c h = true → ¬ x.Starts link c) →
      CleanRun c (x.next link rig) (h ++ x.events link rig)
  | install {x : Loop σ} {h : List (Nat × Event)} (t : Terminal) (b : Bank) (w : σ) :
      CleanRun c x h → b.size = x.scheduler.bank.size →
      (justCompleted c h = true → (b.setting c).runState.isActive = false) →
      CleanRun c ⟨t, { x.scheduler with bank := b }, w⟩ h

variable {c : Nat} {x : Loop σ} {h : List (Nat × Event)}

theorem CleanRun.reachable (hrun : x.CleanRun link rig c h) : x.Reachable link rig := by
  induction hrun with
  | boot t b w => exact .start t b w
  | next _ _ ih => exact .next ih
  | install t b w _ hb _ ih => exact .install t b w ih hb

/-- What the poll leaves of a channel's setting fits the automaton as the bank did, unless the
poll starts the channel right after a completion. -/
theorem fits_polled {g : Lifecycle} (hc : c < x.scheduler.bank.size)
    (hfit : g.Fits (x.scheduler.engine.runtime c) (x.scheduler.bank.setting c))
    (hstart : g = .completed → ¬ x.Starts link c) :
    g.Fits (x.scheduler.engine.runtime c) ((x.polled link).setting c) := by
  refine Lifecycle.fits_setting hfit fun hg => ?_
  -- a completed channel is inactive, and a poll without a start keeps it so
  subst hg
  rw [runState_polled link x hc, if_neg (hstart rfl)]
  split
  · rfl
  · exact hfit.2

/-- One iteration keeps to the lifecycle of channel `c`. -/
theorem lifecycle_next {g : Lifecycle} (hx : x.Reachable link rig)
    (hg : Lifecycle.idle.after (eventsFor c h) = some g)
    (hfit : g.Fits (x.scheduler.engine.runtime c) (x.scheduler.bank.setting c))
    (hstart : g = .completed → ¬ x.Starts link c) :
    ∃ g', Lifecycle.idle.after (eventsFor c (h ++ x.events link rig)) = some g' ∧
      g'.Fits ((x.next link rig).scheduler.engine.runtime c) ((x.next link rig).scheduler.bank.setting c) := by
  rw [eventsFor_append, Lifecycle.after_append, hg, Option.bind_some]
  by_cases hc : c < x.scheduler.bank.size
  · obtain ⟨now, w', hr, hset, hev⟩ := channel_next link rig x (hx.sizes ▸ hc) hc
    rw [hr, hset, hev]
    exact Engine.step_lifecycle _ _ _ _ _ _ (fits_polled hc hfit hstart)
  · -- a channel the loop does not have reports nothing and stays idle
    have hlen : x.scheduler.engine.runtimes.length ≤ c := by
      rw [← hx.sizes]
      omega
    have hlen' : (x.next link rig).scheduler.engine.runtimes.length ≤ c := by
      rw [(sizes_next link rig x).2]
      exact hlen
    have hidle : ∀ e : Engine, e.runtimes.length ≤ c → (e.runtime c).phase = .idle := by
      intro e he
      rw [Engine.runtime_of_length_le he]
    rw [Lifecycle.eq_idle_of_fits hfit (hidle _ hlen)]
    refine ⟨.idle, ?_, hidle _ hlen'⟩
    rw [events, Scheduler.iterate]
    exact congrArg (Lifecycle.idle.after ·) (Engine.eventsFor_service_of_le _ _ _ hlen)

/-- Along a clean run the automaton reads the reports of channel `c` without refusing one, and the
channel fits the state it has reached. -/
theorem CleanRun.lifecycle (hrun : x.CleanRun link rig c h) :
    ∃ g, Lifecycle.idle.after (eventsFor c h) = some g ∧
      g.Fits (x.scheduler.engine.runtime c) (x.scheduler.bank.setting c) := by
  induction hrun with
  | boot t b w =>
    refine ⟨.idle, rfl, ?_⟩
    simp [Lifecycle.Fits, Scheduler.new, Engine.new, Engine.runtime, List.getD_eq_getElem?_getD,
      List.getElem?_replicate]
    split <;> rfl
  | @next x h hrun' hclean ih =>
    obtain ⟨g, hg, hfit⟩ := ih
    exact lifecycle_next hrun'.reachable hg hfit fun hc => hclean (justCompleted_of_after (hc ▸ hg))
  | @install x h t b w _ _ hclean ih =>
    obtain ⟨g, hg, hfit⟩ := ih
    exact ⟨g, hg, Lifecycle.fits_setting hfit fun hc => hclean (justCompleted_of_after (hc ▸ hg))⟩

/-- **The reports of a channel follow its lifecycle.** In every run of the main loop from boot in
which no start and no install makes channel `c` active right after it reported a completion, the
events reported for `c` are a prefix of a word of `(started (running periodChanged* completed?)?
stopped)*`: a stop comes only after a start, the end of the pre-wait only right after the start,
period changes only while pulsing, and at most one completion per run, right before its stop. -/
theorem events_follow_lifecycle (hrun : x.CleanRun link rig c h) :
    ∃ rest, Lifecycle.IsWord (eventsFor c h ++ rest) := by
  obtain ⟨g, hg, -⟩ := hrun.lifecycle
  exact ⟨_, Lifecycle.isWord_append_close hg⟩

/-- On the terminal bench, a channel started at boot with a limit of one pulse reports its start,
the end of its pre-wait, its completion and its stop, one iteration each, with no command typed. -/
theorem events_follow_lifecycle_limit_run :
    let s : ChannelSetting :=
      { runState := .startRequested, times := { preWait := 0, period := 0 }, pulseLimit := 1 }
    let step := next Bench.TermBench.link Bench.TermBench.rig
    let ev := events Bench.TermBench.link Bench.TermBench.rig
    let x₀ : Loop Bench.TermBench := ⟨{}, Scheduler.new ⟨[s]⟩, {}⟩
    let h := [] ++ ev x₀ ++ ev (step x₀) ++ ev (step (step x₀)) ++ ev (step (step (step x₀))) ++
      ev (step (step (step (step x₀))))
    (step (step (step (step (step x₀))))).CleanRun Bench.TermBench.link Bench.TermBench.rig 0 h ∧
      eventsFor 0 h = [.started, .running, .completed 1, .stopped] ∧
      ∃ rest, Lifecycle.IsWord (eventsFor 0 h ++ rest) := by
  intro s step ev x₀ h
  have hrun : (step (step (step (step (step x₀))))).CleanRun Bench.TermBench.link Bench.TermBench.rig 0 h :=
    .next (.next (.next (.next (.next (.boot _ _ _)
      (fun hc => absurd hc (by decide)))
      (fun hc => absurd hc (by decide +kernel)))
      (fun hc => absurd hc (by decide +kernel)))
      (fun hc => absurd hc (by decide +kernel)))
      -- the completion was the last report: the iteration after it carries out no command
      (fun _ => not_starts_of_command? (by decide +kernel))
  exact ⟨hrun, by decide +kernel, events_follow_lifecycle hrun⟩

end Loop

end Stimulator
