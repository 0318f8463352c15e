import Stimulator.Console.Terminal

/-!
# The main loop

One iteration polls the terminal once, then runs one engine pass, then shows the pass's events
on the terminal. There is no preemption: a pulse on one channel delays the terminal and every
other channel for its full width.

* `Scheduler` : the settings bank and the engine the loop owns;
* `Scheduler.iterate` : one iteration, with the events of its engine pass.
-/

namespace Stimulator

/-- The settings and the engine of the main loop. -/
structure Scheduler where
  bank : Bank
  engine : Engine
  deriving Inhabited

namespace Scheduler

variable {σ : Type}

/-- A loop with every channel idle. -/
def new (b : Bank) : Scheduler := ⟨b, Engine.new b.size⟩

/-- Show each event on the terminal, in order. -/
def reportAll (link : SerialLink σ) (events : List (Nat × Event)) (t : Terminal) (w : σ) :
    Terminal × σ :=
  events.foldl (fun (acc : Terminal × σ) (c, ev) => Terminal.report link c ev acc.1 acc.2) (t, w)

/-- One iteration: poll the terminal, one engine pass, report the pass's events. -/
def iterate (link : SerialLink σ) (rig : Rig σ) (t : Terminal) (s : Scheduler) (w : σ) :
    Terminal × Scheduler × σ × List (Nat × Event) :=
  let (t, b, w) := t.poll link s.bank s.engine w
  let p := Engine.service rig s.engine b w
  let (t, w) := reportAll link p.events t p.world
  (t, ⟨p.bank, p.engine⟩, w, p.events)

end Scheduler

end Stimulator
