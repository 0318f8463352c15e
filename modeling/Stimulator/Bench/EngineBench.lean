import Stimulator.Waveform.Engine
import Stimulator.Bench.Settings

/-!
# The engine bench

The waveform engine on test doubles: a 16-bit clock that only the bench moves, a delay that adds
its count to the clock, and an output stage that records its actions as text (`A<ch>:<level>`,
`D<ch>+`, `D<ch>-`, `R<ch>`).

* `EngineBench.rig` : the engine's hardware on the bench;
* `EngineStep` : a settings step, some passes, moving the clock, or running for a number of ticks
  the way the engine's own tests do (a pass that does not delay moves the clock by one tick);
* `EngineBench.runStep` : one step and what it shows (`EngineReport`).
-/

namespace Stimulator.Bench

/-- Actions kept per step; later ones are only counted. -/
def actionsKept : Nat := 200

/-- The doubles of the engine bench. -/
structure EngineBench where
  clock : UInt16 := 0
  /-- Ticks delayed in the current step. -/
  delayed : Nat := 0
  /-- The first actions of the current step. -/
  actions : Array String := #[]
  /-- All actions of the current step. -/
  actionCount : Nat := 0
  /-- Positive drives per channel in the current step. -/
  pulses : Array Nat := #[]
  deriving Inhabited

namespace EngineBench

/-- Record one action. -/
def record (b : EngineBench) (action : String) : EngineBench :=
  { b with
    actions := if b.actions.size < actionsKept then b.actions.push action else b.actions
    actionCount := b.actionCount + 1 }

/-- The engine's hardware on the bench. -/
def rig : Rig EngineBench where
  now b := b.clock
  delay k b := { b with clock := b.clock + k, delayed := b.delayed + k.toNat }
  setAmplitude c level b := b.record s!"A{c}:{level.toNat}"
  drive c p b :=
    match p with
    | .positive =>
      let b := b.record s!"D{c}+"
      { b with pulses := b.pulses.modify c (· + 1) }
    | .negative => b.record s!"D{c}-"
  release c b := b.record s!"R{c}"

end EngineBench

/-- A step of the engine bench. -/
inductive EngineStep where
  | settings (s : SettingsStep)
  | iterate (count : Nat)
  | advance (ticks : Nat)
  | runFor (ticks : Nat)
  deriving Repr, Inhabited

/-- Everything on the engine bench. -/
structure EngineState where
  engine : Engine
  bank : Bank
  bench : EngineBench

/-- What one step of the engine bench shows. -/
structure EngineReport where
  actions : Array String
  actionCount : Nat
  pulses : Array Nat
  events : List (Nat × Event)
  delayed : Nat
  clock : UInt16
  runtimes : List Runtime
  settings : List ChannelSetting
  outcome : Option SettingsOutcome

namespace EngineState

/-- One engine pass. -/
def pass (st : EngineState) : EngineState × List (Nat × Event) :=
  let p := Engine.service EngineBench.rig st.engine st.bank st.bench
  (⟨p.engine, p.bank, p.world⟩, p.events)

/-- `k` engine passes and their events in order. -/
def passes : Nat → EngineState → EngineState × List (Nat × Event)
  | 0, st => (st, [])
  | k + 1, st =>
    let (st, ev) := st.pass
    let (st, evs) := passes k st
    (st, ev ++ evs)

/-- Passes until `ticks` have elapsed: a pass that delays counts its delay, one that does not
moves the clock by one tick and counts that. -/
def runFor (ticks : Nat) (st : EngineState) : EngineState × List (Nat × Event) :=
  go ticks st []
where
  go : Nat → EngineState → List (Nat × Event) → EngineState × List (Nat × Event)
    | 0, st, acc => (st, acc)
    | left + 1, st, acc =>
      let before := st.bench.delayed
      let (st, ev) := st.pass
      let spent := st.bench.delayed - before
      if spent = 0 then
        go left { st with bench := { st.bench with clock := st.bench.clock + 1 } } (acc ++ ev)
      else
        go (left + 1 - min spent (left + 1)) st (acc ++ ev)
  termination_by left => left
  decreasing_by all_goals omega

/-- Run one step: the bench's per-step records start empty. -/
def runStep (st : EngineState) (step : EngineStep) : EngineState × EngineReport :=
  let n := st.bank.size
  let st := { st with bench := { st.bench with
    delayed := 0, actions := #[], actionCount := 0, pulses := Array.replicate n 0 } }
  let (st, events, outcome) := match step with
    | .settings s =>
      let (b, o) := s.run st.bank
      ({ st with bank := b }, [], some o)
    | .iterate k =>
      let (st, ev) := passes k st
      (st, ev, none)
    | .advance t =>
      ({ st with bench := { st.bench with clock := st.bench.clock + UInt16.ofNat t } }, [], none)
    | .runFor t =>
      let (st, ev) := runFor t st
      (st, ev, none)
  (st, ⟨st.bench.actions, st.bench.actionCount, st.bench.pulses, events, st.bench.delayed,
    st.bench.clock, st.engine.runtimes, st.bank.channels, outcome⟩)

end EngineState

end Stimulator.Bench
