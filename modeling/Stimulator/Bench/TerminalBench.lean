import Stimulator.Scheduler
import Stimulator.Bench.Settings

/-!
# The terminal bench

The main loop with the terminal on test doubles: the engine reads a tick counter that moves once
after every iteration, the delay moves it once per tick, the output stage only counts positive
drives, and the UART is a mock whose transmit buffer has a capacity and may be set to fail,
whose receive queue holds bytes and fault markers, and whose overrun count is set by the bench.

* `TermStep` : settings steps, typed input, iterations, ticks and direct terminal calls;
* `TermState.runStep` : one step and what it shows (`TermReport`).
-/

namespace Stimulator.Bench

/-- An item waiting in the mock receive queue. -/
inductive RxItem where
  | byte (b : UInt8)
  | fault
  deriving DecidableEq, Repr, Inhabited

/-- The doubles of the terminal bench. -/
structure TermBench where
  counter : UInt16 := 0
  delayed : Nat := 0
  tx : Array UInt8 := #[]
  txCapacity : Nat := 1024
  txFails : Bool := false
  rx : List RxItem := []
  overruns : UInt32 := 0
  pulses : Array Nat := #[]
  deriving Inhabited

namespace TermBench

/-- The mock UART. -/
def link : SerialLink TermBench where
  tryWrite bytes b :=
    if b.txFails then (none, b)
    else
      let n := min bytes.length (b.txCapacity - b.tx.size)
      (some n, { b with tx := b.tx ++ (bytes.take n).toArray })
  tryRead b :=
    match b.rx with
    | [] => (.nothing, b)
    | .byte x :: rest => (.byte x, { b with rx := rest })
    | .fault :: rest => (.fault, { b with rx := rest })
  overruns b := b.overruns

/-- The engine's hardware on the bench. -/
def rig : Rig TermBench where
  now b := b.counter
  delay k b := { b with counter := b.counter + k, delayed := b.delayed + k.toNat }
  setAmplitude _ _ b := b
  drive c p b :=
    match p with
    | .positive => { b with pulses := b.pulses.modify c (· + 1) }
    | .negative => b
  release _ b := b

end TermBench

/-- A step of the terminal bench. -/
inductive TermStep where
  | settings (s : SettingsStep)
  /-- Queue bytes, then iterate until the receive queue is empty. -/
  | feed (bytes : List UInt8)
  /-- Queue fault markers, then iterate until the receive queue is empty. -/
  | rxError (count : Nat)
  | iterate (count : Nat)
  | tick (count : Nat)
  | banner
  | takeRequest
  | completeRequest (text : String)
  | report (channel : Nat) (ev : Event)
  | drain
  | setTxCapacity (n : Nat)
  | setTxFails (fails : Bool)
  | setOverruns (n : UInt32)
  deriving Inhabited

/-- Everything on the terminal bench. -/
structure TermState where
  terminal : Terminal
  scheduler : Scheduler
  bench : TermBench
  keepTx : Bool
  deriving Inhabited

/-- What a step's result field holds. -/
inductive TermResult where
  | settings (o : SettingsOutcome)
  | request (r : Option Request)
  deriving Inhabited

/-- What one step of the terminal bench shows. -/
structure TermReport where
  out : List UInt8
  events : List (Nat × Event)
  iterations : Nat
  delayed : Nat
  clock : UInt16
  pulses : Array Nat
  settings : List ChannelSetting
  runtimes : List Runtime
  result : Option TermResult

namespace TermState

/-- One loop iteration followed by one tick. -/
def iterateOnce (st : TermState) : TermState × List (Nat × Event) :=
  let (t, s, b, ev) := Scheduler.iterate TermBench.link TermBench.rig st.terminal st.scheduler st.bench
  ({ st with terminal := t, scheduler := s, bench := { b with counter := b.counter + 1 } }, ev)

/-- `k` iterations and their events in order. -/
def iterateN : Nat → TermState → TermState × List (Nat × Event)
  | 0, st => (st, [])
  | k + 1, st =>
    let (st, ev) := st.iterateOnce
    let (st, evs) := iterateN k st
    (st, ev ++ evs)

/-- Queue items, then iterate once per queued item: each iteration takes one. -/
def feedItems (items : List RxItem) (st : TermState) : TermState × List (Nat × Event) × Nat :=
  let st := { st with bench := { st.bench with rx := st.bench.rx ++ items } }
  let k := st.bench.rx.length
  let (st, ev) := iterateN k st
  (st, ev, k)

/-- Run one step. -/
def runStep (st : TermState) (step : TermStep) : TermState × TermReport :=
  let n := st.scheduler.bank.size
  let bench := { st.bench with
    delayed := 0, pulses := Array.replicate n 0, tx := if st.keepTx then st.bench.tx else #[] }
  let st := { st with bench := bench }
  let start := st.bench.tx.size
  let link := TermBench.link
  let (st, events, iterations, result) : TermState × List (Nat × Event) × Nat × Option TermResult :=
    match step with
    | .settings s =>
      let (b, o) := s.run st.scheduler.bank
      ({ st with scheduler := { st.scheduler with bank := b } }, [], 0, some (.settings o))
    | .feed bytes =>
      let (st, ev, k) := feedItems (bytes.map .byte) st
      (st, ev, k, none)
    | .rxError count =>
      let (st, ev, k) := feedItems (List.replicate count .fault) st
      (st, ev, k, none)
    | .iterate k =>
      let (st, ev) := iterateN k st
      (st, ev, k, none)
    | .tick k =>
      ({ st with bench := { st.bench with counter := st.bench.counter + UInt16.ofNat k } }, [], 0,
        none)
    | .banner =>
      let (t, b) := st.terminal.banner link st.bench
      ({ st with terminal := t, bench := b }, [], 0, none)
    | .takeRequest =>
      let (r, t) := st.terminal.takeRequest
      ({ st with terminal := t }, [], 0, some (.request r))
    | .completeRequest text =>
      let (t, b) := st.terminal.completeRequest link text st.bench
      ({ st with terminal := t, bench := b }, [], 0, none)
    | .report c ev =>
      let (t, b) := st.terminal.report link c ev st.bench
      ({ st with terminal := t, bench := b }, [], 0, none)
    | .drain => ({ st with bench := { st.bench with tx := #[] } }, [], 0, none)
    | .setTxCapacity c => ({ st with bench := { st.bench with txCapacity := c } }, [], 0, none)
    | .setTxFails f => ({ st with bench := { st.bench with txFails := f } }, [], 0, none)
    | .setOverruns c => ({ st with bench := { st.bench with overruns := c } }, [], 0, none)
  let out := (st.bench.tx.extract start st.bench.tx.size).toList
  (st, ⟨out, events, iterations, st.bench.delayed, st.bench.counter, st.bench.pulses,
    st.scheduler.bank.channels, st.scheduler.engine.runtimes, result⟩)

end TermState

end Stimulator.Bench
