import Stimulator.Console.Command
import Stimulator.Console.LineEditor
import Stimulator.Console.Serial
import Stimulator.Waveform.Engine

/-!
# The operator terminal

A line-oriented console over a UART, polled once per main-loop iteration. Each poll takes at
most one received byte. Output is queued without waiting for the line: what the transmitter does
not take is dropped and counted, so a long listing never holds up pulse generation.

* `Terminal.say` writes one line of at most 96 bytes followed by CR LF; the line is built from
  pieces (`fitPieces`), and a piece that does not fit is dropped with every piece after it;
* `Terminal.poll` feeds a received byte to the editor and echoes it; a completed line is parsed
  and executed against the settings bank (`Terminal.completeLine`);
* store, load and reboot are not executed here but parked as a `Request` for the firmware
  (`Terminal.takeRequest`, `Terminal.completeRequest`);
* `Terminal.report` shows an engine event.
-/

namespace Stimulator

/-- Work the terminal hands to the firmware. -/
inductive Request where
  | store
  | load
  | reboot
  deriving DecidableEq, Repr, Inhabited

/-- The terminal's own state; the UART lives in the world. -/
structure Terminal where
  editor : LineEditor := {}
  echoOnly : Bool := false
  request : Option Request := none
  txDropped : UInt32 := 0
  txErrors : UInt32 := 0
  rxErrors : UInt32 := 0
  deriving DecidableEq, Repr, Inhabited

namespace Terminal

variable {σ : Type}

/-- The input prompt. -/
def prompt : String := "TERM> "

/-- The firmware version. -/
def version : String := "0.1.0"

/-- Bytes in one output line. -/
def lineCapacity : Nat := 96

/-- The command list shown by `HE`. -/
def helpLines : List String :=
  ["HE  HElp",
   "VE  Show VErsion",
   "BO  <code> BOot",
   "HA  Only echo",
   "ST  Show state",
   "GO  <ch|A> Start channel(s)",
   "SP  <ch|A> StoP channel(s)",
   "VO  <ch>,<pos>,<neg> VOltage 0..50",
   "TI  <ch>,<t0>,<t1>,<t2>,<t3>,<t4> TImes x100us",
   "DE  <ch>,<step>,<pulses>,<max> DElta ramp",
   "RC  <ch>,<count> Repeat Count, 0 = endless",
   "QS  <ch> Query Settings",
   "SS  Store Settings",
   "LS  Load Settings"]

/-- Pieces appended in order while each fits in `room` bytes; the first that does not fit ends
the line. -/
def fitPieces : Nat → List String → String
  | _, [] => ""
  | room, p :: ps => if p.utf8ByteSize ≤ room then p ++ fitPieces (room - p.utf8ByteSize) ps else ""

/-- One more, held at the largest 32-bit value. -/
def bump (n : UInt32) : UInt32 := Word.satAdd32 n 1

/-- Queue bytes; what the transmitter does not take is dropped and counted. -/
def write (link : SerialLink σ) (bytes : List UInt8) (t : Terminal) (w : σ) : Terminal × σ :=
  let (r, w) := link.tryWrite bytes w
  let (queued, t) := match r with
    | some n => (min n bytes.length, t)
    | none => (0, { t with txErrors := bump t.txErrors })
  let dropped := UInt32.ofNat (min (bytes.length - queued) 4294967295)
  ({ t with txDropped := Word.satAdd32 t.txDropped dropped }, w)

/-- Write text. -/
def writeText (link : SerialLink σ) (s : String) (t : Terminal) (w : σ) : Terminal × σ :=
  write link s.toUTF8.toList t w

/-- Write one line built from pieces, then CR LF. -/
def say (link : SerialLink σ) (pieces : List String) (t : Terminal) (w : σ) : Terminal × σ :=
  let (t, w) := writeText link (fitPieces lineCapacity pieces) t w
  writeText link "\r\n" t w

/-- Say each line in order. -/
def sayAll (link : SerialLink σ) (lines : List (List String)) (t : Terminal) (w : σ) :
    Terminal × σ :=
  lines.foldl (fun (acc : Terminal × σ) l => say link l acc.1 acc.2) (t, w)

/-- Greeting, version and first prompt. -/
def banner (link : SerialLink σ) (t : Terminal) (w : σ) : Terminal × σ :=
  let (t, w) := writeText link "\r\n" t w
  let (t, w) := say link ["Galvani stimulator terminal"] t w
  let (t, w) := say link ["Version ", version] t w
  writeText link prompt t w

/-- Take the parked request, if any. -/
def takeRequest (t : Terminal) : Option Request × Terminal := (t.request, { t with request := none })

/-- Report the outcome of a store or load and show the prompt again. -/
def completeRequest (link : SerialLink σ) (outcome : String) (t : Terminal) (w : σ) :
    Terminal × σ :=
  let (t, w) := say link [outcome] t w
  writeText link prompt t w

/-- The lines of the command list. -/
def helpText : List (List String) :=
  ["HELP: First two characters are the command; implemented:"] :: helpLines.map ([·])

/-- The line `QS` shows for a channel. -/
def settingLine (channel : Nat) (s : ChannelSetting) : List String :=
  let t := s.times
  let d := s.delta
  ["CH", toString channel, " run ", toString s.runState.toByte.toNat,
   " V ", toString s.voltage.positive.toNat, "/", toString s.voltage.negative.toNat,
   " T ", toString t.preWait.toNat, "/", toString t.positive.toNat, "/",
   toString t.interphase.toNat, "/", toString t.negative.toNat, "/", toString t.period.toNat,
   " D ", toString d.step.toNat, "/", toString d.pulsesPerStep.toNat, "/",
   toString d.maxSteps.toNat, " RC ", toString s.pulseLimit.toNat]

/-- The line `ST` shows for a channel. -/
def runtimeLine (channel : Nat) (r : Runtime) : List String :=
  ["CH", toString channel, " state ", toString r.phase.code, " pulses ",
   toString r.pulsesEmitted.toNat, " period ", toString r.currentPeriod.toNat, " steps ",
   toString r.stepsApplied.toNat]

/-- The lines `ST` shows: every channel, then the UART counters. -/
def stateText (overruns : UInt32) (e : Engine) (t : Terminal) : List (List String) :=
  (e.runtimes.zipIdx.map fun (r, c) => runtimeLine c r) ++
    [["RX overruns ", toString overruns.toNat],
     ["TX dropped ", toString t.txDropped.toNat],
     ["IO errors tx ", toString t.txErrors.toNat, " rx ", toString t.rxErrors.toNat]]

/-- Apply a settings change and acknowledge it. -/
def applied (link : SerialLink σ) (t : Terminal) (w : σ) (r : Except SettingsError Bank) :
    Except CommandError (Terminal × Bank × σ) :=
  match r with
  | .ok b => let (t, w) := say link ["OK"] t w; .ok (t, b, w)
  | .error e => .error (CommandError.ofSettings e)

/-- Carry out a parsed command. -/
def execute (link : SerialLink σ) (c : Command) (t : Terminal) (b : Bank) (e : Engine) (w : σ) :
    Except CommandError (Terminal × Bank × σ) :=
  match c with
  | .help => let (t, w) := sayAll link helpText t w; .ok (t, b, w)
  | .version => let (t, w) := say link ["Galvani ", version] t w; .ok (t, b, w)
  | .reboot =>
    let (t, w) := say link ["Reboot"] t w
    .ok ({ t with request := some .reboot }, b, w)
  | .echoOnly => .ok ({ t with echoOnly := true }, b, w)
  | .state =>
    let (t, w) := sayAll link (stateText (link.overruns w) e t) t w
    .ok (t, b, w)
  | .start sel => applied link t w (b.start sel)
  | .stop sel => applied link t w (b.stop sel)
  | .setVoltage ch v => applied link t w (b.setVoltage ch v)
  | .setTimes ch times => applied link t w (b.setTimes ch times)
  | .setDelta ch d => applied link t w (b.setDelta ch d)
  | .setRepeatCount ch n => applied link t w (b.setRepeatCount ch n)
  | .query ch =>
    match b.query ch with
    | .ok s => let (t, w) := say link (settingLine ch s) t w; .ok (t, b, w)
    | .error err => .error (CommandError.ofSettings err)
  | .store => .ok ({ t with request := some .store }, b, w)
  | .load => .ok ({ t with request := some .load }, b, w)

/-- A completed line: echo it in echo-only mode, else parse and execute it. The prompt follows,
unless a store or load is parked, which answers through `completeRequest`. -/
def completeLine (link : SerialLink σ) (t : Terminal) (b : Bank) (e : Engine) (w : σ) :
    Terminal × Bank × σ :=
  let line := t.editor.line
  let t := { t with editor := t.editor.clear }
  if t.echoOnly then
    let (t, w) := say link [line] t w
    let t := if line.startsWith "H" then { t with echoOnly := false } else t
    let (t, w) := writeText link prompt t w
    (t, b, w)
  else
    let (t, b, w) := match Command.parse line with
      | .ok none => (t, b, w)
      | .ok (some c) =>
        match execute link c t b e w with
        | .ok r => r
        | .error err =>
          let (t, w) := say link ["Parameter error: ", err.describe] t w
          (t, b, w)
      | .error .unknownCommand =>
        let (t, w) := say link ["Unknown command"] t w
        let (t, w) := sayAll link helpText t w
        (t, b, w)
      | .error err =>
        let (t, w) := say link ["Parameter error: ", err.describe] t w
        (t, b, w)
    match t.request with
    | some .store => (t, b, w)
    | some .load => (t, b, w)
    | _ => let (t, w) := writeText link prompt t w; (t, b, w)

/-- Take at most one received byte and act on it. -/
def poll (link : SerialLink σ) (t : Terminal) (b : Bank) (e : Engine) (w : σ) :
    Terminal × Bank × σ :=
  match link.tryRead w with
  | (.nothing, w) => (t, b, w)
  | (.fault, w) => ({ t with rxErrors := bump t.rxErrors }, b, w)
  | (.byte byte, w) =>
    let (ed, ev) := t.editor.feed byte
    let t := { t with editor := ed }
    match ev with
    | .echo c => let (t, w) := write link [c] t w; (t, b, w)
    | .erase => let (t, w) := write link [8, 0x20, 8] t w; (t, b, w)
    | .bell => let (t, w) := write link [7] t w; (t, b, w)
    | .ignored => (t, b, w)
    | .complete =>
      let (t, w) := writeText link "\r\n" t w
      completeLine link t b e w

/-- The line an engine event is shown as. -/
def eventLine (channel : Nat) : Event → List String
  | .started => ["CH", toString channel, " started"]
  | .running => ["CH", toString channel, " running"]
  | .periodChanged p => ["CH", toString channel, " period ", toString p.toNat]
  | .completed n => ["CH", toString channel, " completed ", toString n.toNat, " pulses"]
  | .stopped => ["CH", toString channel, " stopped"]

/-- Show an engine event to the operator. -/
def report (link : SerialLink σ) (channel : Nat) (ev : Event) (t : Terminal) (w : σ) :
    Terminal × σ :=
  say link (eventLine channel ev) t w

end Terminal

end Stimulator
