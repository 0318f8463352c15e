import Stimulator.Toml.Decode
import Stimulator.Setting.Basic

/-!
# The channel configuration file

The power-on defaults of every channel come from a TOML file with one `[[channel]]` table per
channel:

    voltage = { positive = P, negative = N }     (amplitude levels 0 … 50)
    times = [T0, T1, T2, T3, T4]                 (ticks, 0 … 65535 each)
    delta = { step = S, pulses_per_step = K, max_steps = M }   (M at most 10)
    pulse_limit = L                              (optional, 0 … 65535)

`validate` checks the whole file and reports every problem, in file order; a channel with no
problem of its own is kept even when others fail, so the count of usable channels is known.
`render` writes the defaults as source text for the firmware.
-/

namespace Stimulator.ChannelFile

open Toml

/-- Channels a board drives. -/
def maxChannels : Nat := 4

/-- An integer field in `0 … max`: its value (0 when refused) and the problems found. -/
def intField (v : Option Value) (channel : Nat) (name : String) (max : Nat) : Nat × List String :=
  match v with
  | some (.integer n) =>
    if 0 ≤ n ∧ n ≤ max then (n.toNat, [])
    else (0, [s!"channel {channel} {name} must be 0-{max}"])
  | some _ => (0, [s!"channel {channel} {name} must be an integer"])
  | none => (0, ["channel " ++ toString channel ++ " missing " ++ quoted name])
where
  quoted (s : String) : String := "'" ++ s ++ "'"

/-- The five phase times: exactly five integers, each in `0 … 65535`. -/
def timesField (v : Option Value) (channel : Nat) : List Nat × List String :=
  let zeros := List.replicate 5 0
  match v with
  | some (.array items) =>
    if items.length = 5 then
      let fields := items.map fun item => intField (some item) channel "times" 65535
      (fields.map (·.1), fields.flatMap (·.2))
    else (zeros, [s!"channel {channel} times must be 5 integers"])
  | some _ => (zeros, [s!"channel {channel} times must be 5 integers"])
  | none => (zeros, [s!"channel {channel} missing 'times'"])

/-- Check one `[[channel]]` entry: its problems, and its settings when it has none. -/
def checkChannel (channel : Nat) (entry : Value) : List String × Option ChannelSetting :=
  if !entry.isTable then ([s!"channel {channel} must be a table"], none)
  else
    let voltage := entry.get "voltage"
    let field := fun (tbl : Option Value) (key name : String) (max : Nat) =>
      intField (tbl.bind fun t => t.get key) channel name max
    let (pos, e1) := field voltage "positive" "voltage.positive" maxLevel.toNat
    let (neg, e2) := field voltage "negative" "voltage.negative" maxLevel.toNat
    let (times, e3) := timesField (entry.get "times") channel
    let delta := entry.get "delta"
    let (step, e4) := field delta "step" "delta.step" 65535
    let (perStep, e5) := field delta "pulses_per_step" "delta.pulses_per_step" 65535
    let (steps, e6) := field delta "max_steps" "delta.max_steps" maxRampSteps.toNat
    let (limit, e7) := match entry.get "pulse_limit" with
      | none => (0, [])
      | v => intField v channel "pulse_limit" 65535
    let errors := e1 ++ e2 ++ e3 ++ e4 ++ e5 ++ e6 ++ e7
    let t := fun i => UInt16.ofNat (times.getD i 0)
    let setting : ChannelSetting :=
      { voltage := ⟨UInt8.ofNat pos, UInt8.ofNat neg⟩
        times := ⟨t 0, t 1, t 2, t 3, t 4⟩
        delta := ⟨UInt16.ofNat step, UInt16.ofNat perStep, UInt16.ofNat steps⟩
        pulseLimit := UInt16.ofNat limit }
    (errors, if errors.isEmpty then some setting else none)

/-- What checking a file found. -/
structure Report where
  errors : List String
  /-- The channels without problems of their own, in file order. -/
  channels : List ChannelSetting

/-- Check a parsed configuration file. -/
def validate (doc : Value) : Report :=
  match doc.get "channel" with
  | some (.array entries) =>
    let n := entries.length
    let countErrors :=
      if entries.isEmpty || maxChannels < n then [s!"{n} channels configured, expected 1-{maxChannels}"]
      else []
    let checked := entries.zipIdx.map fun (e, i) => checkChannel i e
    ⟨countErrors ++ checked.flatMap (·.1), checked.filterMap (·.2)⟩
  | some _ => ⟨["'channel' must be an array of tables ([[channel]])"], []⟩
  | none => ⟨["Missing [[channel]] section - at least one is required"], []⟩

/-- A list of numbers as `[a, b, c]`. -/
def listText (xs : List Nat) : String := "[" ++ ", ".intercalate (xs.map toString) ++ "]"

/-- One channel's defaults as source text. -/
def channelText (s : ChannelSetting) : String :=
  let p := s.voltage.positive.toNat
  let q := s.voltage.negative.toNat
  let times := listText (s.times.toList.map UInt16.toNat)
  let delta := listText (s.delta.toList.map UInt16.toNat)
  let limit := s.pulseLimit.toNat
  "    ChannelSetting \x7b\n" ++
  "        run_state: RunState::Stopped,\n" ++
  s!"        voltage: Voltage \x7b positive: {p}, negative: {q} \x7d,\n" ++
  s!"        times: PhaseTimes::from_array({times}),\n" ++
  s!"        delta: RampDelta::from_array({delta}),\n" ++
  s!"        pulse_limit: {limit},\n" ++
  "    \x7d,\n"

/-- The defaults of every channel as source text. -/
def render (channels : List ChannelSetting) : String :=
  let n := channels.length
  "// Generated by build.rs from channels.toml\n" ++
  s!"pub const CHANNEL_DEFAULTS: [ChannelSetting; {n}] = [\n" ++
  String.join (channels.map channelText) ++ "];\n"

end Stimulator.ChannelFile
