import Stimulator.Word
import Stimulator.Setting.Basic
import Stimulator.Setting.Record
import Stimulator.Setting.Bank
import Stimulator.Setting.Image
import Stimulator.Clock
import Stimulator.Waveform.Runtime
import Stimulator.Waveform.Ramp
import Stimulator.Waveform.Engine
import Stimulator.Console.Command
import Stimulator.Bench.Settings
import Stimulator.Bench.EngineBench
import Stimulator.Text.Blank
import Stimulator.Text.Hex
import Stimulator.Console.LineEditor
import Stimulator.Console.Serial
import Stimulator.Console.Terminal
import Stimulator.Scheduler
import Stimulator.Bench.TerminalBench
import Stimulator.Stage.Bus
import Stimulator.Stage.Digipot
import Stimulator.Stage.Bridge
import Stimulator.Stage.CanClock
import Stimulator.Stage.Basic
import Stimulator.Bench.Hardware
import Stimulator.Storage.Key
import Stimulator.Storage.Checksum
import Stimulator.Storage.Nor
import Stimulator.Storage.Item
import Stimulator.Storage.Map
import Stimulator.Storage.Store
import Stimulator.Bench.FlashBench
import Stimulator.Toml.Value
import Stimulator.Toml.Lexical
import Stimulator.Toml.Number
import Stimulator.Toml.Document
import Stimulator.Toml.Decode
import Stimulator.Config.ChannelFile
import Stimulator.Config.BuildScript
import Stimulator.Board.Queue
import Stimulator.Board.Uart
import Stimulator.Board.Machine
import Stimulator.Board.Persist
import Stimulator.Board.Firmware
import Stimulator.Bench.FirmwareBench
import Stimulator.Proofs.Calls
import Stimulator.Proofs.Channel
import Stimulator.Proofs.Loop
import Stimulator.Proofs.Stop
import Stimulator.Proofs.Start
import Stimulator.Proofs.PulseLimit
import Stimulator.Proofs.Rollover
import Stimulator.Proofs.EventOrder
import Stimulator.Proofs.RealTime
import Stimulator.Proofs.LockStep
import Stimulator.Proofs.Codec
import Stimulator.Proofs.ImageCheck
import Stimulator.Proofs.Counters
import Stimulator.Proofs.RampRun
import Stimulator.Proofs.Persistence
import Stimulator.Proofs.Bounds
import Stimulator.Proofs.Session
import Stimulator.Proofs.Wires
import Stimulator.Proofs.BridgeSafety
import Stimulator.Proofs.Lexical
import Stimulator.Proofs.CommandLine
import Stimulator.Proofs.Changes
import Stimulator.Proofs.Output
import Stimulator.Proofs.Transmit
import Stimulator.Proofs.Echo
import Stimulator.Proofs.ChannelSchema
