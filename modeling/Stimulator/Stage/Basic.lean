import Stimulator.Stage.Digipot
import Stimulator.Stage.Bridge

/-!
# The pulse stage

The amplitude digipots and the H-bridges of all channels on one SPI bus. It is the engine's
output: `Stage.setAmplitude` writes the channel's wiper on digipot `channel / 2` (a channel without
a digipot keeps its amplitude), `Stage.drive` and `Stage.release` switch the channel's bridge.
Bus failures are counted in `spiErrors`, never returned: the engine cannot act on them.

* `Stage.init` : every digipot deselected, then every bridge released;
* `Stage.releaseAll` : every bridge released, then every wiper set to zero;
* `Stage.rig` : the engine's hardware made of a stage, a clock and a delay.
-/

namespace Stimulator

/-- The output stage: digipot chip selects, bridges, and the count of failed bus writes. -/
structure Stage (π : Type) where
  digipots : List π
  bridges : List (BridgePins π)
  spiErrors : UInt32 := 0
  deriving Inhabited

namespace Stage

variable {σ π : Type}

/-- Count one failed bus write. -/
def countFailure (ok : Bool) (st : Stage π) : Stage π :=
  if ok then st else { st with spiErrors := Word.satAdd32 st.spiErrors 1 }

/-- Deselect every digipot, then release every bridge. -/
def init (bus : Bus σ π) (st : Stage π) (w : σ) : σ :=
  let w := st.digipots.foldl (fun w cs => Digipot.init bus cs w) w
  st.bridges.foldl (fun w p => Bridge.init bus p w) w

/-- The wiper of a channel: wiper 0 for even channels, wiper 1 for odd ones. -/
def potOf (channel : Nat) : Pot := if channel % 2 = 0 then .pot0 else .pot1

/-- Set a channel's amplitude level. -/
def setAmplitude (bus : Bus σ π) (channel : Nat) (level : UInt8) (st : Stage π) (w : σ) :
    Stage π × σ :=
  match st.digipots[channel / 2]? with
  | none => (st, w)
  | some cs =>
    let (ok, w) := Digipot.writeLevel bus cs (potOf channel) level w
    (countFailure ok st, w)

/-- Connect a channel's load with a polarity. -/
def drive (bus : Bus σ π) (channel : Nat) (pol : Polarity) (st : Stage π) (w : σ) : σ :=
  match st.bridges[channel]? with
  | some p => Bridge.drive bus p pol w
  | none => w

/-- Disconnect a channel's load. -/
def release (bus : Bus σ π) (channel : Nat) (st : Stage π) (w : σ) : σ :=
  match st.bridges[channel]? with
  | some p => Bridge.release bus p w
  | none => w

/-- Release every channel, then zero every wiper. -/
def releaseAll (bus : Bus σ π) (st : Stage π) (w : σ) : Stage π × σ :=
  let w := st.bridges.foldl (fun w p => Bridge.release bus p w) w
  st.digipots.foldl (fun (acc : Stage π × σ) cs =>
    let (ok, w) := Digipot.writeWiper bus cs .both 0 acc.2
    (countFailure ok acc.1, w)) (st, w)

/-- The engine's hardware: the stage on a bus, with a clock and a delay of the world. -/
def rig (bus : Bus σ π) (now : σ → UInt16) (delay : UInt16 → σ → σ) : Rig (Stage π × σ) where
  now p := now p.2
  delay k p := (p.1, delay k p.2)
  setAmplitude c level p := setAmplitude bus c level p.1 p.2
  drive c pol p := (p.1, drive bus c pol p.1 p.2)
  release c p := (p.1, release bus c p.1 p.2)

end Stage

end Stimulator
