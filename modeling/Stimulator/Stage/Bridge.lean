import Stimulator.Stage.Bus
import Stimulator.Waveform.Engine

/-!
# The H-bridge of a channel

Two enable pins connect the load, two direction pins choose the polarity: both direction pins
low for the positive phase, both high for the negative one. Driving sets the direction first and
only then raises the enables; releasing lowers the enables. A new bridge is released with the
positive direction (`Bridge.init`).
-/

namespace Stimulator

/-- The pins of one channel's bridge. -/
structure BridgePins (π : Type) where
  enableA : π
  enableB : π
  directionA : π
  directionB : π
  deriving Repr, Inhabited

namespace Bridge

variable {σ π : Type}

/-- Disconnect the load. -/
def release (bus : Bus σ π) (p : BridgePins π) (w : σ) : σ :=
  bus.setPin p.enableB false (bus.setPin p.enableA false w)

/-- Set both direction pins for a polarity: high for the negative phase. -/
def setDirection (bus : Bus σ π) (p : BridgePins π) (pol : Polarity) (w : σ) : σ :=
  let high := pol = .negative
  bus.setPin p.directionB high (bus.setPin p.directionA high w)

/-- Take the pins and leave the bridge released, with the positive direction. -/
def init (bus : Bus σ π) (p : BridgePins π) (w : σ) : σ :=
  setDirection bus p .positive (release bus p w)

/-- Connect the load with a polarity. -/
def drive (bus : Bus σ π) (p : BridgePins π) (pol : Polarity) (w : σ) : σ :=
  let w := setDirection bus p pol w
  bus.setPin p.enableB true (bus.setPin p.enableA true w)

/-- Whether the load is connected. -/
def isDriving (bus : Bus σ π) (p : BridgePins π) (w : σ) : Bool :=
  bus.isHigh p.enableA w || bus.isHigh p.enableB w

end Bridge

end Stimulator
