import Stimulator.Stage.Bus
import Stimulator.Word

/-!
# The amplitude digipot

A dual digital potentiometer sets the amplitude of two channels: wiper 0 for the even channel of
a pair, wiper 1 for the odd one. A frame is a command byte (`Pot.command`) and the wiper position,
sent with the chip selected; the chip select returns high even when the write fails.
An amplitude level of 0 to 50 is scaled by 5 to the wiper range (`levelToWiper`, held at 255).
-/

namespace Stimulator

/-- Which wiper a frame sets. -/
inductive Pot where
  | pot0
  | pot1
  /-- Both wipers in one frame. -/
  | both
  deriving DecidableEq, Repr, Inhabited

/-- The command byte that writes a wiper. -/
def Pot.command : Pot → UInt8
  | .pot0 => 0x11
  | .pot1 => 0x12
  | .both => 0x13

namespace Digipot

variable {σ π : Type}

/-- Wiper counts per amplitude unit. -/
def levelScale : UInt8 := 5

/-- The wiper position of an amplitude level, held at full scale. -/
def levelToWiper (level : UInt8) : UInt8 := Word.satMul8 level levelScale

/-- Take the chip select and deselect the chip. -/
def init (bus : Bus σ π) (cs : π) (w : σ) : σ := bus.setPin cs true w

/-- Write a raw wiper position: `true` when the frame went out. -/
def writeWiper (bus : Bus σ π) (cs : π) (pot : Pot) (wiper : UInt8) (w : σ) : Bool × σ :=
  let w := bus.setPin cs false w
  let (ok, w) := bus.spiWrite [pot.command, wiper] w
  (ok, bus.setPin cs true w)

/-- Write an amplitude level, scaled to the wiper range. -/
def writeLevel (bus : Bus σ π) (cs : π) (pot : Pot) (level : UInt8) (w : σ) : Bool × σ :=
  writeWiper bus cs pot (levelToWiper level) w

end Digipot

end Stimulator
