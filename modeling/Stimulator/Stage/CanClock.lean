import Stimulator.Stage.Bus

/-!
# The CAN controller as a clock source

The board's CAN controller is used only for its clock output: a soft reset, then the control
register written with configuration mode and the clock output enabled at full rate. Each command
is one frame sent with the chip selected.
-/

namespace Stimulator.CanClock

variable {σ π : Type}

/-- The reset instruction. -/
def resetInstruction : UInt8 := 0xC0
/-- The register write instruction. -/
def writeInstruction : UInt8 := 0x02
/-- The control register. -/
def controlRegister : UInt8 := 0x0F
/-- Configuration mode, clock output on, no prescaler. -/
def clockOutControl : UInt8 := 0x84

/-- Take the chip select and deselect the chip. -/
def init (bus : Bus σ π) (cs : π) (w : σ) : σ := bus.setPin cs true w

/-- One frame with the chip selected: `true` when it went out. -/
def transaction (bus : Bus σ π) (cs : π) (frame : List UInt8) (w : σ) : Bool × σ :=
  let w := bus.setPin cs false w
  let (ok, w) := bus.spiWrite frame w
  (ok, bus.setPin cs true w)

/-- Soft reset. -/
def reset (bus : Bus σ π) (cs : π) (w : σ) : Bool × σ := transaction bus cs [resetInstruction] w

/-- Write one register. -/
def writeRegister (bus : Bus σ π) (cs : π) (register value : UInt8) (w : σ) : Bool × σ :=
  transaction bus cs [writeInstruction, register, value] w

/-- Turn the clock output on. -/
def enableClockOut (bus : Bus σ π) (cs : π) (w : σ) : Bool × σ :=
  writeRegister bus cs controlRegister clockOutControl w

end Stimulator.CanClock
