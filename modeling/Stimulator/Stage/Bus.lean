/-!
# Pins and the SPI bus

The output stage drives digital output pins and writes frames on one SPI bus, acting on a world
`σ`; pins are named by `π`.

* `Bus` : set a pin, read back a pin's level, write a frame (which may fail);
* `FlushedSpi` : a bus master whose write returns before the last bit has left, so a frame is
  complete only after a flush (`FlushedSpi.writeFrame`).
-/

namespace Stimulator

/-- Output pins and an SPI bus. -/
structure Bus (σ π : Type) where
  /-- Drive a pin high (`true`) or low. -/
  setPin : π → Bool → σ → σ
  /-- Whether a pin is driven high. -/
  isHigh : π → σ → Bool
  /-- Write one frame: `true` when it went out. -/
  spiWrite : List UInt8 → σ → Bool × σ

/-- A bus master with separate write and flush. -/
structure FlushedSpi (σ : Type) where
  write : List UInt8 → σ → Bool × σ
  flush : σ → Bool × σ

/-- Write a frame and wait until it has left: a failed write is not flushed. -/
def FlushedSpi.writeFrame {σ : Type} (s : FlushedSpi σ) (data : List UInt8) (w : σ) : Bool × σ :=
  match s.write data w with
  | (true, w) => s.flush w
  | (false, w) => (false, w)

end Stimulator
