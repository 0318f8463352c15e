/-!
# The tick clock

The engine measures time in ticks of 100 µs on a 16-bit counter that wraps about every 6.5 s.
Every wait is measured by `Clock.elapsed`, the forward distance on the circle of 65536 ticks,
never by a plain comparison of readings.

* `Clock.elapsed now earlier` : ticks from `earlier` forward to `now` (`toNat_elapsed`,
  `add_elapsed`);
* `Clock.busyWaitMicros count` : how long a busy-wait of `count` ticks holds the processor;
* `TickCounter` : the counter the tick interrupt advances (`increment`, `reset`, `read`).
-/

namespace Stimulator.Clock

/-- Microseconds in one tick. -/
def tickMicros : Nat := 100

/-- Ticks from `earlier` forward to `now` on the 16-bit circle. -/
def elapsed (now earlier : UInt16) : UInt16 := now - earlier

theorem toNat_elapsed (now earlier : UInt16) :
    (elapsed now earlier).toNat = (now.toNat + (65536 - earlier.toNat)) % 65536 := by
  unfold elapsed
  rw [UInt16.toNat_sub]
  omega

/-- Walking `elapsed now earlier` ticks forward from `earlier` lands on `now`. -/
theorem add_elapsed (now earlier : UInt16) : earlier + elapsed now earlier = now := by
  unfold elapsed
  apply UInt16.toNat_inj.mp
  have hn := now.toNat_lt
  have he := earlier.toNat_lt
  rw [UInt16.toNat_add, UInt16.toNat_sub]
  omega

/-- Microseconds a busy-wait of `count` ticks takes; a wait of no ticks takes none. -/
def busyWaitMicros (count : UInt16) : Nat := count.toNat * tickMicros

/-- The 16-bit tick counter. -/
structure TickCounter where
  /-- Ticks counted since the last reset, modulo 65536. -/
  count : UInt16 := 0
  deriving DecidableEq, Repr, Inhabited

namespace TickCounter

/-- One more tick, wrapping at 65536. -/
def increment (c : TickCounter) : TickCounter := ⟨c.count + 1⟩

/-- Back to zero. -/
def reset (_ : TickCounter) : TickCounter := ⟨0⟩

/-- The current count. -/
def read (c : TickCounter) : UInt16 := c.count

/-- `k` more ticks. -/
def advance (c : TickCounter) (k : Nat) : TickCounter := ⟨c.count + UInt16.ofNat k⟩

end TickCounter

end Stimulator.Clock
