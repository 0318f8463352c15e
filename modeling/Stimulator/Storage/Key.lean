/-!
# Storage keys

The settings store holds blobs under one-byte keys. Key 0 holds the image of every channel's
settings; key 1 is reserved. Any other byte names no key (`Key.ofByte?`), so an item carrying it
is unreadable.
-/

namespace Stimulator.Storage

/-- A key of the settings store. -/
inductive Key where
  /-- The image of every channel's settings. -/
  | channelSettings
  | reserved
  deriving DecidableEq, Repr, Inhabited

namespace Key

/-- The key's byte. -/
def toByte : Key → UInt8
  | .channelSettings => 0
  | .reserved => 1

/-- The key a byte names, if any. -/
def ofByte? (b : UInt8) : Option Key :=
  if b = 0 then some .channelSettings
  else if b = 1 then some .reserved
  else none

theorem ofByte?_toByte (k : Key) : ofByte? k.toByte = some k := by
  cases k <;> decide

theorem toByte_of_ofByte? {b : UInt8} {k : Key} (h : ofByte? b = some k) : k.toByte = b := by
  unfold ofByte? at h
  split at h
  · next h0 => cases h; exact h0.symm
  · split at h
    · next h1 => cases h; exact h1.symm
    · cases h

end Key

end Stimulator.Storage
