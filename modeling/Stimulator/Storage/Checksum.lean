/-!
# Checksums of stored items

An item header carries two checksums, both bit-reflected and computed a byte at a time, and
both stored little-endian:

* `Checksum.crc32` : the CRC-32C of the item's data (polynomial `0x82F63B78`, started from
  `0xEEEEEEEE` and inverted at the end);
* `Checksum.crc16` : the checksum of the two length bytes (shift constant `0x1A2E`, all-ones start
  and final inversion), so a header torn by an interrupted write is recognised.

A stored data checksum's first byte must read neither as cleared flash (`0x00`) nor as erased
flash (`0xFF`); `itemChecksum` flips the lowest bit when it would (`firstByte_itemChecksum`), so a
data checksum is never 0, the mark of an erased item (`itemChecksum_ne_zero`). A stored length
checksum is never all erased bytes: `lengthChecksum` turns `0xFFFF` into `0xFFFE`
(`lengthChecksum_ne_erased`), so no header reads as erased flash.
-/

namespace Stimulator.Storage.Checksum

/-- One bit of a reflected CRC-32C. -/
def crc32Bit (c : UInt32) : UInt32 := if c &&& 1 = 1 then (c >>> 1) ^^^ 0x82F63B78 else c >>> 1

/-- Feed one byte to a running CRC-32C. -/
def crc32Byte (c : UInt32) (b : UInt8) : UInt32 := Nat.repeat crc32Bit 8 (c ^^^ b.toUInt32)

/-- The CRC-32C of a byte string. -/
def crc32 (data : List UInt8) : UInt32 := ~~~(data.foldl crc32Byte 0xEEEEEEEE)

/-- A first byte on flash that a checksum must avoid: cleared or erased. -/
def isBlankByte (b : UInt8) : Bool := b = 0 || b = 0xFF

/-- A 32-bit checksum as stored: its lowest bit flipped when its first byte would be blank. -/
def adapt32 (c : UInt32) : UInt32 := if isBlankByte c.toUInt8 then c ^^^ 1 else c

/-- A 16-bit checksum as stored: its lowest bit flipped when it would read as erased flash. -/
def adapt16 (c : UInt16) : UInt16 := if c = 0xFFFF then c ^^^ 1 else c

theorem isBlankByte_xor_one (b : UInt8) (h : isBlankByte b = true) :
    isBlankByte (b ^^^ 1) = false := by
  unfold isBlankByte at h ⊢
  rcases Bool.or_eq_true _ _ ▸ h with zero | full
  · rw [of_decide_eq_true zero]
    decide
  · rw [of_decide_eq_true full]
    decide

theorem UInt32.toUInt8_xor_one (c : UInt32) : (c ^^^ 1).toUInt8 = c.toUInt8 ^^^ 1 := by
  apply UInt8.toBitVec_inj.mp
  simp only [UInt32.toBitVec_toUInt8, UInt32.toBitVec_xor, UInt8.toBitVec_xor]
  rw [BitVec.setWidth_xor]
  rfl

theorem firstByte_adapt32 (c : UInt32) : isBlankByte (adapt32 c).toUInt8 = false := by
  unfold adapt32
  split
  · rename_i blank
    rw [UInt32.toUInt8_xor_one]
    exact isBlankByte_xor_one _ blank
  · rename_i blank
    simpa using blank

theorem adapt16_ne_erased (c : UInt16) : adapt16 c ≠ 0xFFFF := by
  unfold adapt16
  split
  · rename_i erased
    rw [erased]
    decide
  · assumption

/-- The data checksum written into a header. -/
def itemChecksum (data : List UInt8) : UInt32 := adapt32 (crc32 data)

/-- The first byte of a stored data checksum is never blank. -/
theorem firstByte_itemChecksum (data : List UInt8) :
    isBlankByte (itemChecksum data).toUInt8 = false :=
  firstByte_adapt32 (crc32 data)

theorem itemChecksum_ne_zero (data : List UInt8) : itemChecksum data ≠ 0 := by
  intro zero
  have blank := firstByte_itemChecksum data
  rw [zero] at blank
  exact absurd blank (by decide)

/-- One bit of the length checksum. -/
def crc16Bit (c : UInt16) : UInt16 := if c &&& 1 = 1 then (c >>> 1) ^^^ 0x1A2E else c >>> 1

/-- Feed one byte to a running length checksum. -/
def crc16Byte (c : UInt16) (b : UInt8) : UInt16 := Nat.repeat crc16Bit 8 (c ^^^ b.toUInt16)

/-- The length checksum of a byte string. -/
def crc16 (data : List UInt8) : UInt16 := ~~~(data.foldl crc16Byte 0xFFFF)

/-- The length checksum written into a header. -/
def lengthChecksum (lengthBytes : List UInt8) : UInt16 := adapt16 (crc16 lengthBytes)

/-- A stored length checksum never reads as erased flash. -/
theorem lengthChecksum_ne_erased (lengthBytes : List UInt8) :
    lengthChecksum lengthBytes ≠ 0xFFFF :=
  adapt16_ne_erased (crc16 lengthBytes)

end Stimulator.Storage.Checksum
