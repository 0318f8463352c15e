/-!
# Fixed-width words: saturating arithmetic and little-endian bytes

The stimulator keeps its counters in 8, 16 and 32-bit words. Counters that must not wrap are
held at their largest value instead (`satAdd16`, `satAdd32`, `satMul8`); a 16-bit word is stored
as two bytes, low byte first (`lowByte`, `highByte`, `ofBytes`).

The definitions go through `Nat`, so each has a lemma in `Nat` terms (`toNat_satAdd32`,
`ofBytes_lowByte_highByte`).
-/

namespace Stimulator.Word

/-- Sum of two 16-bit words, held at 65535 when it does not fit. -/
def satAdd16 (a b : UInt16) : UInt16 :=
  UInt16.ofNat (min (a.toNat + b.toNat) 65535)

/-- Sum of two 32-bit words, held at 4294967295 when it does not fit. -/
def satAdd32 (a b : UInt32) : UInt32 :=
  UInt32.ofNat (min (a.toNat + b.toNat) 4294967295)

/-- Product of two bytes, held at 255 when it does not fit. -/
def satMul8 (a b : UInt8) : UInt8 :=
  UInt8.ofNat (min (a.toNat * b.toNat) 255)

/-- The low byte of a 16-bit word. -/
def lowByte (w : UInt16) : UInt8 := UInt8.ofNat (w.toNat % 256)

/-- The high byte of a 16-bit word. -/
def highByte (w : UInt16) : UInt8 := UInt8.ofNat (w.toNat / 256)

/-- The 16-bit word whose low byte is `lo` and high byte is `hi`. -/
def ofBytes (lo hi : UInt8) : UInt16 := UInt16.ofNat (lo.toNat + 256 * hi.toNat)

/-- A 16-bit word as two bytes, low byte first. -/
def toLittleEndian (w : UInt16) : List UInt8 := [lowByte w, highByte w]

theorem toNat_satAdd16 (a b : UInt16) : (satAdd16 a b).toNat = min (a.toNat + b.toNat) 65535 := by
  unfold satAdd16
  rw [UInt16.toNat_ofNat']
  exact Nat.mod_eq_of_lt (by omega)

theorem toNat_satAdd32 (a b : UInt32) :
    (satAdd32 a b).toNat = min (a.toNat + b.toNat) 4294967295 := by
  unfold satAdd32
  rw [UInt32.toNat_ofNat']
  exact Nat.mod_eq_of_lt (by omega)

theorem toNat_satMul8 (a b : UInt8) : (satMul8 a b).toNat = min (a.toNat * b.toNat) 255 := by
  unfold satMul8
  rw [UInt8.toNat_ofNat']
  exact Nat.mod_eq_of_lt (by omega)

theorem toNat_ofBytes (lo hi : UInt8) : (ofBytes lo hi).toNat = lo.toNat + 256 * hi.toNat := by
  have hl := lo.toNat_lt
  have hh := hi.toNat_lt
  unfold ofBytes
  rw [UInt16.toNat_ofNat']
  exact Nat.mod_eq_of_lt (by omega)

theorem ofBytes_lowByte_highByte (w : UInt16) : ofBytes (lowByte w) (highByte w) = w := by
  have hw := w.toNat_lt
  apply UInt16.toNat_inj.mp
  simp only [ofBytes, lowByte, highByte, UInt16.toNat_ofNat', UInt8.toNat_ofNat']
  omega

theorem lowByte_ofBytes (lo hi : UInt8) : lowByte (ofBytes lo hi) = lo := by
  have hl := lo.toNat_lt
  have hh := hi.toNat_lt
  apply UInt8.toNat_inj.mp
  simp only [ofBytes, lowByte, UInt16.toNat_ofNat', UInt8.toNat_ofNat']
  omega

theorem highByte_ofBytes (lo hi : UInt8) : highByte (ofBytes lo hi) = hi := by
  have hl := lo.toNat_lt
  have hh := hi.toNat_lt
  apply UInt8.toNat_inj.mp
  simp only [ofBytes, highByte, UInt16.toNat_ofNat', UInt8.toNat_ofNat']
  omega

end Stimulator.Word
