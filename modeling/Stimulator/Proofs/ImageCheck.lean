import Stimulator.Proofs.Codec

/-!
# Which images are refused

`Bank.ofImage n` checks an image in two stages: its length first, then the bounds of each record
in channel order, stopping at the first record out of bounds. This module states both checks on
the bytes themselves, at the offsets of the record layout, with no reference to the decoder:

* `Record.OutOfBounds` : an amplitude (byte 1 or byte 2) above 50, or the most ramp steps (the
  little-endian word at bytes 17 and 18) above 10;
* `Bank.recordAt bytes c` : the 21 bytes of channel `c`;
* `Record.isValid_decode` : a record decodes to a setting in bounds exactly when it is not out
  of bounds, whatever its run state, times, step, pulses per step and pulse limit hold;
* `Bank.decodeRecords_outOfBounds`, `Bank.decodeRecords_inBounds` : decoding reports the first
  record out of bounds, and otherwise gives every record decoded;
* `Bank.ofImage_refusals` : the whole statement.
-/

namespace Stimulator

namespace Record

open Word

/-- A record out of bounds, read off its bytes: an amplitude above 50 (byte 1 or byte 2), or more
than 10 ramp steps (the little-endian word at bytes 17 and 18). -/
def OutOfBounds (r : List UInt8) : Prop :=
  50 < (r.getD 1 0).toNat ∨ 50 < (r.getD 2 0).toNat ∨
    10 < (r.getD 17 0).toNat + 256 * (r.getD 18 0).toNat

instance : DecidablePred OutOfBounds := fun _ => inferInstanceAs (Decidable (_ ∨ _ ∨ _))

/-- Word `i` of a byte list is the little-endian word at bytes `2 i` and `2 i + 1`. -/
theorem getD_wordsOf {bs : List UInt8} {i : Nat} (h : 2 * i + 1 < bs.length) :
    (wordsOf bs).getD i 0 = ofBytes (bs.getD (2 * i) 0) (bs.getD (2 * i + 1) 0) := by
  fun_induction wordsOf bs generalizing i with
  | case1 lo hi rest ih =>
    cases i with
    | zero => simp
    | succ i =>
      simp only [List.length_cons] at h
      have e1 : (lo :: hi :: rest).getD (2 * (i + 1)) 0 = rest.getD (2 * i) 0 := by
        rw [show 2 * (i + 1) = 2 * i + 1 + 1 by omega, List.getD_cons_succ, List.getD_cons_succ]
      have e2 : (lo :: hi :: rest).getD (2 * (i + 1) + 1) 0 = rest.getD (2 * i + 1) 0 := by
        rw [show 2 * (i + 1) + 1 = 2 * i + 1 + 1 + 1 by omega, List.getD_cons_succ,
          List.getD_cons_succ]
      rw [List.getD_cons_succ, ih (by omega), e1, e2]
  | case2 bs hne =>
    rcases eq_nil_or_singleton hne with rfl | ⟨x, rfl⟩ <;> simp at h

/-- **A 21-byte record reads as a setting in bounds exactly when it is not out of bounds.** -/
theorem isValid_decode {r : List UInt8} (h : r.length = size) :
    (decode r).isValid = true ↔ ¬OutOfBounds r := by
  -- the most ramp steps are word 7 of the bytes after the amplitudes, so bytes 17 and 18
  have hw : (wordsOf (r.drop 3)).getD 7 0 = ofBytes (r.getD 17 0) (r.getD 18 0) := by
    rw [getD_wordsOf (by simp [h, size])]
    simp only [List.getD_eq_getElem?_getD, List.getElem?_drop]
  have hsteps := toNat_ofBytes (r.getD 17 0) (r.getD 18 0)
  rw [ChannelSetting.isValid_eq_true]
  simp only [ChannelSetting.IsValid, decode, hw, OutOfBounds]
  omega

end Record

namespace Bank

/-- The record of channel `c` in an image: the 21 bytes from offset `21 c`. -/
def recordAt (bytes : List UInt8) (c : Nat) : List UInt8 :=
  (bytes.drop (Record.size * c)).take Record.size

theorem recordAt_zero (bytes : List UInt8) : recordAt bytes 0 = bytes.take Record.size := by
  simp [recordAt]

theorem recordAt_succ (bytes : List UInt8) (c : Nat) :
    recordAt bytes (c + 1) = recordAt (bytes.drop Record.size) c := by
  simp only [recordAt, List.drop_drop, Nat.mul_succ, Nat.add_comm]

theorem length_recordAt {bytes : List UInt8} {n c : Nat} (h : bytes.length = Record.size * n)
    (hc : c < n) : (recordAt bytes c).length = Record.size := by
  have hle : Record.size * c + Record.size ≤ Record.size * n := by
    rw [← Nat.mul_succ]
    exact Nat.mul_le_mul_left _ hc
  simp only [recordAt, List.length_take, List.length_drop, h]
  omega

/-- The image after its first record holds one record fewer. -/
theorem length_drop_record {bytes : List UInt8} {k : Nat} (h : bytes.length = Record.size * (k + 1)) :
    (bytes.drop Record.size).length = Record.size * k := by
  rw [List.length_drop, h, Nat.mul_succ]
  omega

/-- The first record decodes to a setting in bounds exactly when it is not out of bounds. -/
theorem isValid_first {bytes : List UInt8} {k : Nat} (h : bytes.length = Record.size * (k + 1)) :
    (Record.decode (bytes.take Record.size)).isValid = true ↔ ¬Record.OutOfBounds (recordAt bytes 0) := by
  rw [← recordAt_zero]
  exact Record.isValid_decode (length_recordAt h (Nat.succ_pos k))

/-- **Decoding stops at the first record out of bounds**, and reports it by its channel. -/
theorem decodeRecords_outOfBounds {count first c : Nat} {bytes : List UInt8}
    (hlen : bytes.length = Record.size * count) (hc : c < count)
    (hbefore : ∀ c' < c, ¬Record.OutOfBounds (recordAt bytes c'))
    (hout : Record.OutOfBounds (recordAt bytes c)) :
    decodeRecords count first bytes = .error (.outOfBounds (first + c)) := by
  induction c generalizing count first bytes with
  | zero =>
    obtain ⟨k, rfl⟩ : ∃ k, count = k + 1 := ⟨count - 1, by omega⟩
    have hbad : ¬(Record.decode (bytes.take Record.size)).isValid = true :=
      fun h => (isValid_first hlen).1 h hout
    simp [decodeRecords, hbad]
  | succ c ih =>
    obtain ⟨k, rfl⟩ : ∃ k, count = k + 1 := ⟨count - 1, by omega⟩
    -- the first record is in bounds; the offending one is record `c` of the rest
    have hgood := (isValid_first hlen).2 (hbefore 0 (Nat.succ_pos c))
    have hrest : decodeRecords k (first + 1) (bytes.drop Record.size) =
        .error (.outOfBounds (first + 1 + c)) :=
      ih (length_drop_record hlen) (by omega)
        (fun c' hc' => recordAt_succ bytes c' ▸ hbefore (c' + 1) (by omega))
        (recordAt_succ bytes c ▸ hout)
    simp only [decodeRecords, hgood, if_true, hrest, Except.map, Nat.add_assoc, Nat.add_comm 1 c]

/-- **With every record in bounds, decoding gives every record decoded**, in channel order. -/
theorem decodeRecords_inBounds {count first : Nat} {bytes : List UInt8}
    (hlen : bytes.length = Record.size * count)
    (hin : ∀ c < count, ¬Record.OutOfBounds (recordAt bytes c)) :
    decodeRecords count first bytes =
      .ok ((List.range count).map fun c => Record.decode (recordAt bytes c)) := by
  induction count generalizing first bytes with
  | zero => rfl
  | succ k ih =>
    have hgood := (isValid_first hlen).2 (hin 0 (Nat.succ_pos k))
    have hrest : decodeRecords k (first + 1) (bytes.drop Record.size) =
        .ok ((List.range k).map fun c => Record.decode (recordAt (bytes.drop Record.size) c)) :=
      ih (length_drop_record hlen) (fun c hc => recordAt_succ bytes c ▸ hin (c + 1) (by omega))
    simp [decodeRecords, hgood, hrest, Except.map, List.range_succ_eq_map, Function.comp_def,
      recordAt_zero, recordAt_succ]

/-- Decoding records fails only on a record out of bounds. -/
theorem decodeRecords_error {count first : Nat} {bytes : List UInt8} {e : ImageError}
    (h : decodeRecords count first bytes = .error e) : ∃ c, e = .outOfBounds c := by
  induction count generalizing first bytes with
  | zero => cases h
  | succ k ih =>
    simp only [decodeRecords] at h
    split at h
    · cases hrest : decodeRecords k (first + 1) (bytes.drop Record.size) with
      | ok ss => rw [hrest] at h; cases h
      | error e' =>
        rw [hrest] at h
        cases h
        exact ih hrest
    · cases h
      exact ⟨first, rfl⟩

/-- **Which images are refused, and why.** An image is refused for its length exactly when it
does not hold 21 bytes per channel. Otherwise the first channel whose record is out of bounds
is reported; with none, the image reads as the bank of its records decoded, whatever their run
state, times, step, pulses per step and pulse limit bytes hold. -/
theorem ofImage_refusals (n : Nat) (bytes : List UInt8) :
    (ofImage n bytes = .error (.lengthMismatch (Record.size * n) bytes.length) ↔
      bytes.length ≠ Record.size * n) ∧
    (bytes.length = Record.size * n → ∀ c < n, (∀ c' < c, ¬Record.OutOfBounds (recordAt bytes c')) →
      Record.OutOfBounds (recordAt bytes c) → ofImage n bytes = .error (.outOfBounds c)) ∧
    (bytes.length = Record.size * n → (∀ c < n, ¬Record.OutOfBounds (recordAt bytes c)) →
      ofImage n bytes = .ok ⟨(List.range n).map fun c => Record.decode (recordAt bytes c)⟩) := by
  refine ⟨⟨fun h hlen => ?_, fun hlen => by simp [ofImage, hlen]⟩, ?_, ?_⟩
  · -- an image of the right length is refused only for a record
    rw [ofImage, if_pos hlen] at h
    cases hd : decodeRecords n 0 bytes with
    | ok ss => rw [hd] at h; cases h
    | error e =>
      rw [hd] at h
      obtain ⟨c, rfl⟩ := decodeRecords_error hd
      cases h
  · intro hlen c hc hbefore hout
    rw [ofImage, if_pos hlen, decodeRecords_outOfBounds hlen hc hbefore hout, Nat.zero_add]
    rfl
  · intro hlen hin
    rw [ofImage, if_pos hlen, decodeRecords_inBounds hlen hin]
    rfl

/-- A two-channel image whose second record asks for eleven ramp steps is refused at channel 1. -/
theorem ofImage_refusals_eleven_steps :
    let bytes : List UInt8 := List.replicate 21 0 ++ (List.replicate 17 0 ++ [11, 0, 0, 0])
    bytes.length = Record.size * 2 ∧ (∀ c' < 1, ¬Record.OutOfBounds (recordAt bytes c')) ∧
      Record.OutOfBounds (recordAt bytes 1) ∧ ofImage 2 bytes = .error (.outOfBounds 1) :=
  ⟨rfl, by decide, by decide, (ofImage_refusals 2 _).2.1 rfl 1 (by decide) (by decide) (by decide)⟩

end Bank

end Stimulator
