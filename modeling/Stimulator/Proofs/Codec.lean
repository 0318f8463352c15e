import Stimulator.Setting.Image

/-!
# The settings image reads back what it wrote

A record is written field by field at fixed offsets and read back the same way; an image is
the records of a bank in channel order. This module shows that the two directions are inverse,
each on its own domain:

* `Record.encode_decode` : every 21-byte record is the record of the setting read from it: the
  run state byte survives `RunState.ofByte` whatever its value, and the nine words are read and
  written at the same offsets;
* `Bank.ofImage_toImage` : the image of a bank whose run states are canonical and whose values
  are in bounds reads back as that bank;
* `Bank.toImage_of_ofImage` : an image that reads as a bank is that bank's image, byte for byte;
* `image_round_trip` : the four facts together.

Nothing here bounds the number of channels: a bank of any size round-trips, so in particular
the one to four channels a board has.
-/

namespace Stimulator

namespace Record

open Word

/-- A list from which `wordsOf` reads no word has at most one byte. -/
theorem eq_nil_or_singleton {bs : List UInt8}
    (h : ∀ lo hi rest, bs = lo :: hi :: rest → False) : bs = [] ∨ ∃ x, bs = [x] := by
  rcases bs with _ | ⟨x, _ | ⟨y, rest⟩⟩
  · exact .inl rfl
  · exact .inr ⟨x, rfl⟩
  · exact (h x y rest rfl).elim

theorem length_wordsOf (bs : List UInt8) : (wordsOf bs).length = bs.length / 2 := by
  fun_induction wordsOf bs with
  | case1 lo hi rest ih => simp [ih]; omega
  | case2 bs hne => rcases eq_nil_or_singleton hne with rfl | ⟨x, rfl⟩ <;> simp

/-- Writing back the words read from an even number of bytes gives the bytes. -/
theorem flatMap_wordsOf {bs : List UInt8} (h : bs.length % 2 = 0) :
    (wordsOf bs).flatMap toLittleEndian = bs := by
  fun_induction wordsOf bs with
  | case1 lo hi rest ih =>
    simp only [List.length_cons] at h
    simp [toLittleEndian, lowByte_ofBytes, highByte_ofBytes, ih (by omega)]
  | case2 bs hne =>
    rcases eq_nil_or_singleton hne with rfl | ⟨x, rfl⟩
    · rfl
    · simp at h

/-- A list of nine items is the list of its nine items read with a default. -/
theorem getD_nine {α : Type} (d : α) (w : List α) (h : w.length = 9) :
    [w.getD 0 d, w.getD 1 d, w.getD 2 d, w.getD 3 d, w.getD 4 d, w.getD 5 d, w.getD 6 d,
      w.getD 7 d, w.getD 8 d] = w := by
  rcases w with _ | ⟨a, _ | ⟨b, _ | ⟨c, _ | ⟨e, _ | ⟨f, _ | ⟨g, _ | ⟨i, _ | ⟨j, _ | ⟨k, _ | ⟨l, w⟩⟩⟩⟩⟩⟩⟩⟩⟩⟩ <;>
    simp at h ⊢

/-- **Every record is written back as it was read**, whatever its run state byte. -/
theorem encode_decode {r : List UInt8} (h : r.length = size) : encode (decode r) = r := by
  match r, h with
  | b0 :: b1 :: b2 :: rest, h =>
    have hrest : rest.length = 18 := by simp [size] at h; omega
    have hw : (wordsOf rest).length = 9 := by rw [length_wordsOf, hrest]
    -- the run state byte comes back by `toByte_ofByte`; the nine words are `wordsOf rest`
    simp only [encode, decode, words, PhaseTimes.toList, RampDelta.toList, List.getD_cons_zero,
      List.getD_cons_succ, List.drop_succ_cons, List.drop_zero, RunState.toByte_ofByte,
      List.cons_append, List.nil_append]
    rw [getD_nine 0 _ hw, flatMap_wordsOf (by omega)]

end Record

namespace Bank

/-- Records of settings with canonical run states and values in bounds decode to those settings,
whatever bytes follow them. -/
theorem decodeRecords_flatMap (ss : List ChannelSetting)
    (h : ∀ s ∈ ss, s.runState.IsCanonical ∧ s.IsValid) (first : Nat) (rest : List UInt8) :
    decodeRecords ss.length first (ss.flatMap Record.encode ++ rest) = .ok ss := by
  induction ss generalizing first with
  | nil => rfl
  | cons s ss ih =>
    obtain ⟨⟨hcan, hval⟩, hss⟩ := List.forall_mem_cons.mp h
    have htake : (Record.encode s ++ (ss.flatMap Record.encode ++ rest)).take Record.size =
        Record.encode s := by simp
    have hdrop : (Record.encode s ++ (ss.flatMap Record.encode ++ rest)).drop Record.size =
        ss.flatMap Record.encode ++ rest := by simp
    simp only [List.length_cons, List.flatMap_cons, List.append_assoc, decodeRecords, htake, hdrop,
      Record.decode_encode hcan, (ChannelSetting.isValid_eq_true s).mpr hval, if_true, ih hss]
    rfl

/-- **A bank of canonical settings in bounds reads back from its image.** -/
theorem ofImage_toImage (b : Bank) (h : ∀ s ∈ b.channels, s.runState.IsCanonical ∧ s.IsValid) :
    ofImage b.size b.toImage = .ok b := by
  have hd := decodeRecords_flatMap b.channels h 0 []
  rw [List.append_nil] at hd
  rw [ofImage, if_pos (length_toImage b)]
  simp only [size, toImage, hd]
  rfl

/-- Decoding one more record succeeds exactly by reading a first record in bounds and decoding
the rest. -/
theorem decodeRecords_succ_eq_ok {n first : Nat} {bytes : List UInt8} {ss : List ChannelSetting}
    (h : decodeRecords (n + 1) first bytes = .ok ss) :
    ∃ ss', decodeRecords n (first + 1) (bytes.drop Record.size) = .ok ss' ∧
      ss = Record.decode (bytes.take Record.size) :: ss' ∧
      (Record.decode (bytes.take Record.size)).IsValid := by
  simp only [decodeRecords] at h
  split at h
  · next hs =>
    cases hrest : decodeRecords n (first + 1) (bytes.drop Record.size) with
    | error e => rw [hrest] at h; cases h
    | ok ss' =>
      rw [hrest] at h
      cases h
      exact ⟨ss', rfl, rfl, (ChannelSetting.isValid_eq_true _).mp hs⟩
  · cases h

/-- An image reads as a bank exactly when it has the bank's length and its records decode. -/
theorem ofImage_eq_ok {n : Nat} {bytes : List UInt8} {b : Bank} (h : ofImage n bytes = .ok b) :
    bytes.length = Record.size * n ∧ decodeRecords n 0 bytes = .ok b.channels := by
  unfold ofImage at h
  split at h
  · next hlen =>
    cases hd : decodeRecords n 0 bytes with
    | error e => rw [hd] at h; cases h
    | ok ss =>
      rw [hd] at h
      cases h
      exact ⟨hlen, rfl⟩
  · cases h

theorem flatMap_encode_of_decodeRecords {n first : Nat} {bytes : List UInt8}
    {ss : List ChannelSetting} (h : decodeRecords n first bytes = .ok ss)
    (hlen : bytes.length = Record.size * n) : ss.flatMap Record.encode = bytes := by
  induction n generalizing first bytes ss with
  | zero =>
    cases h
    simp only [Nat.mul_zero, List.length_eq_zero_iff] at hlen
    simp [hlen]
  | succ n ih =>
    obtain ⟨ss', hrest, rfl, -⟩ := decodeRecords_succ_eq_ok h
    have hl : (bytes.drop Record.size).length = Record.size * n := by
      rw [List.length_drop, hlen, Nat.mul_succ]; omega
    have ht : (bytes.take Record.size).length = Record.size := by
      rw [List.length_take, hlen, Nat.mul_succ]; omega
    rw [List.flatMap_cons, Record.encode_decode ht, ih hrest hl, List.take_append_drop]

/-- **An image that reads as a bank is that bank's image.** -/
theorem toImage_of_ofImage {n : Nat} {bytes : List UInt8} {b : Bank} (h : ofImage n bytes = .ok b) :
    b.toImage = bytes :=
  flatMap_encode_of_decodeRecords (ofImage_eq_ok h).2 (ofImage_eq_ok h).1

end Bank

/-- **The record and image codecs are inverse.** A setting with a canonical run state reads back
from its record; every 21-byte record is written back unchanged; a bank of such settings in
bounds has an image of 21 bytes per channel that reads back as the bank; and an image that reads
as a bank is exactly that bank's image. -/
theorem image_round_trip :
    (∀ s : ChannelSetting, s.runState.IsCanonical → Record.decode (Record.encode s) = s) ∧
    (∀ r : List UInt8, r.length = Record.size → Record.encode (Record.decode r) = r) ∧
    (∀ b : Bank, (∀ s ∈ b.channels, s.runState.IsCanonical ∧ s.IsValid) →
      b.toImage.length = Record.size * b.size ∧ Bank.ofImage b.size b.toImage = .ok b) ∧
    (∀ (n : Nat) (bytes : List UInt8) (b : Bank), Bank.ofImage n bytes = .ok b →
      b.toImage = bytes) :=
  ⟨fun _ h => Record.decode_encode h, fun _ h => Record.encode_decode h,
    fun b h => ⟨Bank.length_toImage b, Bank.ofImage_toImage b h⟩,
    fun _ _ _ h => Bank.toImage_of_ofImage h⟩

/-- A setting whose run state byte is `0x7F`, next to a running one, survives the image. -/
theorem image_round_trip_undefined_run_state :
    let s : ChannelSetting :=
      { runState := .undefined 0x7F, delta := ⟨100, 50000, 4⟩, pulseLimit := 0x0102 }
    let b : Bank := ⟨[s, { s with runState := .running }]⟩
    (∀ s ∈ b.channels, s.runState.IsCanonical ∧ s.IsValid) ∧
      b.toImage.length = 42 ∧ Bank.ofImage 2 b.toImage = .ok b := by
  intro s b
  have hb : ∀ s ∈ b.channels, s.runState.IsCanonical ∧ s.IsValid := by
    simp only [b, s, List.mem_cons, List.not_mem_nil, or_false, forall_eq_or_imp, forall_eq]
    exact ⟨⟨⟨by decide, by decide, by decide⟩, (ChannelSetting.isValid_eq_true _).mp rfl⟩,
      ⟨trivial, (ChannelSetting.isValid_eq_true _).mp rfl⟩⟩
  exact ⟨hb, (image_round_trip.2.2.1 b hb).1, (image_round_trip.2.2.1 b hb).2⟩

end Stimulator
