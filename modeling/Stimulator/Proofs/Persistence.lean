import Stimulator.Board.Persist
import Stimulator.Proofs.Codec

/-!
# Storing and loading the settings

The settings store is built on a key-value map over the flash partition (`Storage.ItemMap`).
This module takes any map that behaves as a key-value store (`ItemMap.KeyValue`: a fetch finds the
blob stored last, a failed store leaves every fetch as it was, and erasing the partition empties
the map) and follows a store of the settings to the next load:

* `Store.readWith_fst` : a read's result is the fetch's, with a missing blob `notFound` and every
  map error `storage`;
* `Persist.storeWith_cases` : the four ways a store ends, with what it did to the partition: the
  image stored, at once or after the erase; the erase refused; the erase done and the second
  write refused; the program stopped;
* `Persist.store_then_load` : after a store that returns, the next load reads the settings
  stored, or reads what it read before, or, when the write after the erase was refused, reads
  nothing at all;
* `ItemMap.single` : a map of one item that is a key-value store (`ItemMap.single_keyValue`), on
  which a write fault makes every store erase the partition and fail
  (`Persist.store_write_fault`).
-/

namespace Stimulator

namespace Storage

namespace ItemMap

/-- What a fetch from map `m` finds, without the partition it leaves. -/
def lookup (m : ItemMap) (k : Key) (n : Nor) : Except MapError (Option (List UInt8)) :=
  match (m.fetch k).run n with
  | .ok v _ => .ok v
  | .error e _ => .error e

/-- A map that acts as a key-value store over the partition: a fetch finds the blob stored last,
a failed store leaves what a fetch finds as it was, and erasing the whole partition empties the
map. -/
structure KeyValue (m : ItemMap) : Prop where
  lookup_store : ∀ (k : Key) (d : List UInt8) (n n' : Nor),
    (m.store k d).run n = .ok () n' → m.lookup k n' = .ok (some d)
  lookup_failed_store : ∀ (k : Key) (d : List UInt8) (n : Nor) (e : MapError) (n' : Nor),
    (m.store k d).run n = .error e n' → m.lookup k n' = m.lookup k n
  lookup_erased : ∀ (k : Key) (n n' : Nor), n.erase 0 Nor.size = .ok n' → m.lookup k n' = .ok none

end ItemMap

namespace Store

variable {m : ItemMap}

theorem readWith_fst (m : ItemMap) (k : Key) (capacity : Nat) (n : Nor) :
    (readWith m k capacity n).1 =
      match m.lookup k n with
      | .ok none => .error .notFound
      | .ok (some d) => if capacity < d.length then .error .bufferTooSmall else .ok d
      | .error _ => .error .storage := by
  unfold readWith ItemMap.lookup
  cases (m.fetch k).run n with
  | ok v n' => cases v <;> rfl
  | error e n' => rfl

theorem readWith_fst_congr {k : Key} {capacity : Nat} {n n' : Nor} (h : m.lookup k n = m.lookup k n') :
    (readWith m k capacity n).1 = (readWith m k capacity n').1 := by
  rw [readWith_fst, readWith_fst, h]

theorem writeWith_cases {k : Key} {d : List UInt8} {n n' : Nor} {r : Ending (Except FlashError Unit)}
    (h : writeWith m k d n = (r, n')) :
    (r = .returned (.ok ()) ∧ (m.store k d).run n = .ok () n') ∨
      (r = .returned (.error .storage) ∧ ∃ e, (m.store k d).run n = .error e n') ∨
      ∃ msg, r = .aborted msg := by
  unfold writeWith at h
  split at h
  · next hs =>
    cases h
    exact .inl ⟨rfl, hs⟩
  · cases h
    exact .inr (.inr ⟨_, rfl⟩)
  · next e _ _ hs =>
    cases h
    exact .inr (.inl ⟨rfl, e, hs⟩)

theorem eraseAll_cases {n n' : Nor} {r : Except FlashError Unit} (h : eraseAll n = (r, n')) :
    (r = .ok () ∧ n.erase 0 Nor.size = .ok n') ∨ (r = .error .flash ∧ n' = n) := by
  unfold eraseAll at h
  split at h
  · next he =>
    cases h
    exact .inl ⟨rfl, he⟩
  · cases h
    exact .inr ⟨rfl, rfl⟩

end Store

end Storage

@[simp] theorem Board.flash_note (level message : String) (b : Board) :
    (b.note level message).flash = b.flash := rfl

namespace Persist

open Storage

variable {m : ItemMap}

/-- A load's result is read off the read's result; the board only carries the log. -/
theorem loadWith_fst (m : ItemMap) (b : Board) :
    (loadWith m b).1 =
      match (Store.readWith m .channelSettings maxImageSize b.flash).1 with
      | .error e => .error (.flash e)
      | .ok data =>
        match Bank.ofImage channelCount data with
        | .ok bank => .ok bank
        | .error e => .error (.image e) := by
  unfold loadWith
  rcases Store.readWith m .channelSettings maxImageSize b.flash with ⟨r, n⟩
  cases r with
  | error e => rfl
  | ok data =>
    cases hb : Bank.ofImage channelCount data <;> simp [hb]

theorem loadWith_fst_congr {b b' : Board}
    (h : m.lookup .channelSettings b.flash = m.lookup .channelSettings b'.flash) :
    (loadWith m b).1 = (loadWith m b').1 := by
  rw [loadWith_fst, loadWith_fst, Store.readWith_fst_congr h]

/-- **The ways a store ends.** The image is stored, at once or after the partition was erased; or
the first write was refused and so was the erase; or the erase was done and the second write
refused; or the program stopped. -/
theorem storeWith_cases {bank : Bank} {b b' : Board} {r : Ending (Except PersistError Unit)}
    (h : storeWith m bank b = (r, b')) :
    (r = .returned (.ok ()) ∧ ∃ n, (m.store .channelSettings bank.toImage).run n = .ok () b'.flash) ∨
      (r = .returned (.error (.flash .flash)) ∧
        ∃ e, (m.store .channelSettings bank.toImage).run b.flash = .error e b'.flash) ∨
      (r = .returned (.error (.flash .storage)) ∧ ∃ e₁ n₁ n₂ e₂,
        (m.store .channelSettings bank.toImage).run b.flash = .error e₁ n₁ ∧
        n₁.erase 0 Nor.size = .ok n₂ ∧ (m.store .channelSettings bank.toImage).run n₂ = .error e₂ b'.flash) ∨
      ∃ msg, r = .aborted msg := by
  unfold storeWith at h
  dsimp only at h
  rcases hw : Store.writeWith m .channelSettings bank.toImage b.flash with ⟨r₁, n₁⟩
  rw [hw] at h
  rcases Store.writeWith_cases hw with ⟨rfl, hput⟩ | ⟨rfl, e₁, hput⟩ | ⟨msg, rfl⟩
  · -- stored at once
    cases h
    exact .inl ⟨rfl, _, hput⟩
  · -- the map failed: the partition is erased and the image written once more
    simp only [Board.flash_note] at h
    rcases he : Store.eraseAll n₁ with ⟨r₂, n₂⟩
    rw [he] at h
    rcases Store.eraseAll_cases he with ⟨rfl, herase⟩ | ⟨rfl, rfl⟩
    · dsimp only at h
      rcases hw₂ : Store.writeWith m .channelSettings bank.toImage n₂ with ⟨r₃, n₃⟩
      rw [hw₂] at h
      rcases Store.writeWith_cases hw₂ with ⟨rfl, hput₂⟩ | ⟨rfl, e₂, hput₂⟩ | ⟨msg, rfl⟩
      · cases h
        exact .inl ⟨rfl, _, hput₂⟩
      · cases h
        exact .inr (.inr (.inl ⟨rfl, e₁, n₁, n₂, e₂, hput, herase, hput₂⟩))
      · cases h
        exact .inr (.inr (.inr ⟨msg, rfl⟩))
    · cases h
      exact .inr (.inl ⟨rfl, e₁, hput⟩)
  · cases h
    exact .inr (.inr (.inr ⟨msg, rfl⟩))

section Load

variable {bank : Bank} {b : Board}

/-- A board whose map holds a bank's image loads that bank, when it has the board's channels, its
run states are canonical and it is in bounds. -/
theorem loadWith_of_stored (hsize : bank.size = channelCount)
    (hbank : ∀ s ∈ bank.channels, s.runState.IsCanonical ∧ s.IsValid)
    (h : m.lookup .channelSettings b.flash = .ok (some bank.toImage)) :
    (loadWith m b).1 = .ok bank := by
  -- two channels' image fits the buffer of four
  have hfits : ¬maxImageSize < bank.toImage.length := by
    rw [Bank.length_toImage, hsize]
    decide
  rw [loadWith_fst, Store.readWith_fst, h]
  simp only [if_neg hfits]
  rw [← hsize, Bank.ofImage_toImage bank hbank]

/-- A board whose map holds nothing loads nothing. -/
theorem loadWith_of_empty (h : m.lookup .channelSettings b.flash = .ok none) :
    (loadWith m b).1 = .error (.flash .notFound) := by
  rw [loadWith_fst, Store.readWith_fst, h]

end Load

/-- **A store followed by a load**, on a map that acts as a key-value store, for settings of the
board's two channels with canonical run states and in bounds. A store that returns `Ok` is read
back by the next load. A store refused with `Flash(Flash)` left the map as it was, so the next
load reads what a load read before. Any other refusal is `Flash(Storage)`: the first write failed,
the partition was erased and the second write failed too, so the next load finds no settings at
all, whatever was stored before. -/
theorem store_then_load (hm : m.KeyValue) {bank : Bank} (hsize : bank.size = channelCount)
    (hbank : ∀ s ∈ bank.channels, s.runState.IsCanonical ∧ s.IsValid) (b : Board) :
    (∀ b', storeWith m bank b = (.returned (.ok ()), b') → (loadWith m b').1 = .ok bank) ∧
    (∀ b', storeWith m bank b = (.returned (.error (.flash .flash)), b') →
      (loadWith m b').1 = (loadWith m b).1) ∧
    (∀ e b', storeWith m bank b = (.returned (.error e), b') → e ≠ .flash .flash →
      e = .flash .storage ∧ (loadWith m b').1 = .error (.flash .notFound)) := by
  refine ⟨fun b' h => ?_, fun b' h => ?_, fun e b' h he => ?_⟩
  · rcases storeWith_cases h with ⟨-, n, hput⟩ | ⟨h', -⟩ | ⟨h', -⟩ | ⟨msg, h'⟩
    · exact loadWith_of_stored hsize hbank (hm.lookup_store _ _ _ _ hput)
    all_goals cases h'
  · rcases storeWith_cases h with ⟨h', -⟩ | ⟨-, e, hput⟩ | ⟨h', -⟩ | ⟨msg, h'⟩
    · cases h'
    · -- the erase was refused, so the map is as the failed write left it
      exact loadWith_fst_congr (hm.lookup_failed_store _ _ _ _ _ hput)
    all_goals cases h'
  · rcases storeWith_cases h with ⟨h', -⟩ | ⟨h', -⟩ | ⟨h', e₁, n₁, n₂, e₂, -, herase, hput⟩ | ⟨msg, h'⟩
    · cases h'
    · cases h'
      exact absurd rfl he
    · -- the second write failed on the erased partition, which holds nothing
      cases h'
      have hempty : m.lookup .channelSettings b'.flash = .ok none := by
        rw [hm.lookup_failed_store _ _ _ _ _ hput]
        exact hm.lookup_erased _ _ _ herase
      exact ⟨rfl, loadWith_of_empty hempty⟩
    · cases h'

end Persist

namespace Storage

theorem Nor.getElem?_putInto_of_lt (b : ByteArray) {addr i : Nat} (xs : List UInt8) (h : i < addr) :
    (Nor.putInto b addr xs).data[i]? = b.data[i]? := by
  induction xs generalizing b addr with
  | nil => rfl
  | cons x xs ih =>
    rw [Nor.putInto, ih _ (by omega)]
    show (b.data.set! addr x)[i]? = b.data[i]?
    rw [Array.set!_eq_setIfInBounds, Array.getElem?_setIfInBounds_ne (by omega)]

/-- A partition erased whole starts with an erased byte. -/
theorem Nor.erase_first {n n' : Nor} (h : n.erase 0 Nor.size = .ok n') {t : UInt8} {rest : List UInt8}
    (hl : n'.bytes.data.toList = t :: rest) : t = 0xFF := by
  have hb : n'.bytes = Nor.putInto n.bytes 0 (List.replicate Nor.size 0xFF) := by
    unfold Nor.erase at h
    rw [if_neg (by decide), if_neg (by decide)] at h
    split at h
    · cases h
    · rw [← Except.ok.inj h]
      simp only [Nat.sub_zero]
  have h0 : n'.bytes.data[0]? = some t := by
    rw [← Array.getElem?_toList, hl]
    rfl
  -- the first byte is the only one the later bytes of the erase leave as the first write set it
  rw [hb, show Nor.size = Nor.size - 1 + 1 by decide, List.replicate_succ, Nor.putInto,
    Nor.getElem?_putInto_of_lt _ _ Nat.zero_lt_one] at h0
  change (n.bytes.data.set! 0 0xFF)[0]? = some t at h0
  rw [Array.set!_eq_setIfInBounds, Array.getElem?_setIfInBounds, if_pos rfl] at h0
  split at h0
  · exact (Option.some.inj h0).symm
  · cases h0

namespace ItemMap

/-- The blob under key `k` in a one-item partition: the key's byte, the length in two bytes, then
the blob. -/
def readSingle (k : Key) : List UInt8 → Option (List UInt8)
  | t :: lo :: hi :: rest => if t = k.toByte then some (rest.take (Word.ofBytes lo hi).toNat) else none
  | _ => none

theorem readSingle_erased (k : Key) (rest : List UInt8) : readSingle k (0xFF :: rest) = none := by
  match rest with
  | [] => rfl
  | [_] => rfl
  | lo :: hi :: rest =>
    simp only [readSingle]
    rw [if_neg (by cases k <;> decide)]

/-- A map of one item at the start of the partition. A store writes the item over what was there,
unless the flash's write fault refuses it, and then changes nothing. -/
def single : ItemMap where
  fetch k n := .ok (readSingle k n.bytes.data.toList) n
  store k d n :=
    if n.faults.write then .error (.device .failed) n
    else if 65535 < d.length then .error .tooBig n
    else
      let item := k.toByte :: Word.toLittleEndian (UInt16.ofNat d.length) ++ d
      .ok () { n with bytes := ⟨(item ++ n.bytes.data.toList.drop item.length).toArray⟩ }

theorem single_store_fault {k : Key} {d : List UInt8} {n : Nor} (hw : n.faults.write = true) :
    (single.store k d).run n = .error (.device .failed) n := by
  simp [single, EStateM.run, hw]

/-- **The one-item map is a key-value store.** -/
theorem single_keyValue : single.KeyValue where
  lookup_store k d n n' h := by
    simp only [single, EStateM.run] at h
    split at h
    · cases h
    split at h
    · cases h
    next hlen =>
    cases h
    have hw : (UInt16.ofNat d.length).toNat = d.length := by
      rw [UInt16.toNat_ofNat']
      omega
    simp [lookup, single, readSingle, EStateM.run, Word.toLittleEndian, Word.ofBytes_lowByte_highByte, hw]
  lookup_failed_store k d n e n' h := by
    simp only [single, EStateM.run] at h
    split at h
    · cases h
      rfl
    split at h
    · cases h
      rfl
    · cases h
  lookup_erased k n n' h := by
    show Except.ok (readSingle k n'.bytes.data.toList) = .ok none
    cases hl : n'.bytes.data.toList with
    | nil => rfl
    | cons t rest => rw [Nor.erase_first h hl, readSingle_erased]

end ItemMap

theorem Nor.erase_whole {n : Nor} (he : n.faults.erase = false) :
    n.erase 0 Nor.size = .ok { n with bytes := Nor.putInto n.bytes 0 (List.replicate Nor.size 0xFF) } := by
  unfold Nor.erase
  rw [if_neg (by decide), if_neg (by decide), if_neg (by simp [he])]
  rfl

theorem Store.writeWith_single_fault (k : Key) (d : List UInt8) {n : Nor} (hw : n.faults.write = true) :
    Store.writeWith .single k d n = (.returned (.error .storage), n) := by
  simp [Store.writeWith, ItemMap.single_store_fault hw]

end Storage

namespace Persist

open Storage

theorem defaults_storable : ∀ s ∈ defaults.channels, s.runState.IsCanonical ∧ s.IsValid := by
  intro s hs
  simp only [defaults, List.mem_cons, List.not_mem_nil, or_false] at hs
  rcases hs with rfl | rfl <;> exact ⟨trivial, (ChannelSetting.isValid_eq_true _).mp rfl⟩

/-- The one-item map and the board's defaults meet the hypotheses of `store_then_load`; a refused
store other than `Flash(Flash)` leaves a map that holds nothing. -/
theorem store_then_load_single :
    ItemMap.single.KeyValue ∧ defaults.size = channelCount ∧
      (∀ s ∈ defaults.channels, s.runState.IsCanonical ∧ s.IsValid) ∧
      ∀ e b', storeWith .single defaults {} = (.returned (.error e), b') → e ≠ .flash .flash →
        e = .flash .storage ∧ (loadWith .single b').1 = .error (.flash .notFound) :=
  ⟨ItemMap.single_keyValue, rfl, defaults_storable,
    (store_then_load ItemMap.single_keyValue rfl defaults_storable {}).2.2⟩

/-- **A write fault loses the stored settings.** On the one-item map, when the flash refuses every
write but not the erase, a store erases the partition and fails with `Flash(Storage)`, and the next
load finds no settings, whatever was stored before. -/
theorem store_write_fault (bank : Bank) (b : Board) (hw : b.flash.faults.write = true)
    (he : b.flash.faults.erase = false) :
    ∃ b', storeWith .single bank b = (.returned (.error (.flash .storage)), b') ∧
      (loadWith .single b').1 = .error (.flash .notFound) := by
  have herase := Nor.erase_whole he
  have herased : Store.eraseAll b.flash =
      (.ok (), { b.flash with bytes := Nor.putInto b.flash.bytes 0 (List.replicate Nor.size 0xFF) }) := by
    unfold Store.eraseAll
    rw [herase]
  unfold storeWith
  dsimp only
  rw [Store.writeWith_single_fault _ _ hw]
  simp only [Board.flash_note]
  rw [herased]
  dsimp only
  -- the erase keeps the faults, so the second write is refused too
  have hw₂ : ({ b.flash with bytes := Nor.putInto b.flash.bytes 0 (List.replicate Nor.size 0xFF) } :
      Nor).faults.write = true := hw
  rw [Store.writeWith_single_fault _ _ hw₂]
  exact ⟨_, rfl, loadWith_of_empty (ItemMap.single_keyValue.lookup_erased _ _ _ herase)⟩

end Persist

end Stimulator
