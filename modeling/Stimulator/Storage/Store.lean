import Stimulator.Storage.Map

/-!
# The settings store

The store the firmware sees: blobs under keys, kept in the settings map with a scratch buffer of
128 bytes, and every failure reduced to a `FlashError`.

* `ItemMap` : the two operations of a key-value map over the partition that the store is built
  on; `ItemMap.settings` is the settings map;
* `Store.read key capacity` : the blob under `key`, refused when longer than `capacity`;
* `Store.write key data` : replace the blob under `key`;
* `Store.eraseAll` : erase the whole partition.

`Store.readWith` and `Store.writeWith` are the same over any `ItemMap`.

Every failure of the map is `storage`, whatever its cause; only a failed erase of the whole
partition is `flash`. A write can also stop the whole program (`Ending.aborted`): when a damaged
header sends the search for free space past the end of a page, the room left comes out below zero.
-/

namespace Stimulator.Storage

/-- Why the store failed. -/
inductive FlashError where
  /-- The flash refused an erase. -/
  | flash
  /-- The map failed. -/
  | storage
  | notFound
  /-- The blob is longer than the buffer. -/
  | bufferTooSmall
  deriving DecidableEq, Repr, Inhabited

/-- How an operation ended: it returned, or it stopped the whole program with a message. -/
inductive Ending (α : Type) where
  | returned (result : α)
  | aborted (message : String)
  deriving DecidableEq, Repr

namespace Store

/-- What the program stops with when the room left in a page comes out below zero. -/
def underflowMessage : String := "attempt to subtract with overflow"

/-- Bytes of the scratch buffer that holds one item: its key and the blob. -/
def scratchSize : Nat := 128

end Store

/-- The two operations of a key-value map over the partition. -/
structure ItemMap where
  /-- The blob stored under a key, if any. -/
  fetch : Key → MapM (Option (List UInt8))
  /-- Store a blob under a key. -/
  store : Key → List UInt8 → MapM Unit

/-- The settings map, with a scratch buffer of `Store.scratchSize` bytes. -/
def ItemMap.settings : ItemMap := ⟨Map.fetch Store.scratchSize, Map.store Store.scratchSize⟩

namespace Store

/-- The blob under `key` in map `m`, into a buffer of `capacity` bytes. -/
def readWith (m : ItemMap) (key : Key) (capacity : Nat) (n : Nor) :
    Except FlashError (List UInt8) × Nor :=
  match (m.fetch key).run n with
  | .ok none n => (.error .notFound, n)
  | .ok (some data) n => (if capacity < data.length then .error .bufferTooSmall else .ok data, n)
  | .error _ n => (.error .storage, n)

/-- Replace the blob under `key` in map `m`. -/
def writeWith (m : ItemMap) (key : Key) (data : List UInt8) (n : Nor) :
    Ending (Except FlashError Unit) × Nor :=
  match (m.store key data).run n with
  | .ok _ n => (.returned (.ok ()), n)
  | .error .underflow n => (.aborted underflowMessage, n)
  | .error _ n => (.returned (.error .storage), n)

/-- The blob under `key`, into a buffer of `capacity` bytes. -/
def read (key : Key) (capacity : Nat) (n : Nor) : Except FlashError (List UInt8) × Nor :=
  readWith .settings key capacity n

/-- Replace the blob under `key`. -/
def write (key : Key) (data : List UInt8) (n : Nor) : Ending (Except FlashError Unit) × Nor :=
  writeWith .settings key data n

/-- Erase the whole partition. -/
def eraseAll (n : Nor) : Except FlashError Unit × Nor :=
  match n.erase 0 Nor.size with
  | .ok n => (.ok (), n)
  | .error _ => (.error .flash, n)

end Store

end Stimulator.Storage
