import Stimulator.Storage.Checksum
import Stimulator.Storage.Nor
import Stimulator.Word

/-!
# Items of the settings map

A page of the map holds items one after another, each an 8-byte header and its data, the data
padded with zero bytes to a whole word. The header holds the data checksum (bytes 0–3, 0 for an
erased item), the data length (bytes 4–5) and the CRC-16 of the two length bytes (bytes 6–7), all
little-endian. Reading a header (`readHeader`) finds erased flash (`absent`), a header whose
length check fails (`corrupted`), or a header. Reading the data (`readItem`) finds an erased item,
a corrupted one (its data runs past the page or fails the checksum), or the data; data longer
than the scratch buffer is an error.

* `MapM` : flash operations that keep what they wrote when they fail;
* `foldItems` : walk a page's readable items in order, stepping over a corrupted header one
  word at a time;
* `freeSpot` : where the next item of a page goes;
* `writeItem` : the header, the whole words of the data, then the last word zero-padded.
-/

namespace Stimulator.Storage

/-- Why an operation on the settings map failed. -/
inductive MapError where
  /-- The pages are in an inconsistent state; a repair may fix it. -/
  | corrupted
  /-- The flash refused an operation. -/
  | device (e : NorError)
  /-- An item is longer than the scratch buffer. -/
  | bufferTooSmall
  /-- No page could take the item. -/
  | full
  /-- The item is longer than a page holds. -/
  | tooBig
  /-- A key or value could not be put into, or read from, an item. -/
  | serialization
  /-- The room left in a page came out below zero, which stops the program: a damaged header sent
  the search for free space past the page's end. -/
  | underflow
  deriving DecidableEq, Repr, Inhabited

/-- Operations on the flash that may fail; what was written before a failure stays. -/
abbrev MapM := EStateM MapError Nor

/-- Run `x`; when it fails, carry on with `handle` from the state the failure left. -/
def orElse {α : Type} (x : MapM α) (handle : MapError → MapM α) : MapM α := fun n =>
  match x n with
  | .error e n' => handle e n'
  | .ok a n' => .ok a n'

/-- Read `len` bytes at `addr`. -/
def readBytes (addr len : Nat) : MapM (List UInt8) := fun n =>
  match n.read addr len with
  | .ok b => .ok b n
  | .error e => .error (.device e) n

/-- Write bytes at `addr`. -/
def writeBytes (addr : Nat) (data : List UInt8) : MapM Unit := fun n =>
  match n.write addr data with
  | .ok n' => .ok () n'
  | .error e => .error (.device e) n

/-- Erase from `start` up to `stop`. -/
def eraseRange (start stop : Nat) : MapM Unit := fun n =>
  match n.erase start stop with
  | .ok n' => .ok () n'
  | .error e => .error (.device e) n

namespace Item

/-- The flash word: the unit of every read and the alignment of every item. -/
def wordSize : Nat := 4
/-- Bytes in a header. -/
def headerSize : Nat := 8

/-- `n` rounded up to a whole word. -/
def alignUp (n : Nat) : Nat := (n + wordSize - 1) / wordSize * wordSize

/-- `n` rounded down to a whole word. -/
def alignDown (n : Nat) : Nat := n / wordSize * wordSize

/-- An item header. -/
structure Header where
  length : UInt16
  /-- The data checksum; 0 marks an erased item. -/
  checksum : UInt32
  deriving DecidableEq, Repr, Inhabited

/-- The four little-endian bytes of a 32-bit word. -/
def le32 (w : UInt32) : List UInt8 :=
  [w.toUInt8, (w >>> 8).toUInt8, (w >>> 16).toUInt8, (w >>> 24).toUInt8]

/-- The 32-bit word of four little-endian bytes. -/
def ofLe32 (b0 b1 b2 b3 : UInt8) : UInt32 :=
  b0.toUInt32 ||| (b1.toUInt32 <<< 8) ||| (b2.toUInt32 <<< 16) ||| (b3.toUInt32 <<< 24)

/-- The header's eight bytes. -/
def Header.encode (h : Header) : List UInt8 :=
  le32 h.checksum ++ Word.toLittleEndian h.length ++
    Word.toLittleEndian (Checksum.lengthChecksum (Word.toLittleEndian h.length))

/-- What eight bytes at an item position hold. -/
inductive HeaderRead where
  /-- Erased flash: no item here. -/
  | absent
  /-- The length check fails. -/
  | corrupted
  | found (h : Header)
  deriving DecidableEq, Repr, Inhabited

/-- Decode eight header bytes. -/
def Header.decode (b : List UInt8) : HeaderRead :=
  if b.all (· == 0xFF) then .absent
  else
    let lengthBytes := [b.getD 4 0, b.getD 5 0]
    if Checksum.lengthChecksum lengthBytes = Word.ofBytes (b.getD 6 0) (b.getD 7 0) then
      .found ⟨Word.ofBytes (b.getD 4 0) (b.getD 5 0),
        ofLe32 (b.getD 0 0) (b.getD 1 0) (b.getD 2 0) (b.getD 3 0)⟩
    else .corrupted

/-- Where an item's data starts. -/
def dataAddress (addr : Nat) : Nat := addr + headerSize

/-- Where the item after this one starts. -/
def Header.next (h : Header) (addr : Nat) : Nat := dataAddress addr + alignUp h.length.toNat

/-- Read the header at `addr` of a region ending at `stop`. -/
def readHeader (addr stop : Nat) : MapM HeaderRead := do
  if stop < addr + headerSize then return .absent
  let b ← readBytes addr headerSize
  pure (Header.decode b)

/-- What an item's data turned out to be. -/
inductive ItemRead where
  | erased
  | corrupted
  | present (data : List UInt8)
  deriving DecidableEq, Repr, Inhabited

/-- Read the data of the item with header `h` at `addr`, with a scratch buffer of `scratch`
bytes. -/
def readItem (scratch : Nat) (h : Header) (addr stop : Nat) : MapM ItemRead := do
  if h.checksum = 0 then return .erased
  let len := alignUp h.length.toNat
  if stop < dataAddress addr + len then return .corrupted
  if scratch < len then throw .bufferTooSmall
  let b ← readBytes (dataAddress addr) len
  let data := b.take h.length.toNat
  pure (if Checksum.itemChecksum data = h.checksum then .present data else .corrupted)

/-- Walk the items from `addr` to `stop`, passing each readable item's address and data to
`visit`. A corrupted header is stepped over a word at a time; `fuel` bounds the steps, and every
step moves at least a word. -/
def foldItems {α : Type} (scratch : Nat) (visit : α → Nat → List UInt8 → MapM α) :
    Nat → Nat → Nat → α → MapM α
  | 0, _, _, acc => pure acc
  | fuel + 1, addr, stop, acc => do
    match ← readHeader addr stop with
    | .absent => pure acc
    | .corrupted => foldItems scratch visit fuel (addr + wordSize) stop acc
    | .found h =>
      match ← readItem scratch h addr stop with
      | .present data => foldItems scratch visit fuel (h.next addr) stop (← visit acc addr data)
      | _ => foldItems scratch visit fuel (h.next addr) stop acc

/-- The first position from `addr` on that holds no header. -/
def freeSpot : Nat → Nat → Nat → MapM Nat
  | 0, addr, _ => pure addr
  | fuel + 1, addr, stop => do
    match ← readHeader addr stop with
    | .absent => pure addr
    | .corrupted => freeSpot fuel (addr + wordSize) stop
    | .found h => freeSpot fuel (h.next addr) stop

/-- Data bytes an item can hold in `room` bytes. -/
def capacity (room : Nat) : Option Nat :=
  if headerSize ≤ alignDown room then some (alignDown room - headerSize) else none

/-- Write an item with header `h` and its data at `addr`. -/
def writeItem (addr : Nat) (h : Header) (data : List UInt8) : MapM Unit := do
  writeBytes addr h.encode
  let whole := alignDown data.length
  writeBytes (dataAddress addr) (data.take whole)
  let rest := data.drop whole
  if !rest.isEmpty then
    writeBytes (dataAddress addr + whole) (rest ++ List.replicate (wordSize - rest.length) 0)

/-- The header of new data. -/
def headerOf (data : List UInt8) : Header := ⟨UInt16.ofNat data.length, Checksum.itemChecksum data⟩

end Item

end Stimulator.Storage
