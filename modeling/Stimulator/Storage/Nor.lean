/-!
# The NOR flash partition

The settings live in a 64 KiB partition of NOR flash, sixteen erase pages of 4 KiB. Erasing sets
every byte of a page to `0xFF`; a write can only clear bits (`Nor.write` ands the data into
memory). Reads move whole 4-byte words, writes single bytes, erases whole pages, and an access
that breaks these rules or leaves the partition is refused (`NorError`). Each kind of operation
can be made to fail (`Faults`), which then changes nothing.

* `Nor.blank` : the partition freshly erased;
* `Nor.read`, `Nor.write`, `Nor.erase` : the three flash operations;
* `Nor.overwrite` : bytes put straight into the partition, bypassing the flash rules — how a
  damaged partition is staged.
-/

namespace Stimulator.Storage

/-- Which flash operations are made to fail. -/
structure Faults where
  read : Bool := false
  write : Bool := false
  erase : Bool := false
  deriving DecidableEq, Repr, Inhabited

/-- Why the flash refused an operation. -/
inductive NorError where
  | outOfBounds
  | notAligned
  /-- The operation failed on the device. -/
  | failed
  deriving DecidableEq, Repr, Inhabited

/-- The partition's bytes and the faults switched on. -/
structure Nor where
  bytes : ByteArray
  faults : Faults := {}

namespace Nor

/-- Bytes in the partition. -/
def size : Nat := 65536
/-- Reads move whole words of this many bytes. -/
def readSize : Nat := 4
/-- Bytes in one erase page. -/
def eraseSize : Nat := 4096

/-- The partition freshly erased. -/
def blank : Nor where
  bytes := ⟨Array.replicate size 0xFF⟩

/-- Read `len` bytes from `addr`. -/
def read (n : Nor) (addr len : Nat) : Except NorError (List UInt8) :=
  if size < addr + len then .error .outOfBounds
  else if addr % readSize ≠ 0 ∨ len % readSize ≠ 0 then .error .notAligned
  else if n.faults.read then .error .failed
  else .ok (n.bytes.extract addr (addr + len)).toList

/-- And bytes into memory from `addr` on. -/
def andInto (b : ByteArray) (addr : Nat) : List UInt8 → ByteArray
  | [] => b
  | x :: xs => andInto (b.set! addr (b.get! addr &&& x)) (addr + 1) xs

/-- Put bytes into memory from `addr` on, as they are. -/
def putInto (b : ByteArray) (addr : Nat) : List UInt8 → ByteArray
  | [] => b
  | x :: xs => putInto (b.set! addr x) (addr + 1) xs

/-- Write `data` at `addr`: only bits that are set can be cleared. -/
def write (n : Nor) (addr : Nat) (data : List UInt8) : Except NorError Nor :=
  if size < addr + data.length then .error .outOfBounds
  else if n.faults.write then .error .failed
  else .ok { n with bytes := andInto n.bytes addr data }

/-- Erase the pages from `start` up to `stop`. -/
def erase (n : Nor) (start stop : Nat) : Except NorError Nor :=
  if stop < start ∨ size < stop then .error .outOfBounds
  else if start % eraseSize ≠ 0 ∨ stop % eraseSize ≠ 0 then .error .notAligned
  else if n.faults.erase then .error .failed
  else .ok { n with bytes := putInto n.bytes start (List.replicate (stop - start) 0xFF) }

/-- Put bytes straight into the partition at `addr`; what falls outside it is dropped. -/
def overwrite (n : Nor) (addr : Nat) (data : List UInt8) : Nor :=
  { n with bytes := putInto n.bytes addr (data.take (size - addr)) }

end Nor

end Stimulator.Storage
