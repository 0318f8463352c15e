import Stimulator.Setting.Bank
import Stimulator.Setting.Record

/-!
# The settings image

The bytes persisted for a bank: one 21-byte record per channel, in channel order.

* `Bank.toImage` : the image of a bank;
* `Bank.ofImage n bytes` : the bank of `n` channels an image holds. A length other than `21 n`
  is refused first (`ImageError.lengthMismatch`); then the first record whose amplitudes or ramp
  are out of bounds is reported (`ImageError.outOfBounds`). The run state byte, the times and the
  pulse limit are taken as they are.
-/

namespace Stimulator

/-- Why an image was refused. -/
inductive ImageError where
  /-- The image does not have 21 bytes per channel. -/
  | lengthMismatch (expected actual : Nat)
  /-- A record holds an amplitude or ramp the mutation boundary would refuse. -/
  | outOfBounds (channel : Nat)
  deriving DecidableEq, Repr, Inhabited

namespace Bank

/-- The persisted image of a bank. -/
def toImage (b : Bank) : List UInt8 := b.channels.flatMap Record.encode

/-- Decode `count` records from `bytes`, numbering them from `first`; the first record out of
bounds stops the decoding. -/
def decodeRecords : Nat → Nat → List UInt8 → Except ImageError (List ChannelSetting)
  | 0, _, _ => .ok []
  | count + 1, first, bytes =>
    let s := Record.decode (bytes.take Record.size)
    if s.isValid then
      (decodeRecords count (first + 1) (bytes.drop Record.size)).map (s :: ·)
    else .error (.outOfBounds first)

/-- The bank of `n` channels held by an image. -/
def ofImage (n : Nat) (image : List UInt8) : Except ImageError Bank :=
  if image.length = Record.size * n then
    (decodeRecords n 0 image).map Bank.mk
  else .error (.lengthMismatch (Record.size * n) image.length)

@[simp] theorem length_toImage (b : Bank) : b.toImage.length = Record.size * b.size := by
  unfold toImage size
  induction b.channels with
  | nil => rfl
  | cons s rest ih =>
    simp only [List.flatMap_cons, List.length_append, Record.length_encode, ih, List.length_cons]
    rw [Nat.mul_succ, Nat.add_comm]

end Bank

end Stimulator
