import Stimulator.Setting.Basic

/-!
# The 21-byte channel record

A channel setting is stored as one record of 21 bytes:

```text
offset  size  field
0       1     run state byte
1       1     positive amplitude
2       1     negative amplitude
3       10    T0 .. T4, 16-bit little-endian each
13      6     ramp step, pulses per step, most steps, 16-bit little-endian each
19      2     pulse limit, 16-bit little-endian
```

* `Record.encode` writes a setting, `Record.decode` reads one back without bounds checks;
* `Record.wordsOf` reads consecutive little-endian words;
* `decode_encode` : reading a written record gives the setting back when its run state is
  canonical; `length_encode` : a record has 21 bytes.
-/

namespace Stimulator.Record

open Word

/-- Bytes in one record. -/
def size : Nat := 21

/-- The nine 16-bit words of a setting in record order: T0 to T4, the ramp, the pulse limit. -/
def words (s : ChannelSetting) : List UInt16 :=
  s.times.toList ++ s.delta.toList ++ [s.pulseLimit]

/-- The record of a setting. -/
def encode (s : ChannelSetting) : List UInt8 :=
  s.runState.toByte :: s.voltage.positive :: s.voltage.negative ::
    (words s).flatMap toLittleEndian

/-- Consecutive little-endian words; a byte left over at the end is ignored. -/
def wordsOf : List UInt8 → List UInt16
  | lo :: hi :: rest => ofBytes lo hi :: wordsOf rest
  | _ => []

/-- The setting a record holds. Missing bytes read as zero. -/
def decode (r : List UInt8) : ChannelSetting :=
  let w := wordsOf (r.drop 3)
  let g := fun i => w.getD i 0
  { runState := RunState.ofByte (r.getD 0 0)
    voltage := ⟨r.getD 1 0, r.getD 2 0⟩
    times := ⟨g 0, g 1, g 2, g 3, g 4⟩
    delta := ⟨g 5, g 6, g 7⟩
    pulseLimit := g 8 }

@[simp] theorem length_encode (s : ChannelSetting) : (encode s).length = size := by
  simp [encode, words, PhaseTimes.toList, RampDelta.toList, toLittleEndian, size]

theorem wordsOf_flatMap (ws : List UInt16) :
    wordsOf (ws.flatMap toLittleEndian) = ws := by
  induction ws with
  | nil => rfl
  | cons w rest ih =>
    simp only [List.flatMap_cons, toLittleEndian, List.cons_append, List.nil_append, wordsOf,
      ofBytes_lowByte_highByte, ih]

theorem decode_encode {s : ChannelSetting} (h : s.runState.IsCanonical) : decode (encode s) = s := by
  have hw := wordsOf_flatMap (words s)
  simp only [decode, encode, List.drop_succ_cons, List.drop_zero, hw, List.getD_cons_zero,
    List.getD_cons_succ, RunState.ofByte_toByte h]
  rfl

end Stimulator.Record
