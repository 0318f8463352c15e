import Stimulator.Proofs.Bounds
import Mathlib.Data.List.Forall2

/-!
# The channel file's schema

The build step turns the channel configuration file into the firmware's power-on defaults, and
refuses the build when `ChannelFile.validate` reports any problem. This module states the file
format on its own, as a relation between the parsed document and the defaults it stands for
(`ChannelFile.Accepts`), and shows that the validator decides exactly that relation and returns
exactly those defaults.

* `Toml.Value.atPath` : the value under a dotted path of keys, through nested tables;
* `ChannelFile.Holds` : a field holds an integer within its bound;
* `ChannelFile.Entry` : what one `[[channel]]` entry must hold, and the defaults it stands for;
  `ChannelFile.Entry.unique` : an entry stands for one setting at most;
* `ChannelFile.checkChannel_of_entry`, `ChannelFile.entry_of_checkChannel` : the check of one
  entry passes exactly on the entries of the format, with their defaults;
* `ChannelFile.validate_accepts_exactly` : the whole file passes exactly when it is in the format,
  and then its defaults are one per entry, in order.
-/

namespace Stimulator

namespace Toml.Value

/-- The value under a path of keys, each looked up in the table the previous one gave. -/
def atPath (v : Value) : List String → Option Value
  | [] => some v
  | k :: ks => (v.get k).bind fun u => u.atPath ks

theorem atPath_pair (v : Value) (k₁ k₂ : String) :
    v.atPath [k₁, k₂] = (v.get k₁).bind fun u => u.get k₂ := by
  simp [atPath]

end Toml.Value

namespace ChannelFile

open Toml

/-- The field `v` holds the integer `n`, and `n` is at most `max`. -/
def Holds (max : Nat) (v : Option Value) (n : Nat) : Prop := v = some (.integer n) ∧ n ≤ max

/-- A field within its bound is read as its integer, with no problem. -/
theorem intField_of_holds {max n : Nat} {v : Option Value} (h : Holds max v n) (channel : Nat)
    (name : String) : intField v channel name max = (n, []) := by
  obtain ⟨rfl, hn⟩ := h
  rw [intField, if_pos ⟨Int.natCast_nonneg n, Int.ofNat_le.mpr hn⟩, Int.toNat_natCast]

/-- A field read with no problem holds the integer read, within its bound. -/
theorem holds_intField {max channel : Nat} {v : Option Value} {name : String}
    (h : (intField v channel name max).2 = []) : Holds max v (intField v channel name max).1 := by
  generalize hr : intField v channel name max = r at h ⊢
  unfold intField at hr
  split at hr
  · next n =>
    split at hr
    · next hn =>
      cases hr
      exact ⟨by rw [Int.toNat_of_nonneg hn.1], by omega⟩
    · cases hr; cases h
  · cases hr; cases h
  · cases hr; cases h

theorem holds_toNat8 {max n : Nat} {v : Option Value} (hmax : max < 256) (h : Holds max v n) :
    (UInt8.ofNat n).toNat = n := by
  rw [UInt8.toNat_ofNat']
  exact Nat.mod_eq_of_lt (by have := h.2; omega)

theorem holds_toNat16 {max n : Nat} {v : Option Value} (hmax : max < 65536) (h : Holds max v n) :
    (UInt16.ofNat n).toNat = n := by
  rw [UInt16.toNat_ofNat']
  exact Nat.mod_eq_of_lt (by have := h.2; omega)

/-- Five integers within the bound are read as the phase times, with no problem. -/
theorem timesField_of_holds {ns : List Nat} (hlen : ns.length = 5) (hle : ∀ n ∈ ns, n ≤ 65535)
    (channel : Nat) :
    timesField (some (.array (ns.map fun n : Nat => .integer (n : Int)))) channel = (ns, []) := by
  have hfields : (ns.map fun n : Nat => Value.integer (n : Int)).map
      (fun item => intField (some item) channel "times" 65535) = ns.map fun n => (n, []) := by
    rw [List.map_map]
    exact List.map_congr_left fun n hn => intField_of_holds ⟨rfl, hle n hn⟩ channel "times"
  rw [timesField]
  dsimp only
  rw [if_pos (by rw [List.length_map, hlen]), hfields]
  simp [Function.comp_def]

/-- Phase times read with no problem are five integers within the bound, and the field holds
exactly them. -/
theorem holds_timesField {channel : Nat} {v : Option Value} (h : (timesField v channel).2 = []) :
    (timesField v channel).1.length = 5 ∧ (∀ n ∈ (timesField v channel).1, n ≤ 65535) ∧
      v = some (.array ((timesField v channel).1.map fun n : Nat => .integer (n : Int))) := by
  generalize hr : timesField v channel = r at h ⊢
  unfold timesField at hr
  dsimp only at hr
  split at hr
  · next items =>
    split at hr
    · next hlen =>
      cases hr
      simp only [List.flatMap_eq_nil_iff, List.mem_map] at h
      have hitem : ∀ item ∈ items,
          Holds 65535 (some item) (intField (some item) channel "times" 65535).1 :=
        fun item hi => holds_intField (h _ ⟨item, hi, rfl⟩)
      refine ⟨by simp only [List.length_map, hlen], ?_, ?_⟩
      · intro n hn
        rw [List.map_map] at hn
        obtain ⟨item, hi, rfl⟩ := List.mem_map.mp hn
        exact (hitem item hi).2
      · rw [List.map_map, List.map_map]
        exact congrArg (some ∘ Value.array) ((List.map_congr_left fun item hi =>
          (Option.some.inj (hitem item hi).1).symm).trans (List.map_id items)).symm
    · subst hr; simp at h
  · subst hr; simp at h
  · subst hr; simp at h

/-- A `[[channel]]` entry of the format, and the defaults it stands for: a table whose
`voltage.positive` and `voltage.negative` are integers in `0 … 50`, whose `times` are exactly five
integers in `0 … 65535`, whose `delta.step` and `delta.pulses_per_step` are integers in
`0 … 65535` and whose `delta.max_steps` is one in `0 … 10`, and whose `pulse_limit` is absent or an
integer in `0 … 65535`. The defaults carry exactly those integers, a pulse limit of 0 when it is
absent, and start stopped. Other keys of the table are free. -/
structure Entry (e : Value) (s : ChannelSetting) : Prop where
  table : e.isTable = true
  positive : Holds 50 (e.atPath ["voltage", "positive"]) s.voltage.positive.toNat
  negative : Holds 50 (e.atPath ["voltage", "negative"]) s.voltage.negative.toNat
  times : e.get "times" = some (.array (s.times.toList.map fun t => .integer (t.toNat : Int)))
  step : Holds 65535 (e.atPath ["delta", "step"]) s.delta.step.toNat
  pulsesPerStep : Holds 65535 (e.atPath ["delta", "pulses_per_step"]) s.delta.pulsesPerStep.toNat
  maxSteps : Holds 10 (e.atPath ["delta", "max_steps"]) s.delta.maxSteps.toNat
  pulseLimit : e.get "pulse_limit" = none ∧ s.pulseLimit = 0 ∨
    Holds 65535 (e.get "pulse_limit") s.pulseLimit.toNat
  stopped : s.runState = .stopped

theorem Holds.unique {max max' n n' : Nat} {v : Option Value} (h : Holds max v n)
    (h' : Holds max' v n') : n = n' := by
  have hv := h.1.symm.trans h'.1
  simp only [Option.some.injEq, Value.integer.injEq, Int.natCast_inj] at hv
  exact hv

/-- **An entry stands for one setting at most**: the defaults are read off the entry's integers. -/
theorem Entry.unique {e : Value} {s s' : ChannelSetting} (h : Entry e s) (h' : Entry e s') :
    s = s' := by
  have hlimit : s.pulseLimit = s'.pulseLimit := by
    rcases h.pulseLimit with ⟨hnone, hzero⟩ | hl <;>
      rcases h'.pulseLimit with ⟨hnone', hzero'⟩ | hl'
    · rw [hzero, hzero']
    · rw [hnone] at hl'; cases hl'.1
    · rw [hnone'] at hl; cases hl.1
    · exact UInt16.toNat_inj.mp (hl.unique hl')
  have htimes := h.times.symm.trans h'.times
  obtain ⟨rs, ⟨p, n⟩, ⟨t0, t1, t2, t3, t4⟩, ⟨st, pp, ms⟩, lim⟩ := s
  obtain ⟨rs', ⟨p', n'⟩, ⟨t0', t1', t2', t3', t4'⟩, ⟨st', pp', ms'⟩, lim'⟩ := s'
  simp only [PhaseTimes.toList, List.map_cons, List.map_nil, Option.some.injEq, Value.array.injEq,
    List.cons.injEq, Value.integer.injEq, Int.natCast_inj, UInt16.toNat_inj, and_true] at htimes
  obtain ⟨rfl, rfl, rfl, rfl, rfl⟩ := htimes
  have hp : p = p' := UInt8.toNat_inj.mp (h.positive.unique h'.positive)
  have hn : n = n' := UInt8.toNat_inj.mp (h.negative.unique h'.negative)
  have hst : st = st' := UInt16.toNat_inj.mp (h.step.unique h'.step)
  have hpp : pp = pp' := UInt16.toNat_inj.mp (h.pulsesPerStep.unique h'.pulsesPerStep)
  have hms : ms = ms' := UInt16.toNat_inj.mp (h.maxSteps.unique h'.maxSteps)
  have hrs : rs = rs' := h.stopped.trans h'.stopped.symm
  subst hp hn hst hpp hms hrs hlimit
  rfl

/-- An entry of the format raises no problem. -/
theorem errors_checkChannel {e : Value} {s : ChannelSetting} (h : Entry e s) (channel : Nat) :
    (checkChannel channel e).1 = [] := by
  have hpos : intField ((e.get "voltage").bind fun t => t.get "positive") channel "voltage.positive"
      maxLevel.toNat = (s.voltage.positive.toNat, []) :=
    intField_of_holds (by rw [← Value.atPath_pair]; exact h.positive) channel _
  have hneg : intField ((e.get "voltage").bind fun t => t.get "negative") channel "voltage.negative"
      maxLevel.toNat = (s.voltage.negative.toNat, []) :=
    intField_of_holds (by rw [← Value.atPath_pair]; exact h.negative) channel _
  have hstep : intField ((e.get "delta").bind fun t => t.get "step") channel "delta.step" 65535 =
      (s.delta.step.toNat, []) :=
    intField_of_holds (by rw [← Value.atPath_pair]; exact h.step) channel _
  have hper : intField ((e.get "delta").bind fun t => t.get "pulses_per_step") channel
      "delta.pulses_per_step" 65535 = (s.delta.pulsesPerStep.toNat, []) :=
    intField_of_holds (by rw [← Value.atPath_pair]; exact h.pulsesPerStep) channel _
  have hsteps : intField ((e.get "delta").bind fun t => t.get "max_steps") channel "delta.max_steps"
      maxRampSteps.toNat = (s.delta.maxSteps.toNat, []) :=
    intField_of_holds (by rw [← Value.atPath_pair]; exact h.maxSteps) channel _
  have htimes : timesField (e.get "times") channel = (s.times.toList.map UInt16.toNat, []) := by
    have hmap : s.times.toList.map (fun t => Value.integer (t.toNat : Int)) =
        (s.times.toList.map UInt16.toNat).map fun n : Nat => Value.integer (n : Int) := by
      rw [List.map_map]; rfl
    rw [h.times, hmap]
    exact timesField_of_holds (by simp [PhaseTimes.toList])
      (fun n hn => by
        obtain ⟨t, -, rfl⟩ := List.mem_map.mp hn
        exact Nat.le_of_lt_succ t.toNat_lt) channel
  unfold checkChannel
  rw [if_neg (by simp [h.table])]
  dsimp only
  rw [hpos, hneg, htimes, hstep, hper, hsteps]
  rcases h.pulseLimit with ⟨hnone, -⟩ | hl
  · rw [hnone]; rfl
  · rw [hl.1]
    dsimp only
    rw [intField_of_holds ⟨rfl, hl.2⟩]
    rfl

/-- **The check is sound**: an entry that raises no problem is a table of the format, and the check
keeps the defaults it stands for. -/
theorem entry_of_checkChannel {channel : Nat} {e : Value} (h : (checkChannel channel e).1 = []) :
    ∃ s, (checkChannel channel e).2 = some s ∧ Entry e s := by
  have ht : e.isTable = true := by
    cases hte : e.isTable
    · unfold checkChannel at h
      rw [if_pos (by simp [hte])] at h
      cases h
    · rfl
  unfold checkChannel at h ⊢
  rw [if_neg (by simp [ht])] at h ⊢
  dsimp only at h ⊢
  simp only [h, List.isEmpty_nil, if_true]
  simp only [List.append_eq_nil_iff] at h
  obtain ⟨⟨⟨⟨⟨⟨hpos, hneg⟩, htimes⟩, hstep⟩, hper⟩, hsteps⟩, hlimit⟩ := h
  refine ⟨_, rfl, ?_⟩
  have hp := holds_intField hpos
  have hn := holds_intField hneg
  have hs := holds_intField hstep
  have hk := holds_intField hper
  have hm := holds_intField hsteps
  obtain ⟨hlen, hle, hv⟩ := holds_timesField htimes
  refine
    { table := ht
      positive := by rw [Value.atPath_pair, holds_toNat8 (by decide) hp]; exact hp
      negative := by rw [Value.atPath_pair, holds_toNat8 (by decide) hn]; exact hn
      times := ?_
      step := by rw [Value.atPath_pair, holds_toNat16 (by decide) hs]; exact hs
      pulsesPerStep := by rw [Value.atPath_pair, holds_toNat16 (by decide) hk]; exact hk
      maxSteps := by rw [Value.atPath_pair, holds_toNat16 (by decide) hm]; exact hm
      pulseLimit := ?_
      stopped := rfl }
  · -- five times, each read back from its word
    generalize (timesField (e.get "times") channel).1 = ts at hlen hle hv ⊢
    rcases ts with _ | ⟨a, _ | ⟨b, _ | ⟨c, _ | ⟨d, _ | ⟨f, _ | ⟨g, rest⟩⟩⟩⟩⟩⟩ <;> simp at hlen
    have hsmall : ∀ n ∈ [a, b, c, d, f], (UInt16.ofNat n).toNat = n := fun n hn => by
      rw [UInt16.toNat_ofNat']
      exact Nat.mod_eq_of_lt (by have := hle n hn; omega)
    rw [hv]
    simp only [PhaseTimes.toList, List.getD_cons_zero, List.getD_cons_succ, List.map_cons,
      List.map_nil, hsmall a (by simp), hsmall b (by simp), hsmall c (by simp), hsmall d (by simp),
      hsmall f (by simp)]
  · -- an absent pulse limit reads as 0
    cases hl : e.get "pulse_limit" with
    | none =>
      exact .inl ⟨rfl, rfl⟩
    | some v =>
      right
      simp only [hl] at hlimit ⊢
      have hv := holds_intField hlimit
      rw [holds_toNat16 (by decide) hv]
      exact hv

/-- **The check is complete**: an entry of the format passes with the defaults it stands for. -/
theorem checkChannel_of_entry {e : Value} {s : ChannelSetting} (h : Entry e s) (channel : Nat) :
    checkChannel channel e = ([], some s) := by
  have herr := errors_checkChannel h channel
  obtain ⟨s', hs', h'⟩ := entry_of_checkChannel herr
  exact Prod.ext herr (hs'.trans (congrArg some (h'.unique h)))

/-- A configuration file of the format, with the defaults it stands for: `channel` holds an array
of one to four entries, each standing for the defaults beside it, in order. -/
def Accepts (doc : Value) (defaults : List ChannelSetting) : Prop :=
  ∃ entries, doc.get "channel" = some (.array entries) ∧ 1 ≤ entries.length ∧
    entries.length ≤ maxChannels ∧ List.Forall₂ Entry entries defaults

/-- Entries of the format, numbered from any index, all pass with their defaults. -/
theorem map_checkChannel_of_entries {entries : List Value} {defaults : List ChannelSetting}
    (h : List.Forall₂ Entry entries defaults) (k : Nat) :
    (entries.zipIdx k).map (fun p => checkChannel p.2 p.1) =
      defaults.map fun s => ([], some s) := by
  induction h generalizing k with
  | nil => rfl
  | cons he _ ih =>
    rw [List.zipIdx_cons, List.map_cons, List.map_cons, checkChannel_of_entry he, ih]

/-- When no entry raises a problem, every entry is of the format and the kept defaults are theirs,
in order. -/
theorem entries_of_map_checkChannel {entries : List Value} (k : Nat)
    (h : ((entries.zipIdx k).map fun p => checkChannel p.2 p.1).flatMap (·.1) = []) :
    List.Forall₂ Entry entries
      (((entries.zipIdx k).map fun p => checkChannel p.2 p.1).filterMap (·.2)) := by
  induction entries generalizing k with
  | nil => exact .nil
  | cons e rest ih =>
    rw [List.zipIdx_cons, List.map_cons, List.flatMap_cons, List.append_eq_nil_iff] at h
    obtain ⟨s, hs, he⟩ := entry_of_checkChannel h.1
    rw [List.zipIdx_cons, List.map_cons, List.filterMap_cons, hs]
    exact .cons he (ih _ h.2)

/-- A file of the format passes with no problem and yields its defaults. -/
theorem validate_of_accepts {doc : Value} {defaults : List ChannelSetting}
    (h : Accepts doc defaults) : validate doc = ⟨[], defaults⟩ := by
  obtain ⟨entries, hget, hlo, hhi, hall⟩ := h
  unfold validate
  rw [hget]
  dsimp only
  -- one to four entries raise no count error
  have hcount : (entries.isEmpty || decide (maxChannels < entries.length)) = false := by
    cases entries with
    | nil => simp at hlo
    | cons e rest => simpa using hhi
  rw [hcount, map_checkChannel_of_entries hall 0]
  simp [List.filterMap_map]

/-- A file that passes with no problem is of the format, and stands for the defaults it yields. -/
theorem accepts_of_validate {doc : Value} (h : (validate doc).errors = []) :
    Accepts doc (validate doc).channels := by
  unfold validate at h ⊢
  cases hget : doc.get "channel" with
  | none => rw [hget] at h; cases h
  | some v =>
    cases v with
    | array entries =>
      rw [hget] at h
      dsimp only at h ⊢
      obtain ⟨hcount, hchecked⟩ := List.append_eq_nil_iff.mp h
      have hsize : entries ≠ [] ∧ entries.length ≤ maxChannels := by
        split at hcount
        · cases hcount
        · next hfits => simpa using hfits
      refine ⟨entries, hget, List.length_pos_iff.mpr hsize.1, hsize.2,
        entries_of_map_checkChannel 0 hchecked⟩
    | _ => rw [hget] at h; cases h

/-- **The validator decides the file format.** A parsed configuration file passes with no problem
exactly when its `channel` key holds an array of one to four entries, each a table whose amplitudes
are integers in `0 … 50`, whose five phase times, ramp step and pulses per step are integers in
`0 … 65535`, whose ramp has an integer count of at most 10 steps, and whose pulse limit is absent or
an integer in `0 … 65535`. The defaults it then yields are one per entry, in order, with exactly
those integers and a pulse limit of 0 where it is absent. -/
theorem validate_accepts_exactly (doc : Value) :
    ((validate doc).errors = [] ↔ ∃ defaults, Accepts doc defaults) ∧
      ∀ defaults, Accepts doc defaults → (validate doc).channels = defaults := by
  refine ⟨⟨fun h => ⟨_, accepts_of_validate h⟩, ?_⟩, ?_⟩
  · rintro ⟨defaults, h⟩
    rw [validate_of_accepts h]
  · intro defaults h
    rw [validate_of_accepts h]

/-- The firmware's two channels, the second with its pulse limit left out: the file is of the
format, passes, and yields the two settings. -/
theorem validate_accepts_two_channels :
    let first : Value := .table
      [("voltage", .table [("positive", .integer 25), ("negative", .integer 10)]),
       ("times", .array [.integer 50000, .integer 100, .integer 10, .integer 200, .integer 10000]),
       ("delta", .table [("step", .integer 100), ("pulses_per_step", .integer 50000),
         ("max_steps", .integer 4)]),
       ("pulse_limit", .integer 0)]
    let second : Value := .table
      [("voltage", .table [("positive", .integer 25), ("negative", .integer 10)]),
       ("times", .array [.integer 50000, .integer 100, .integer 10, .integer 200, .integer 12000]),
       ("delta", .table [("step", .integer 0), ("pulses_per_step", .integer 50000),
         ("max_steps", .integer 4)])]
    let doc : Value := .table [("channel", .array [first, second])]
    let defaults : List ChannelSetting :=
      [{ voltage := ⟨25, 10⟩, times := ⟨50000, 100, 10, 200, 10000⟩, delta := ⟨100, 50000, 4⟩ },
       { voltage := ⟨25, 10⟩, times := ⟨50000, 100, 10, 200, 12000⟩, delta := ⟨0, 50000, 4⟩ }]
    Accepts doc defaults ∧ (validate doc).errors = [] ∧ (validate doc).channels = defaults := by
  intro first second doc defaults
  have hfirst : Entry first defaults[0] :=
    ⟨rfl, ⟨rfl, by decide⟩, ⟨rfl, by decide⟩, rfl, ⟨rfl, by decide⟩, ⟨rfl, by decide⟩,
      ⟨rfl, by decide⟩, .inr ⟨rfl, by decide⟩, rfl⟩
  have hsecond : Entry second defaults[1] :=
    ⟨rfl, ⟨rfl, by decide⟩, ⟨rfl, by decide⟩, rfl, ⟨rfl, by decide⟩, ⟨rfl, by decide⟩,
      ⟨rfl, by decide⟩, .inl ⟨rfl, rfl⟩, rfl⟩
  have hdoc : Accepts doc defaults :=
    ⟨[first, second], rfl, by decide, by decide, .cons hfirst (.cons hsecond .nil)⟩
  exact ⟨hdoc, (validate_accepts_exactly doc).1.2 ⟨defaults, hdoc⟩,
    (validate_accepts_exactly doc).2 defaults hdoc⟩

end ChannelFile

end Stimulator
