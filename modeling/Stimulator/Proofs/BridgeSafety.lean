import Stimulator.Proofs.Wires
import Stimulator.Board.Machine
import Mathlib.Data.List.Nodup

/-!
# The bridges never drive against their direction

Replaying a signal trace from some pin levels gives the level of every pin at every point of it
(`Signal.levels`). A bridge is *released* when both its enables are low, and *polarized* when it
drives its load only with both direction pins at one level; since a pin write moves one pin, a
bridge that stays polarized never changes its direction while an enable is high.

When every pin of the stage has one owner (`Stage.Wired`), a pulse moves only its own channel's
pins, and on its own bridge sets the direction before raising the enables and lowers them before
the next phase. So:

* `Stage.Wired.keeps_pulseSignals` : any pulse keeps every bridge (`BridgePins.Keeps`): from
  levels at which the bridge is released, it stays polarized at every point and ends released;
* `Stage.released_initSignals` : the stage's set-up releases every bridge, whatever the pins'
  levels before;
* `Stage.Reaches.safe` : from the set-up on, through passes of any engine over any settings and
  whatever happens beside the stage in between, every bridge is released at every pass boundary
  and polarized at every point of the record;
* `pulse_signals_and_bridge_safety` : the trace of a pulse and of a pass, the pins a pulse writes,
  and the safety of every run, together.
-/

namespace Stimulator

variable {π : Type}

namespace BridgePins

/-- The bridge's load is disconnected: both enables low. -/
def Released (p : BridgePins π) (lv : π → Bool) : Prop :=
  lv p.enableA = false ∧ lv p.enableB = false

/-- The bridge drives its load only with both direction pins at one level. -/
def Polarized (p : BridgePins π) (lv : π → Bool) : Prop :=
  lv p.enableA = true ∨ lv p.enableB = true → lv p.directionA = lv p.directionB

theorem Released.polarized {p : BridgePins π} {lv : π → Bool} (h : p.Released lv) :
    p.Polarized lv := by
  rintro (he | he) <;> simp [h.1, h.2] at he

theorem Released.of_pins {p : BridgePins π} {lv lv' : π → Bool} (h : p.Released lv)
    (hpins : ∀ q ∈ p.pins, lv' q = lv q) : p.Released lv' := by
  simp only [pins, List.mem_cons, List.not_mem_nil, or_false, forall_eq_or_imp, forall_eq] at hpins
  exact ⟨hpins.1.trans h.1, hpins.2.1.trans h.2⟩

end BridgePins

namespace Stage

/-- Every pin of the stage has one owner: the digipots' chip selects and the pins of all bridges
are distinct. -/
def Wired (st : Stage π) : Prop := (st.digipots ++ st.bridges.flatMap BridgePins.pins).Nodup

instance [DecidableEq π] (st : Stage π) : Decidable st.Wired :=
  inferInstanceAs (Decidable (List.Nodup _))

/-- Every bridge of the stage is released. -/
def Released (st : Stage π) (lv : π → Bool) : Prop := ∀ p ∈ st.bridges, p.Released lv

/-- Every bridge of the stage is polarized. -/
def Polarized (st : Stage π) (lv : π → Bool) : Prop := ∀ p ∈ st.bridges, p.Polarized lv

section Wired

variable {st : Stage π} (hw : st.Wired)
include hw

theorem Wired.nodup_pins {p : BridgePins π} (hp : p ∈ st.bridges) : p.pins.Nodup :=
  (List.nodup_flatMap.mp (List.nodup_append.mp hw).2.1).1 p hp

theorem Wired.select_not_mem {cs : π} (hcs : cs ∈ st.digipots) {p : BridgePins π}
    (hp : p ∈ st.bridges) : cs ∉ p.pins :=
  fun h => (List.nodup_append.mp hw).2.2 cs hcs cs (List.mem_flatMap_of_mem hp h) rfl

/-- Two channels' bridges share no pin. -/
theorem Wired.bridges_apart {c d : Nat} {p p' : BridgePins π} (hc : st.bridges[c]? = some p)
    (hd : st.bridges[d]? = some p') (hcd : d ≠ c) : ∀ q ∈ p.pins, q ∉ p'.pins := by
  have hpair :=
    List.pairwise_iff_getElem.mp (List.nodup_flatMap.mp (List.nodup_append.mp hw).2.1).2
  obtain ⟨hcl, rfl⟩ := List.getElem?_eq_some_iff.mp hc
  obtain ⟨hdl, rfl⟩ := List.getElem?_eq_some_iff.mp hd
  intro q hq hq'
  rcases Nat.lt_or_gt_of_ne hcd with hlt | hlt
  · exact hpair d c hdl hcl hlt hq' hq
  · exact hpair c d hcl hdl hlt hq hq'

/-- **A pulse writes no pin of another channel's bridge.** -/
theorem Wired.untouched {c d : Nat} {p : BridgePins π} (hc : st.bridges[c]? = some p)
    (hcd : d ≠ c) (s : ChannelSetting) :
    ∀ q ∈ p.pins, q ∉ Signal.written (pulseSignals st d s) := by
  intro q hq hwr
  have hown := written_pulseSignals st d s hwr
  simp only [channelPins, List.mem_append, Option.mem_toList, List.mem_flatMap] at hown
  rcases hown with hcs | ⟨p', hp', hq'⟩
  · exact hw.select_not_mem (List.mem_of_getElem? hcs) (List.mem_of_getElem? hc) hq
  · exact hw.bridges_apart hc hp' hcd q hq hq'

end Wired

end Stage

variable [DecidableEq π]

namespace Signal

/-- The pin levels after a signal: a pin write sets its pin and no other. -/
def apply (lv : π → Bool) : Signal π → π → Bool
  | .pin q v => fun r => if r = q then v else lv r
  | .frame _ => lv
  | .wait _ => lv

/-- The pin levels after a run of signals. -/
def levels (lv : π → Bool) (xs : List (Signal π)) : π → Bool := xs.foldl apply lv

/-- `P` holds of the pin levels at every point of the signals `xs` played from `lv`: before the
first, between any two, and after the last. -/
def Throughout (P : (π → Bool) → Prop) : (π → Bool) → List (Signal π) → Prop
  | lv, [] => P lv
  | lv, x :: xs => P lv ∧ Throughout P (x.apply lv) xs

@[simp] theorem levels_nil (lv : π → Bool) : levels lv [] = lv := rfl

@[simp] theorem levels_cons (lv : π → Bool) (x : Signal π) (xs : List (Signal π)) :
    levels lv (x :: xs) = levels (x.apply lv) xs := rfl

theorem levels_append (lv : π → Bool) (xs ys : List (Signal π)) :
    levels lv (xs ++ ys) = levels (levels lv xs) ys :=
  List.foldl_append

theorem apply_of_not_written {x : Signal π} {q : π} (h : q ∉ written [x]) (lv : π → Bool) :
    x.apply lv q = lv q := by
  cases x with
  | pin r v =>
    simp only [written_cons_pin, written_nil, List.mem_singleton] at h
    simp [apply, h]
  | frame bytes => rfl
  | wait ticks => rfl

theorem levels_of_not_written {xs : List (Signal π)} {q : π} (h : q ∉ written xs)
    (lv : π → Bool) : levels lv xs q = lv q := by
  induction xs generalizing lv with
  | nil => rfl
  | cons x xs ih =>
    rw [written_cons, List.mem_append, not_or] at h
    rw [levels_cons, ih h.2, apply_of_not_written h.1]

/-- After a run of pins is driven low, each of them is low. -/
theorem levels_map_low {qs : List π} {q : π} (hq : q ∈ qs) (lv : π → Bool) :
    levels lv (qs.map fun r => .pin r false) q = false := by
  induction qs generalizing lv with
  | nil => cases hq
  | cons r qs ih =>
    rw [List.map_cons, levels_cons]
    by_cases hmem : q ∈ qs
    · exact ih hmem _
    · have hqr : q = r := by simpa [hmem] using hq
      rw [levels_of_not_written (by simpa using hmem)]
      simp [apply, hqr]

theorem Throughout.first {P : (π → Bool) → Prop} {lv : π → Bool} {xs : List (Signal π)}
    (h : Throughout P lv xs) : P lv := by
  cases xs with
  | nil => exact h
  | cons x xs => exact h.1

theorem throughout_append {P : (π → Bool) → Prop} {lv : π → Bool}
    {xs ys : List (Signal π)} :
    Throughout P lv (xs ++ ys) ↔ Throughout P lv xs ∧ Throughout P (levels lv xs) ys := by
  induction xs generalizing lv with
  | nil => exact ⟨fun h => ⟨h.first, h⟩, fun h => h.2⟩
  | cons x xs ih =>
    simp only [List.cons_append, Throughout, levels_cons, ih, and_assoc]

/-- What holds throughout a run holds at the end of each of its prefixes. -/
theorem Throughout.upTo {P : (π → Bool) → Prop} {lv : π → Bool} {xs : List (Signal π)}
    (h : Throughout P lv xs) {pre : List (Signal π)} (hpre : pre <+: xs) : P (levels lv pre) := by
  induction xs generalizing lv pre with
  | nil =>
    rw [List.prefix_nil.mp hpre]
    exact h
  | cons x xs ih =>
    rcases List.prefix_cons_iff.mp hpre with rfl | ⟨t, rfl, ht⟩
    · exact h.1
    · exact ih h.2 ht

end Signal

open Signal

namespace BridgePins

/-- From any pin levels at which the bridge is released, the signals keep it polarized at every
point and leave it released. -/
def Keeps (p : BridgePins π) (xs : List (Signal π)) : Prop :=
  ∀ lv, p.Released lv → Throughout p.Polarized lv xs ∧ p.Released (levels lv xs)

theorem keeps_nil (p : BridgePins π) : p.Keeps [] :=
  fun _ hr => ⟨hr.polarized, hr⟩

theorem Keeps.append {p : BridgePins π} {xs ys : List (Signal π)} (hxs : p.Keeps xs)
    (hys : p.Keeps ys) : p.Keeps (xs ++ ys) := by
  intro lv hr
  obtain ⟨hthrough, hend⟩ := hxs lv hr
  obtain ⟨hthrough', hend'⟩ := hys _ hend
  exact ⟨throughout_append.mpr ⟨hthrough, hthrough'⟩, by rw [levels_append]; exact hend'⟩

theorem Keeps.flatMap {β : Type} {p : BridgePins π} {f : β → List (Signal π)} {l : List β}
    (h : ∀ y ∈ l, p.Keeps (f y)) : p.Keeps (l.flatMap f) := by
  induction l with
  | nil => exact keeps_nil p
  | cons y l ih =>
    rw [List.flatMap_cons]
    exact (h y List.mem_cons_self).append (ih fun y' hy' => h y' (List.mem_cons_of_mem y hy'))

theorem keeps_of_untouched {p : BridgePins π} {xs : List (Signal π)}
    (h : ∀ q ∈ p.pins, q ∉ written xs) : p.Keeps xs := by
  induction xs with
  | nil => exact keeps_nil p
  | cons x xs ih =>
    rw [written_cons] at h
    simp only [List.mem_append, not_or] at h
    intro lv hr
    have hr' : p.Released (x.apply lv) :=
      hr.of_pins fun q hq => apply_of_not_written (h q hq).1 lv
    obtain ⟨hthrough, hend⟩ := ih (fun q hq => (h q hq).2) _ hr'
    exact ⟨⟨hr.polarized, hthrough⟩, hend⟩

/-- **A phase on a bridge with four distinct pins keeps it**: the direction is set while the load
is disconnected, the enables rise on one direction level, and both fall before the end. -/
theorem keeps_phaseSignals {p : BridgePins π} (hn : p.pins.Nodup) (high : Bool) (ticks : UInt16) :
    p.Keeps (Stage.phaseSignals (some p) high ticks) := by
  simp only [pins, List.nodup_cons, List.mem_cons, List.not_mem_nil, or_false, not_or,
    List.nodup_nil, not_false_eq_true, and_true] at hn
  obtain ⟨⟨hab, hadA, hadB⟩, ⟨hbdA, hbdB⟩, hdd⟩ := hn
  rintro lv ⟨ha, hb⟩
  simp [Throughout, Released, Polarized, Stage.phaseSignals, Stage.driveSignals,
    Stage.releaseSignals, apply, hab, hadA, hadB, hbdA, hbdB, hdd, Ne.symm hab, Ne.symm hadA,
    Ne.symm hadB, Ne.symm hbdA, Ne.symm hbdB, Ne.symm hdd, ha, hb]

end BridgePins

namespace Stage

section Wired

variable {st : Stage π} (hw : st.Wired)
include hw

/-- **Every pulse keeps every bridge**: its own by the order of its phases, the others because
it does not touch them. -/
theorem Wired.keeps_pulseSignals {c : Nat} {p : BridgePins π} (hc : st.bridges[c]? = some p)
    (d : Nat) (s : ChannelSetting) : p.Keeps (pulseSignals st d s) := by
  by_cases hcd : d = c
  · subst hcd
    have hp := List.mem_of_getElem? hc
    -- the frames on the channel's digipot do not touch its bridge
    have hamp : ∀ level, p.Keeps (amplitudeSignals st d level) := fun level =>
      BridgePins.keeps_of_untouched fun q hq hwr => by
        have hcs := written_amplitudeSignals st d level hwr
        exact hw.select_not_mem (List.mem_of_getElem? (Option.mem_toList.mp hcs)) hp hq
    have hphase : ∀ high ticks, p.Keeps (phaseSignals st.bridges[d]? high ticks) := by
      intro high ticks
      rw [hc]
      exact BridgePins.keeps_phaseSignals (hw.nodup_pins hp) high ticks
    have hwait : ∀ ticks, p.Keeps [.wait ticks] := fun ticks =>
      BridgePins.keeps_of_untouched fun q _ => by simp
    unfold pulseSignals
    refine (((hamp _).append (hphase _ _)).append ?_).append (hamp _) |>.append ?_
    · split_ifs
      · exact hwait _
      · exact BridgePins.keeps_nil p
    · split_ifs
      · exact hphase _ _
      · exact BridgePins.keeps_nil p
  · exact BridgePins.keeps_of_untouched (hw.untouched hc hcd s)

theorem Wired.keeps_pulsesSignals {c : Nat} {p : BridgePins π} (hc : st.bridges[c]? = some p)
    (ps : List (Nat × ChannelSetting)) : p.Keeps (pulsesSignals st ps) :=
  BridgePins.Keeps.flatMap fun x _ => hw.keeps_pulseSignals hc x.1 x.2

end Wired

/-- Driving every pin of every bridge low, bridge after bridge, releases them all when no two
bridges share a pin. -/
theorem released_lowered {l : List (BridgePins π)} (h : (l.flatMap BridgePins.pins).Nodup)
    (lv : π → Bool) :
    ∀ p ∈ l, p.Released (levels lv (l.flatMap fun p => p.pins.map fun q => .pin q false)) := by
  induction l generalizing lv with
  | nil => intro p hp; cases hp
  | cons p l ih =>
    rw [List.flatMap_cons] at h
    obtain ⟨-, hl, hapart⟩ := List.nodup_append.mp h
    intro q hq
    rw [List.flatMap_cons, levels_append]
    rcases List.mem_cons.mp hq with rfl | hq
    · -- the bridges after `q` do not write its pins, so they stay as `q`'s own writes left them
      have hlater : ∀ r ∈ q.pins,
          r ∉ written (l.flatMap fun p => p.pins.map fun q => .pin q false) := by
        intro r hr hr'
        simp only [written_flatMap, written_map_pin] at hr'
        exact hapart r hr r hr' rfl
      have hlow : ∀ r ∈ q.pins, levels (levels lv (q.pins.map fun r => .pin r false))
          (l.flatMap fun p => p.pins.map fun q => .pin q false) r = false := fun r hr => by
        rw [levels_of_not_written (hlater r hr), levels_map_low hr]
      exact ⟨hlow _ (by simp [BridgePins.pins]), hlow _ (by simp [BridgePins.pins])⟩
    · exact ih hl _ q hq

/-- **The set-up releases every bridge**, whatever the pins' levels before. -/
theorem released_initSignals {st : Stage π} (hw : st.Wired) (lv : π → Bool) :
    st.Released (levels lv (initSignals st)) := by
  rw [initSignals, levels_append]
  exact released_lowered (List.nodup_append.mp hw).2.1 _

variable {σ : Type}

/-- The worlds of a stage set up on a recorded bus: the set-up from an empty record, then passes
of any engine over any settings, with the world beside the stage moved in between (time passing,
the terminal at work) and the stage's pins left alone. -/
inductive Reaches (bus : Bus σ π) (now : σ → UInt16) (delay : UInt16 → σ → σ) (st : Stage π) :
    Stage π × (σ × List (Signal π)) → Prop
  | setUp (w : σ) : Reaches bus now delay st (st, init bus.recorded st (w, []))
  | pass (e : Engine) (b : Bank) {x : Stage π × (σ × List (Signal π))} :
      Reaches bus now delay st x →
        Reaches bus now delay st (Engine.service (recordedRig bus now delay) e b x).world
  | idle (g : σ → σ) {x : Stage π × (σ × List (Signal π))} :
      Reaches bus now delay st x → Reaches bus now delay st (x.1, (g x.2.1, x.2.2))

variable {bus : Bus σ π} {now : σ → UInt16} {delay : UInt16 → σ → σ} {st : Stage π}

/-- What every reached world satisfies: the stage has its pins, and after the set-up the record
holds signals that keep every bridge. -/
theorem Reaches.keeps (hw : st.Wired) {x : Stage π × (σ × List (Signal π))}
    (hx : Reaches bus now delay st x) :
    x.1.digipots = st.digipots ∧ x.1.bridges = st.bridges ∧
      ∃ ws, x.2.2 = initSignals st ++ ws ∧ ∀ p ∈ st.bridges, p.Keeps ws := by
  induction hx with
  | setUp w =>
    refine ⟨rfl, rfl, [], ?_, fun p _ => BridgePins.keeps_nil p⟩
    rw [init_recorded, List.nil_append, List.append_nil]
  | pass e b hx ih =>
    obtain ⟨hd, hb, ws, hlog, hkeeps⟩ := ih
    rename_i x
    obtain ⟨st', w, log⟩ := x
    obtain ⟨hd', hb'⟩ := service_pins bus now delay e b st' w
    -- the pass pulses on the stage it finds, which has the set-up's pins
    have hsame : pulsesSignals st' (Engine.pulses e b) = pulsesSignals st (Engine.pulses e b) := by
      simp only [pulsesSignals, pulseSignals_of_pins hd hb]
    rw [service_recorded]
    refine ⟨hd'.trans hd, hb'.trans hb, ws ++ pulsesSignals st (Engine.pulses e b), ?_, ?_⟩
    · simp only [hsame, ← List.append_assoc, ← hlog]
    · intro p hp
      obtain ⟨c, hc⟩ := List.mem_iff_getElem?.mp hp
      exact (hkeeps p hp).append (hw.keeps_pulsesSignals hc _)
  | idle g hx ih => exact ih

/-- **From the set-up on, every bridge is safe.** Whatever the pins' levels before the set-up, at
every point of the record after it every bridge drives its load only with both direction pins at
one level, and at the end of the set-up and of every pass every bridge is released. -/
theorem Reaches.safe (hw : st.Wired) {x : Stage π × (σ × List (Signal π))}
    (hx : Reaches bus now delay st x) (lv : π → Bool) :
    st.Released (levels lv x.2.2) ∧
      ∀ pre, initSignals st <+: pre → pre <+: x.2.2 → st.Polarized (levels lv pre) := by
  obtain ⟨-, -, ws, hlog, hkeeps⟩ := hx.keeps hw
  have hrun : ∀ p ∈ st.bridges, Throughout p.Polarized (levels lv (initSignals st)) ws ∧
      p.Released (levels lv x.2.2) := fun p hp => by
    rw [hlog, levels_append]
    exact hkeeps p hp _ (released_initSignals hw lv p hp)
  refine ⟨fun p hp => (hrun p hp).2, ?_⟩
  rintro pre ⟨mid, rfl⟩ hpre p hp
  rw [hlog, List.prefix_append_right_inj] at hpre
  rw [levels_append]
  exact (hrun p hp).1.upTo hpre

end Stage

/-- **What a pulse does on the wires, and why no bridge ever drives against its direction.** On
any bus, failing or not, and with any setting: a pulse on channel `c`, whose bridge is `p`,
records the amplitude frame on the channel's digipot, the positive phase (direction pins low,
enables high, the wait, enables low), the interphase wait when T2 is not zero, the negative
amplitude frame, and the negative phase (direction pins high) when T3 is not zero; a pass records
the pulses of its channels, in channel order; a pulse writes only its own channel's pins, so none
of another channel's bridge when every pin has one owner; and from the set-up on, every bridge is
released at the end of every pass and drives its load only with both direction pins at one
level. -/
theorem pulse_signals_and_bridge_safety {σ π : Type} [DecidableEq π] :
    (∀ (bus : Bus σ π) (now : σ → UInt16) (delay : UInt16 → σ → σ) (st : Stage π) (w : σ)
        (log : List (Signal π)) (c : Nat) (s : ChannelSetting) (p : BridgePins π),
      st.bridges[c]? = some p →
      (Engine.emitPulse (Stage.recordedRig bus now delay) c s (st, (w, log))).2.2 =
        log ++ (Stage.amplitudeSignals st c s.voltage.positive ++
          [.pin p.directionA false, .pin p.directionB false, .pin p.enableA true,
            .pin p.enableB true, .wait s.times.positive, .pin p.enableA false,
            .pin p.enableB false] ++
          (if 0 < s.times.interphase then [.wait s.times.interphase] else []) ++
          Stage.amplitudeSignals st c s.voltage.negative ++
          (if 0 < s.times.negative then
            [.pin p.directionA true, .pin p.directionB true, .pin p.enableA true,
              .pin p.enableB true, .wait s.times.negative, .pin p.enableA false,
              .pin p.enableB false]
          else []))) ∧
    (∀ (bus : Bus σ π) (now : σ → UInt16) (delay : UInt16 → σ → σ) (e : Engine) (b : Bank)
        (st : Stage π) (w : σ) (log : List (Signal π)),
      (Engine.service (Stage.recordedRig bus now delay) e b (st, (w, log))).world.2.2 =
        log ++ Stage.pulsesSignals st (Engine.pulses e b)) ∧
    (∀ (st : Stage π) (c : Nat) (s : ChannelSetting),
      Signal.written (Stage.pulseSignals st c s) ⊆ Stage.channelPins st c) ∧
    (∀ (st : Stage π) (c d : Nat) (p : BridgePins π) (s : ChannelSetting), st.Wired →
      st.bridges[c]? = some p → d ≠ c →
        ∀ q ∈ p.pins, q ∉ Signal.written (Stage.pulseSignals st d s)) ∧
    (∀ (bus : Bus σ π) (now : σ → UInt16) (delay : UInt16 → σ → σ) (st : Stage π)
        (x : Stage π × (σ × List (Signal π))) (lv : π → Bool),
      st.Wired → Stage.Reaches bus now delay st x →
        st.Released (Signal.levels lv x.2.2) ∧
        ∀ pre, Stage.initSignals st <+: pre → pre <+: x.2.2 →
          st.Polarized (Signal.levels lv pre)) := by
  refine ⟨?pulse, ?pass, fun st c s => Stage.written_pulseSignals st c s,
    fun st c d p s hw hc hcd => hw.untouched hc hcd s, fun _ _ _ _ _ lv hw hx => hx.safe hw lv⟩
  case pulse =>
    intro bus now delay st w log c s p hc
    rw [Stage.emitPulse_recorded]
    simp [Stage.pulseSignals, Stage.phaseSignals, Stage.driveSignals, Stage.releaseSignals, hc]
  case pass =>
    intro bus now delay e b st w log
    rw [Stage.service_recorded]

/-- On the board's stage, with a bus whose every write fails and a positive level above the
range: channel 1 pulses on digipot 17 and bridge 6 to 9, and the set-up releases both bridges. -/
theorem pulse_signals_on_board :
    let bus : Bus Unit Nat := ⟨fun _ _ w => w, fun _ _ => false, fun _ w => (false, w)⟩
    let s : ChannelSetting := { voltage := ⟨60, 3⟩, times := { interphase := 0 } }
    Board.boardStage.bridges[1]? = some ⟨6, 7, 8, 9⟩ ∧ Board.boardStage.Wired ∧
      (Engine.emitPulse (Stage.recordedRig bus (fun _ => 0) (fun _ w => w)) 1 s
          (Board.boardStage, ((), []))).2.2 =
        [.pin 17 false, .frame [0x12, 255], .pin 17 true, .pin 8 false, .pin 9 false, .pin 6 true,
          .pin 7 true, .wait 100, .pin 6 false, .pin 7 false, .pin 17 false, .frame [0x12, 15],
          .pin 17 true, .pin 8 true, .pin 9 true, .pin 6 true, .pin 7 true, .wait 200,
          .pin 6 false, .pin 7 false] ∧
      Board.boardStage.Released
        (Signal.levels (fun _ => true) (Stage.init bus.recorded Board.boardStage ((), [])).2) := by
  intro bus s
  have hc : Board.boardStage.bridges[1]? = some ⟨6, 7, 8, 9⟩ := rfl
  have hw : Board.boardStage.Wired := by decide
  refine ⟨hc, hw, ?_, ?_⟩
  · rw [pulse_signals_and_bridge_safety.1 bus _ _ _ () [] 1 s _ hc]
    rfl
  · exact (pulse_signals_and_bridge_safety.2.2.2.2 bus (fun _ => 0) (fun _ w => w) _ _
      (fun _ => true) hw (.setUp ())).1

end Stimulator
