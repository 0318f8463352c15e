import Stimulator.Proofs.Channel

/-!
# The pulse counters

The engine keeps three counters per channel: the pulses emitted in the run, the pulses at the
active period and the ramp steps applied. Only a reset clears them, and only a pulse adds to the
first two. This module follows one channel through any passes, on any settings, beside a record
of what the channel did since it was last idle (`Engine.Since`): the positive drives it made, the
periods its ramp reported, and the T4 it took up last, at its start or when a period began
(`Engine.BeginsPeriod`).

* `Engine.runOn` : passes one after another, each on settings and a world of its own, so any
  settings operation (a command, a load) may come between two passes;
* `Engine.sinceIdle` : the record along such passes, cleared whenever a pass leaves the channel
  idle;
* `Engine.service_untouched` : a pass leaves a channel that its bank lacks as it was;
* `Engine.inv_runOn` : a property of a channel's runtime and record that every decision keeps
  holds after any passes;
* `Runtime.Counts` : the counters against the record, kept by every decision
  (`Engine.counts_step`);
* `Engine.pulse_counters_from_new` : the whole statement, from `Engine.new`.
-/

namespace Stimulator

variable {σ : Type}

/-- The period an event reports, if it reports one. -/
def Event.period? : Event → Option UInt16
  | .started => none
  | .running => none
  | .periodChanged p => some p
  | .completed _ => none
  | .stopped => none

namespace Engine

/-- The periods reported among a channel's events, in order. -/
def periodsOf (events : List Event) : List UInt16 := events.filterMap Event.period?

/-- What a channel did since it was last idle: the positive drives it made, the periods its ramp
reported with the drives made by then, and the period T4 it last took up, at its start or at a
period boundary below the pulse limit. -/
structure Since where
  drives : Nat := 0
  changes : List (Nat × UInt16) := []
  periodRead : UInt16 := 0
  deriving DecidableEq, Repr

/-- A decision that takes runtime `r` to `r'` begins a period: it starts the channel, or moves it
from inter-wait to its next pulse. -/
def BeginsPeriod (r r' : Runtime) : Prop :=
  (r.phase = .idle ∧ r'.phase = .preWait) ∨ (r.phase = .interWait ∧ r'.phase = .pulse)

instance (r r' : Runtime) : Decidable (BeginsPeriod r r') :=
  inferInstanceAs (Decidable (_ ∨ _))

/-- The record after a decision on setting `s` that took runtime `r` to `r'`, made `drives`
positive drives and reported `events`: cleared when the channel is left idle. -/
def Since.afterStep (acc : Since) (r r' : Runtime) (s : ChannelSetting) (drives : Nat)
    (events : List Event) : Since :=
  if r'.phase = .idle then {}
  else
    { drives := acc.drives + drives
      changes := acc.changes ++ (periodsOf events).map fun p => (acc.drives + drives, p)
      periodRead := if BeginsPeriod r r' then s.times.period else acc.periodRead }

/-- A decision that leaves the runtime as it was and does nothing keeps the record of a channel
that is not idle. -/
theorem Since.afterStep_same (acc : Since) (r : Runtime) (s : ChannelSetting) :
    acc.afterStep r r s 0 [] = if r.phase = .idle then {} else acc := by
  unfold afterStep BeginsPeriod
  split
  · rfl
  · next h =>
    have hnot : ¬((r.phase = .idle ∧ r.phase = .preWait) ∨ (r.phase = .interWait ∧ r.phase = .pulse)) := by
      rintro (⟨h1, h2⟩ | ⟨h1, h2⟩) <;> rw [h1] at h2 <;> cases h2
    simp [hnot, periodsOf]

variable (rig : Rig σ)

/-- The engine after passes on `inputs` in turn, each on its own settings and world. -/
def runOn : Engine → List (Bank × σ) → Engine
  | e, [] => e
  | e, (b, w) :: rest => runOn (service rig e b w).engine rest

/-- Channel `c`'s record after one pass, as a recorder logs its calls. -/
def Since.next (c : Nat) (e : Engine) (b : Bank) (w : σ) (acc : Since) : Since :=
  acc.afterStep (e.runtime c) ((service rig e b w).engine.runtime c) (b.setting c)
    ((calls rig e b w).count (.drive c .positive)) (eventsFor c (service rig e b w).events)

/-- Channel `c`'s record along passes on `inputs` from engine `e`, starting from `acc`. -/
def sinceIdle (c : Nat) : Engine → List (Bank × σ) → Since → Since
  | _, [], acc => acc
  | e, (b, w) :: rest, acc => sinceIdle c (service rig e b w).engine rest (acc.next rig c e b w)

@[simp] theorem runOn_nil (e : Engine) : runOn rig e [] = e := rfl

@[simp] theorem runOn_cons (e : Engine) (b : Bank) (w : σ) (rest : List (Bank × σ)) :
    runOn rig e ((b, w) :: rest) = runOn rig (service rig e b w).engine rest := rfl

@[simp] theorem sinceIdle_nil (c : Nat) (e : Engine) (acc : Since) : sinceIdle rig c e [] acc = acc :=
  rfl

@[simp] theorem sinceIdle_cons (c : Nat) (e : Engine) (b : Bank) (w : σ) (rest : List (Bank × σ))
    (acc : Since) :
    sinceIdle rig c e ((b, w) :: rest) acc =
      sinceIdle rig c (service rig e b w).engine rest (acc.next rig c e b w) := rfl

section Untouched

variable {rig} {now : UInt16}

theorem serviceFrom_getD_of_le {channel i : Nat} {rs : List Runtime} {ss : List ChannelSetting}
    {w : σ} (h : ss.length ≤ i) : (serviceFrom rig now channel rs ss w).1.getD i {} = rs.getD i {} := by
  induction rs generalizing channel ss w i with
  | nil => cases ss <;> rfl
  | cons r rs ih =>
    cases ss with
    | nil => rfl
    | cons s ss =>
      cases i with
      | zero => simp at h
      | succ i => simpa [serviceFrom] using ih (Nat.le_of_succ_le_succ h)

theorem lt_length_of_mem_serviceFrom {channel : Nat} {rs : List Runtime} {ss : List ChannelSetting}
    {w : σ} {ev : Nat × Event} (h : ev ∈ (serviceFrom rig now channel rs ss w).2.2.2) :
    ev.1 < channel + ss.length := by
  induction rs generalizing channel ss w with
  | nil => simp [serviceFrom] at h
  | cons r rs ih =>
    cases ss with
    | nil => simp [serviceFrom] at h
    | cons s ss =>
      simp only [serviceFrom, List.mem_append] at h
      rcases h with h | h
      · cases hev : (step rig channel now r s w).event <;> simp [hev] at h
        subst h
        simp
      · have := ih h
        simp only [List.length_cons]
        omega

theorem lt_length_of_mem_callsFrom {channel : Nat} {rs : List Runtime} {ss : List ChannelSetting}
    {k : Call} (h : k ∈ callsFrom channel rs ss) : k.channel < channel + ss.length := by
  induction rs generalizing channel ss with
  | nil => simp [callsFrom] at h
  | cons r rs ih =>
    cases ss with
    | nil => simp [callsFrom] at h
    | cons s ss =>
      simp only [callsFrom, List.mem_append] at h
      rcases h with h | h
      · rw [channel_of_mem_stepCalls h]
        simp
      · have := ih h
        simp only [List.length_cons]
        omega

/-- **A pass leaves a channel that its bank lacks as it was**: the same runtime, no event and no
call. -/
theorem service_untouched (e : Engine) (b : Bank) (w : σ) {c : Nat} (hc : b.channels.length ≤ c) :
    (service rig e b w).engine.runtime c = e.runtime c ∧
      eventsFor c (service rig e b w).events = [] ∧ (calls rig e b w).count (.drive c .positive) = 0 := by
  refine ⟨serviceFrom_getD_of_le hc, ?_, ?_⟩
  · simp only [eventsFor, List.filterMap_eq_nil_iff]
    intro ev hev
    have := lt_length_of_mem_serviceFrom hev
    simp only [ite_eq_right_iff, reduceCtorEq, imp_false]
    omega
  · rw [calls_eq, List.count_eq_zero]
    intro hk
    have := lt_length_of_mem_callsFrom hk
    simp only [Call.channel] at this
    omega

end Untouched

/-- Channel `c`'s positive drives in a pass are those of its own decision. -/
theorem count_drive_calls (e : Engine) (b : Bank) (w : σ) {c : Nat} (he : c < e.runtimes.length)
    (hb : c < b.channels.length) :
    (calls rig e b w).count (.drive c .positive) =
      (stepCalls c (e.runtime c) (b.setting c)).count (.drive c .positive) := by
  rw [calls_eq, ← passCalls_channel e b he hb, List.count_filter]
  simp [Call.channel]

/-- **Runs keep what decisions keep.** Let `Inv` hold of a channel's runtime and its record when
the channel does not exist (`{}` with nothing done), let it force an empty record on an idle
channel, and let every decision on a setting that `Allowed` admits keep it. Then after passes on
settings that give channel `c` allowed settings, it holds of channel `c`. -/
theorem inv_runOn {c : Nat} (Allowed : ChannelSetting → Prop) (Inv : Runtime → Since → Prop)
    (hnone : Inv {} {}) (hidle : ∀ r acc, Inv r acc → r.phase = .idle → acc = {})
    (hstep : ∀ (now : UInt16) (w : σ) (r : Runtime) (s : ChannelSetting) (acc : Since), Allowed s →
      Inv r acc →
      Inv (step rig c now r s w).runtime
        (acc.afterStep r (step rig c now r s w).runtime s ((stepCalls c r s).count (.drive c .positive))
          (step rig c now r s w).event.toList)) :
    ∀ (inputs : List (Bank × σ)) (e : Engine) (acc : Since),
      (∀ x ∈ inputs, c < x.1.channels.length → Allowed (x.1.setting c)) → Inv (e.runtime c) acc →
      Inv ((runOn rig e inputs).runtime c) (sinceIdle rig c e inputs acc) := by
  intro inputs
  induction inputs with
  | nil => intro e acc _ h; exact h
  | cons x rest ih =>
    obtain ⟨b, w⟩ := x
    intro e acc hallowed h
    rw [runOn_cons, sinceIdle_cons]
    refine ih _ _ (fun x hx => hallowed x (List.mem_cons_of_mem _ hx)) ?_
    unfold Since.next
    by_cases he : c < e.runtimes.length
    · by_cases hb : c < b.channels.length
      · -- channel `c` makes its decision
        obtain ⟨hr, -, hev⟩ := service_decision e b w he hb
        rw [hr, hev, count_drive_calls rig e b w he hb]
        exact hstep _ _ _ _ _ (hallowed (b, w) (List.mem_cons_self ..) hb) h
      · -- the bank lacks channel `c`: it keeps its runtime and does nothing
        obtain ⟨hr, hev, hd⟩ := service_untouched e b w (Nat.le_of_not_lt hb)
        rw [hr, hev, hd, Since.afterStep_same]
        split
        · next hi => exact hidle _ _ h hi ▸ h
        · exact h
    · -- the engine lacks channel `c`: it stays idle with nothing done
      have hlen : (service rig e b w).engine.runtimes.length ≤ c := by
        rw [runtimes_length_service]
        exact Nat.le_of_not_lt he
      rw [runtime_of_length_le hlen]
      simpa [Since.afterStep] using hnone

end Engine

/-- The counters of a channel's runtime against its record since it was last idle: an idle or
pre-waiting channel has its counters clear, an idle one has done nothing since, and the pulse
count is the positive drives since then, held at the largest 32-bit value. -/
def Runtime.Counts (r : Runtime) (acc : Engine.Since) : Prop :=
  r.Settled ∧ (r.phase = .idle → acc = {}) ∧ r.pulsesEmitted.toNat = min acc.drives 4294967295

namespace Engine

variable (rig : Rig σ) (c : Nat) (now : UInt16) (s : ChannelSetting) (w : σ)

/-- **Every decision keeps the counters.** A pulse adds one to the count and one drive to the
record; every other branch changes neither, and a reset clears both. -/
theorem counts_step {r : Runtime} {acc : Since} (h : r.Counts acc) :
    (step rig c now r s w).runtime.Counts
      (acc.afterStep r (step rig c now r s w).runtime s ((stepCalls c r s).count (.drive c .positive))
        (step rig c now r s w).event.toList) := by
  obtain ⟨hset, hidle, hpe⟩ := h
  refine ⟨step_settled rig c now r s w hset, fun hi => by simp [Since.afterStep, hi], ?_⟩
  rw [count_drive_stepCalls]
  refine step_rec rig c now r s w ?inactive ?start ?clamp ?preWait ?running ?pulse ?interWait
    ?completed ?boundary
  case inactive => intro; simp [Since.afterStep, Runtime.reset]
  case start | clamp =>
    intro hp _
    have hnone : acc = {} := hidle hp
    subst hnone
    simp_all [Since.afterStep]
  case preWait | running | interWait =>
    intro _ hp
    intros
    simp [Since.afterStep, hp, hpe]
  case completed =>
    intro _ hp
    intros
    simp [Since.afterStep, hp, hpe]
  case pulse =>
    intro hact hp
    have hsat := Word.toNat_satAdd32 r.pulsesEmitted 1
    simp only [Since.afterStep, hact, hp, and_self, if_true, reduceCtorEq, if_false] at hsat ⊢
    simp only [UInt32.reduceToNat] at hsat
    omega
  case boundary =>
    intro _ hp _ hc
    simp [Since.afterStep, hp, (periodBoundary_of_not_limit hc).1, hpe]

theorem counts_none : ({} : Runtime).Counts {} := ⟨Runtime.settled_default, fun _ => rfl, rfl⟩

/-- **The pulse counters of every reachable engine.** After any passes from `Engine.new`, on any
settings and worlds, so under any settings operations between them: an idle or pre-waiting
channel has all three counters clear, and a channel's pulse count is the number of positive
drives it made since it was last idle, held at the largest 32-bit value. -/
theorem pulse_counters_from_new (n : Nat) (inputs : List (Bank × σ)) (c : Nat) :
    let r := (runOn rig (new n) inputs).runtime c
    (r.phase = .idle ∨ r.phase = .preWait →
        r.pulsesEmitted = 0 ∧ r.pulsesInPeriod = 0 ∧ r.stepsApplied = 0) ∧
      r.pulsesEmitted.toNat = min (sinceIdle rig c (new n) inputs {}).drives 4294967295 := by
  have hnew : ((new n).runtime c).Counts {} := by
    unfold runtime new
    rw [List.getD_eq_getElem?_getD, List.getElem?_replicate]
    split <;> exact counts_none
  have h := inv_runOn rig (fun _ => True) Runtime.Counts counts_none (fun _ _ h => h.2.1)
    (fun now w r s _ _ hr => counts_step rig c now s w hr) inputs (new n) {} (fun _ _ _ => trivial) hnew
  exact ⟨h.1, h.2.2⟩

end Engine

end Stimulator
