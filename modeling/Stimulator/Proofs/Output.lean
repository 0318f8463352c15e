import Stimulator.Console.Terminal

/-!
# The terminal's output, write by write

The terminal queues output without waiting for the line and counts what the transmitter does not
take. To speak of every write it makes, its link is wrapped in a recorder (`SerialLink.recorded`)
that appends each write call, with the answer, to a log beside the world.

* `WriteCall` : one write call; `WriteCall.taken`, `WriteCall.lost` : the bytes it queued and
  the bytes it dropped, as the terminal counts them;
* `Terminal.Keeps` : a property of the terminal and its world that every write keeps, every read
  keeps, and every change of the terminal that leaves its transmit counters alone keeps; then
  every operation of the terminal keeps it (`Keeps.poll`, `Keeps.banner`, ...);
* `Terminal.Run` : the runs of the terminal over a link, its own operations interleaved with moves
  of the world outside it; `Run.keeps` : a kept property holds along every run;
* `Terminal.Counted` : the transmit counters account for every recorded call, the dropped bytes and
  the failed calls, each held at the largest 32-bit value (`keeps_counted`).
-/

namespace Stimulator

variable {σ : Type}

/-- One call of the terminal on its transmitter: the bytes it asked to queue, and the answer (how
many were taken, or `none` on a fault). -/
structure WriteCall where
  bytes : List UInt8
  result : Option Nat
  deriving DecidableEq, Repr

namespace WriteCall

/-- The bytes the terminal counts as queued: the count the transmitter answered, never more than
it was given, and none on a fault. -/
def queued (c : WriteCall) : Nat := c.result.elim 0 fun n => min n c.bytes.length

/-- The bytes queued, in order: the front of the bytes asked. -/
def taken (c : WriteCall) : List UInt8 := c.bytes.take c.queued

/-- The bytes dropped: the rest. -/
def lost (c : WriteCall) : List UInt8 := c.bytes.drop c.queued

/-- Whether the call failed. -/
def failed (c : WriteCall) : Bool := c.result.isNone

/-- Over any calls, the bytes queued and the bytes dropped are the bytes asked. -/
theorem length_taken_add_lost (log : List WriteCall) :
    (log.flatMap taken).length + (log.flatMap lost).length = (log.flatMap bytes).length := by
  induction log with
  | nil => rfl
  | cons c log ih =>
    have hc : c.taken.length + c.lost.length = c.bytes.length := by
      rw [← List.length_append, taken, lost, List.take_append_drop]
    simp only [List.flatMap_cons, List.length_append]
    omega

end WriteCall

/-- The link with every write call and its answer recorded beside the world, in order; reads pass
through. -/
def SerialLink.recorded (link : SerialLink σ) : SerialLink (σ × List WriteCall) where
  tryWrite bytes w :=
    ((link.tryWrite bytes w.1).1,
      ((link.tryWrite bytes w.1).2, w.2 ++ [⟨bytes, (link.tryWrite bytes w.1).1⟩]))
  tryRead w := ((link.tryRead w.1).1, ((link.tryRead w.1).2, w.2))
  overruns w := link.overruns w.1

/-- A move `env` of the world beside the record, which leaves the record as it is. -/
def Beside (env : σ → σ → Prop) (w w' : σ × List WriteCall) : Prop := env w.1 w'.1 ∧ w'.2 = w.2

namespace Terminal

/-- A recorded write is the write itself, and the record grows by its call. -/
theorem write_recorded (link : SerialLink σ) (bytes : List UInt8) (t : Terminal) (w : σ)
    (log : List WriteCall) :
    write link.recorded bytes t (w, log) =
      ((write link bytes t w).1, ((link.tryWrite bytes w).2, log ++ [⟨bytes, (link.tryWrite bytes w).1⟩])) :=
  rfl

/-- A write leaves the world as the link's call leaves it. -/
theorem write_snd (link : SerialLink σ) (bytes : List UInt8) (t : Terminal) (w : σ) :
    (write link bytes t w).2 = (link.tryWrite bytes w).2 :=
  rfl

/-- A property of the terminal and its world that each write keeps, each read keeps, and each
change of the terminal that leaves its two transmit counters as they were keeps. -/
structure Keeps (link : SerialLink σ) (P : Terminal → σ → Prop) : Prop where
  write : ∀ bytes t w, P t w → P (write link bytes t w).1 (write link bytes t w).2
  read : ∀ t w, P t w → P t (link.tryRead w).2
  counters : ∀ t t' w, P t w → t'.txDropped = t.txDropped → t'.txErrors = t.txErrors → P t' w

variable {link : SerialLink σ} {P : Terminal → σ → Prop}

section Operations

variable (h : Keeps link P)
include h

theorem Keeps.say (pieces : List String) {t : Terminal} {w : σ} (hp : P t w) :
    P (say link pieces t w).1 (say link pieces t w).2 :=
  h.write _ _ _ (h.write _ t w hp)

theorem Keeps.sayAll (lines : List (List String)) {t : Terminal} {w : σ} (hp : P t w) :
    P (sayAll link lines t w).1 (sayAll link lines t w).2 := by
  unfold Terminal.sayAll
  induction lines generalizing t w with
  | nil => exact hp
  | cons l ls ih =>
    simp only [List.foldl_cons]
    exact ih (h.say l hp)

theorem Keeps.banner {t : Terminal} {w : σ} (hp : P t w) :
    P (banner link t w).1 (banner link t w).2 :=
  h.write _ _ _ (h.say _ (h.say _ (h.write _ t w hp)))

theorem Keeps.completeRequest (outcome : String) {t : Terminal} {w : σ} (hp : P t w) :
    P (completeRequest link outcome t w).1 (completeRequest link outcome t w).2 :=
  h.write _ _ _ (h.say _ hp)

theorem Keeps.report (channel : Nat) (ev : Event) {t : Terminal} {w : σ} (hp : P t w) :
    P (report link channel ev t w).1 (report link channel ev t w).2 :=
  h.say _ hp

theorem Keeps.takeRequest {t : Terminal} {w : σ} (hp : P t w) : P t.takeRequest.2 w :=
  h.counters _ _ _ hp rfl rfl

theorem Keeps.applied {t : Terminal} {w : σ} (hp : P t w) (r : Except SettingsError Bank)
    {x : Terminal × Bank × σ} (hx : applied link t w r = .ok x) : P x.1 x.2.2 := by
  cases r with
  | ok b' =>
    have hx' : Except.ok ((Terminal.say link ["OK"] t w).1, b', (Terminal.say link ["OK"] t w).2) = .ok x := hx
    obtain rfl := Except.ok.inj hx'
    exact h.say _ hp
  | error e => cases hx

theorem Keeps.execute {t : Terminal} {w : σ} (hp : P t w) (cmd : Command) (b : Bank) (e : Engine)
    {x : Terminal × Bank × σ} (hx : execute link cmd t b e w = .ok x) : P x.1 x.2.2 := by
  -- each answer is one `say` or `sayAll`, then perhaps a parked request
  cases cmd with
  | help =>
    have hx' : Except.ok ((Terminal.sayAll link helpText t w).1, b, (Terminal.sayAll link helpText t w).2) =
        .ok x := hx
    obtain rfl := Except.ok.inj hx'
    exact h.sayAll _ hp
  | state =>
    have hx' : Except.ok ((Terminal.sayAll link (stateText (link.overruns w) e t) t w).1, b,
        (Terminal.sayAll link (stateText (link.overruns w) e t) t w).2) = .ok x := hx
    obtain rfl := Except.ok.inj hx'
    exact h.sayAll _ hp
  | version =>
    have hx' : Except.ok ((Terminal.say link ["Galvani ", version] t w).1, b,
        (Terminal.say link ["Galvani ", version] t w).2) = .ok x := hx
    obtain rfl := Except.ok.inj hx'
    exact h.say _ hp
  | reboot =>
    have hx' : Except.ok ({ (Terminal.say link ["Reboot"] t w).1 with request := some .reboot }, b,
        (Terminal.say link ["Reboot"] t w).2) = .ok x := hx
    obtain rfl := Except.ok.inj hx'
    exact h.counters _ _ _ (h.say _ hp) rfl rfl
  | echoOnly | store | load => cases hx; exact h.counters _ _ _ hp rfl rfl
  | query ch =>
    simp only [Terminal.execute] at hx
    split at hx
    · next s _ =>
      have hx' : Except.ok ((Terminal.say link (settingLine ch s) t w).1, b,
          (Terminal.say link (settingLine ch s) t w).2) = .ok x := hx
      obtain rfl := Except.ok.inj hx'
      exact h.say _ hp
    · cases hx
  | start _ | stop _ | setVoltage _ _ | setTimes _ _ | setDelta _ _ | setRepeatCount _ _ =>
    exact h.applied hp _ hx

/-- The prompt that ends a completed line, unless a store or load is parked. -/
theorem Keeps.prompted {t : Terminal} {b : Bank} {w : σ} (hp : P t w) :
    P (match t.request with
        | some .store => (t, b, w)
        | some .load => (t, b, w)
        | _ => ((writeText link prompt t w).1, b, (writeText link prompt t w).2)).1
      (match t.request with
        | some .store => (t, b, w)
        | some .load => (t, b, w)
        | _ => ((writeText link prompt t w).1, b, (writeText link prompt t w).2)).2.2 := by
  split
  · exact hp
  · exact hp
  · exact h.write _ _ _ hp

theorem Keeps.completeLine {t : Terminal} {w : σ} (hp : P t w) (b : Bank) (e : Engine) :
    P (completeLine link t b e w).1 (completeLine link t b e w).2.2 := by
  have hclear : P { t with editor := t.editor.clear } w := h.counters _ _ _ hp rfl rfl
  unfold Terminal.completeLine
  dsimp only
  split
  · -- echo-only: the line is echoed, the mode perhaps left, then the prompt
    have hsaid := h.say [t.editor.line] hclear
    exact h.write _ _ _ (by split <;> exact h.counters _ _ _ hsaid rfl rfl)
  · -- the three outcomes of parsing, each followed by the prompt unless a request is parked
    rcases Command.parse t.editor.line with err | (_ | c)
    · -- an unknown command is answered with the command list, any other refusal with one line
      cases err
      case unknownCommand => exact h.prompted (h.sayAll _ (h.say _ hclear))
      all_goals exact h.prompted (h.say _ hclear)
    · exact h.prompted hclear
    · dsimp only
      cases hx : Terminal.execute link c { t with editor := t.editor.clear } b e w with
      | ok x => exact h.prompted (h.execute hclear c b e hx)
      | error err => exact h.prompted (h.say _ hclear)

theorem Keeps.poll {t : Terminal} {w : σ} (hp : P t w) (b : Bank) (e : Engine) :
    P (poll link t b e w).1 (poll link t b e w).2.2 := by
  have hread := h.read t w hp
  unfold Terminal.poll
  rcases hr : link.tryRead w with ⟨byte | _ | _, w'⟩
  all_goals rw [hr] at hread
  · -- a byte: the editor takes it, then an echo or a completed line
    have hfed : P { t with editor := (t.editor.feed byte).1 } w' := h.counters _ _ _ hread rfl rfl
    dsimp only
    split
    · exact h.write _ _ _ hfed
    · exact h.write _ _ _ hfed
    · exact h.write _ _ _ hfed
    · exact hfed
    · exact h.completeLine (h.write _ _ _ hfed) b e
  · exact hread
  · exact h.counters _ _ _ hread rfl rfl

end Operations

/-- The runs of the terminal over a link from `x₀`: its own operations (a poll with any settings
and engine, an engine event shown, the banner, a request answered or taken) interleaved with moves
`env` of the world outside it. -/
inductive Run (link : SerialLink σ) (env : σ → σ → Prop) (x₀ : Terminal × σ) :
    Terminal × σ → Prop
  | start : Run link env x₀ x₀
  | poll {t : Terminal} {w : σ} (b : Bank) (e : Engine) : Run link env x₀ (t, w) →
      Run link env x₀ ((poll link t b e w).1, (poll link t b e w).2.2)
  | report {t : Terminal} {w : σ} (channel : Nat) (ev : Event) : Run link env x₀ (t, w) →
      Run link env x₀ (report link channel ev t w)
  | banner {t : Terminal} {w : σ} : Run link env x₀ (t, w) → Run link env x₀ (banner link t w)
  | completeRequest {t : Terminal} {w : σ} (outcome : String) : Run link env x₀ (t, w) →
      Run link env x₀ (completeRequest link outcome t w)
  | takeRequest {t : Terminal} {w : σ} : Run link env x₀ (t, w) →
      Run link env x₀ (t.takeRequest.2, w)
  | move {t : Terminal} {w w' : σ} : Run link env x₀ (t, w) → env w w' → Run link env x₀ (t, w')

/-- A property kept by the terminal's operations and by the world's moves holds along every run. -/
theorem Run.keeps {env : σ → σ → Prop} (h : Keeps link P)
    (henv : ∀ t w w', P t w → env w w' → P t w') {x₀ x : Terminal × σ}
    (hrun : Run link env x₀ x) (h₀ : P x₀.1 x₀.2) : P x.1 x.2 := by
  induction hrun with
  | start => exact h₀
  | poll b e _ ih => exact h.poll ih b e
  | report channel ev _ ih => exact h.report channel ev ih
  | banner _ ih => exact h.banner ih
  | completeRequest outcome _ ih => exact h.completeRequest outcome ih
  | takeRequest _ ih => exact h.takeRequest ih
  | move _ hmove ih => exact henv _ _ _ ih hmove

/-- The transmit counters account for the recorded calls since a terminal `t₀`: the dropped bytes
and the failed calls, each added to `t₀`'s count and held at the largest 32-bit value. -/
def Counted (t₀ t : Terminal) (w : σ × List WriteCall) : Prop :=
  t.txDropped.toNat = min (t₀.txDropped.toNat + (w.2.flatMap WriteCall.lost).length) 4294967295 ∧
  t.txErrors.toNat = min (t₀.txErrors.toNat + w.2.countP WriteCall.failed) 4294967295

theorem counted_start (t₀ : Terminal) (w : σ) : Counted t₀ t₀ (w, []) := by
  have hd := t₀.txDropped.toNat_lt
  have he := t₀.txErrors.toNat_lt
  simp only [Counted, List.flatMap_nil, List.length_nil, List.countP_nil, Nat.add_zero]
  omega

/-- What one write does to the counters: the bytes it did not queue are added to the dropped
count, and a failed call to the error count. -/
theorem write_counters (link : SerialLink σ) (bytes : List UInt8) (t : Terminal) (w : σ) :
    (write link bytes t w).1.txDropped.toNat =
      min (t.txDropped.toNat + (WriteCall.mk bytes (link.tryWrite bytes w).1).lost.length) 4294967295 ∧
    (write link bytes t w).1.txErrors.toNat =
      min (t.txErrors.toNat + if (link.tryWrite bytes w).1.isNone then 1 else 0) 4294967295 := by
  have hcap : ∀ n : Nat, (UInt32.ofNat (min n 4294967295)).toNat = min n 4294967295 := fun n => by
    rw [UInt32.toNat_ofNat']
    exact Nat.mod_eq_of_lt (by omega)
  have herr := t.txErrors.toNat_lt
  unfold write
  generalize link.tryWrite bytes w = p
  obtain ⟨_ | n, w'⟩ := p
  · simp only [bump, Word.toNat_satAdd32, hcap, WriteCall.lost, WriteCall.queued, Option.elim,
      List.length_drop, Option.isNone_none, UInt32.reduceToNat, ↓reduceIte, and_true]
    omega
  · simp only [Word.toNat_satAdd32, hcap, WriteCall.lost, WriteCall.queued, Option.elim,
      List.length_drop, Option.isNone_some, Bool.false_eq_true, ↓reduceIte]
    omega

/-- Over a recorded link, the transmit counters account for every recorded call. -/
theorem keeps_counted (link : SerialLink σ) (t₀ : Terminal) : Keeps link.recorded (Counted t₀) where
  write bytes t w hc := by
    obtain ⟨w, log⟩ := w
    obtain ⟨hd, he⟩ := write_counters link bytes t w
    obtain ⟨hd₀, he₀⟩ := hc
    rw [write_recorded]
    refine ⟨?_, ?_⟩
    · rw [hd, List.flatMap_append, List.length_append, hd₀]
      simp only [List.flatMap_cons, List.flatMap_nil, List.append_nil]
      omega
    · rw [he, List.countP_append, he₀]
      -- a failed call is one more error, any other call none
      cases (link.tryWrite bytes w).1 with
      | none =>
        simp only [WriteCall.failed, List.countP_singleton, Option.isNone_none, ↓reduceIte]
        omega
      | some n =>
        simp only [WriteCall.failed, List.countP_singleton, Option.isNone_some, Bool.false_eq_true,
          ↓reduceIte]
        omega
  read _ _ hc := hc
  counters t t' w hc hd he := by
    unfold Counted
    rw [hd, he]
    exact hc

/-- Over every run of the terminal on a recorded link, whatever the world does beside the record,
the dropped count is the bytes asked less the bytes queued, and the error count is the failed
calls, each added to the start's count and held at the largest 32-bit value. -/
theorem Run.counted {env : σ → σ → Prop} {t₀ t : Terminal} {w₀ w : σ} {log : List WriteCall}
    (hrun : Run link.recorded (Beside env) (t₀, (w₀, [])) (t, (w, log))) :
    t.txDropped.toNat = min (t₀.txDropped.toNat +
      ((log.flatMap WriteCall.bytes).length - (log.flatMap WriteCall.taken).length)) 4294967295 ∧
    t.txErrors.toNat = min (t₀.txErrors.toNat + log.countP WriteCall.failed) 4294967295 := by
  have hkept := hrun.keeps (keeps_counted link t₀)
    (fun t w w' hc hmove => by unfold Counted; rw [hmove.2]; exact hc) (counted_start t₀ w₀)
  have hsum := WriteCall.length_taken_add_lost log
  obtain ⟨hd, he⟩ := hkept
  dsimp only at hd he
  exact ⟨by rw [hd]; congr 2; omega, he⟩

end Terminal

end Stimulator
