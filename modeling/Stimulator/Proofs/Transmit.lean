import Stimulator.Proofs.Output
import Stimulator.Board.Uart

/-!
# The transmit ring

The terminal's UART on the board queues writes in a 1024-byte transmit ring that the line drains.
The polled adapter (`PolledUart.tryWrite`) loops while the device is ready and takes bytes; on
the ring it stops after one transfer, having queued every byte that fits.

* `LineUart.room` : the room left in the ring; `LineUart.txStream` : every byte the ring was given,
  those already sent on the line first;
* `LineUart.tryWrite_device` : a write queues the front of the bytes that fits, and answers how
  many;
* `LineUart.txStream_advance` : the line moves bytes from the ring to the wire and loses none;
* `ring_output_accounted` : over every run of the terminal, the ring receives the queued front of
  each write in order, and the counters account for the rest.
-/

namespace Stimulator

theorem Queue.toList_of_pop? {α : Type} {q q' : Queue α} {x : α} (h : q.pop? = some (x, q')) :
    q.toList = x :: q'.toList := by
  have hq := Queue.pop?_toList q
  simp only [h, Option.map_some] at hq
  split at hq
  · cases hq
  · next heq => rw [heq, (Option.some.inj hq)]

/-- A property of a device that readiness checks and reads keep holds of the device after a
polled read. -/
theorem PolledUart.tryRead_keeps {δ : Type} (dev : Device δ) (Q : δ → Prop)
    (hready : ∀ d, Q d → Q (dev.readReady d).2) (hread : ∀ d, Q d → Q (dev.read d).2)
    {u : PolledUart δ} (hu : Q u.device) : Q (PolledUart.tryRead dev u).2.device := by
  have h₁ := hready _ hu
  unfold PolledUart.tryRead
  rcases hr : dev.readReady u.device with ⟨_ | _ | _, d⟩
  all_goals rw [hr] at h₁
  · exact h₁
  · exact h₁
  · have h₂ := hread _ h₁
    dsimp only
    rcases hr' : dev.read d with ⟨_ | _ | _, d'⟩
    all_goals rw [hr'] at h₂
    all_goals exact h₂

theorem PolledUart.link_tryWrite {δ : Type} (dev : Device δ) :
    (PolledUart.link dev).tryWrite = PolledUart.tryWrite dev :=
  rfl

namespace Board.LineUart

/-- Room left in the transmit ring. -/
def room (u : LineUart) : Nat := txCapacity - u.tx.size

/-- Every byte the transmit ring was given: those the line has sent, then those still queued. -/
def txStream (u : LineUart) : List UInt8 := u.sent.toList ++ u.tx.toList

theorem txStream_sendBytes (k : Nat) (u : LineUart) : (sendBytes k u).txStream = u.txStream := by
  induction k generalizing u with
  | zero => rfl
  | succ k ih =>
    rw [sendBytes]
    cases hpop : u.tx.pop? with
    | none => rfl
    | some p =>
      obtain ⟨b, tx⟩ := p
      dsimp only
      rw [ih]
      simp only [txStream, Array.toList_push, List.append_assoc, Queue.toList_of_pop? hpop,
        List.singleton_append]

theorem txStream_receiveBytes (k : Nat) (u : LineUart) :
    (receiveBytes k u).txStream = u.txStream := by
  induction k generalizing u with
  | zero => rfl
  | succ k ih =>
    rw [receiveBytes]
    cases u.line.pop? with
    | none => rfl
    | some p =>
      dsimp only
      rw [ih]
      split <;> rfl

theorem txStream_rxCredit (u : LineUart) (c : Nat) : { u with rxCredit := c }.txStream = u.txStream :=
  rfl

theorem txStream_txCredit (u : LineUart) (c : Nat) : { u with txCredit := c }.txStream = u.txStream :=
  rfl

theorem txStream_receive (dt : Nat) (u : LineUart) : (receive dt u).txStream = u.txStream := by
  unfold receive
  split
  · exact txStream_rxCredit u 0
  · dsimp only
    split
    · rw [txStream_rxCredit, txStream_receiveBytes, txStream_rxCredit]
    · rw [txStream_receiveBytes, txStream_rxCredit]

theorem txStream_transmit (dt : Nat) (u : LineUart) : (transmit dt u).txStream = u.txStream := by
  unfold transmit
  split
  · exact txStream_txCredit u 0
  · dsimp only
    split
    · rw [txStream_txCredit, txStream_sendBytes, txStream_txCredit]
    · rw [txStream_sendBytes, txStream_txCredit]

/-- Time on the line moves bytes from the ring to the wire, in order, and loses none. -/
theorem txStream_advance (dt : Nat) (u : LineUart) : (advance dt u).txStream = u.txStream := by
  rw [advance, txStream_transmit, txStream_receive]

theorem device_writeReady (d : LineUart) :
    device.writeReady d = (some (decide (d.tx.size < txCapacity)), d) := rfl

theorem device_write (data : List UInt8) (d : LineUart) :
    device.write data d =
      (some (min data.length d.room), { d with tx := d.tx.pushAll (data.take (min data.length d.room)) }) :=
  rfl

theorem txStream_read (d : LineUart) : (device.read d).2.txStream = d.txStream := by
  simp only [device]
  split
  · rfl
  · split <;> rfl

/-- A read of the device leaves the transmit side alone. -/
theorem txStream_tryRead (u : PolledUart LineUart) :
    (PolledUart.tryRead device u).2.device.txStream = u.device.txStream :=
  PolledUart.tryRead_keeps device (fun d => d.txStream = u.device.txStream) (fun _ h => h)
    (fun d h => (txStream_read d).trans h) rfl

/-- With every byte queued or the ring full, the adapter's loop stops where it is. -/
theorem writeFrom_stop {data : List UInt8} {q : Nat} {d : LineUart}
    (h : data.length ≤ q ∨ d.room = 0) : PolledUart.writeFrom device data q d = (some q, d) := by
  rw [PolledUart.writeFrom]
  by_cases hq : q < data.length
  · have hfull : ¬d.tx.size < txCapacity := by unfold room at h; omega
    rw [if_pos hq, device_writeReady, decide_eq_false hfull]
  · rw [if_neg hq]

/-- The adapter's loop on the ring: one transfer queues all that fits, and the loop then stops,
either with every byte queued or with the ring full. -/
theorem writeFrom_device (data : List UInt8) (d : LineUart) :
    PolledUart.writeFrom device data 0 d =
      (some (min data.length d.room),
        { d with tx := d.tx.pushAll (data.take (min data.length d.room)) }) := by
  by_cases hk : min data.length d.room = 0
  · -- nothing to queue or no room: the loop stops at once
    rw [writeFrom_stop (by omega), hk, List.take_zero]
    rfl
  · obtain ⟨n, hn⟩ : ∃ n, min data.length d.room = n + 1 :=
      ⟨_, (Nat.succ_pred_eq_of_ne_zero hk).symm⟩
    have hready : d.tx.size < txCapacity := by unfold room at hn; omega
    -- after the transfer, every byte is queued or the ring is full
    have hdone : data.length ≤ n + 1 ∨
        room { d with tx := d.tx.pushAll (data.take (n + 1)) } = 0 := by
      simp only [room, Queue.size_eq_length, Queue.toList_pushAll, List.length_append,
        List.length_take] at hn ⊢
      omega
    rw [PolledUart.writeFrom, if_pos (by omega), device_writeReady, decide_eq_true hready,
      List.drop_zero]
    dsimp only
    rw [device_write, hn]
    dsimp only
    rw [Nat.zero_add]
    exact writeFrom_stop hdone

/-- A polled write on the ring ends with an answer: it queues the front of the bytes that fits,
and says how many. -/
theorem tryWrite_device (data : List UInt8) (u : PolledUart LineUart) :
    PolledUart.tryWrite device data u =
      (some (min data.length u.device.room),
        { u with device := { u.device with
            tx := u.device.tx.pushAll (data.take (min data.length u.device.room)) } }) := by
  unfold PolledUart.tryWrite
  rw [writeFrom_device]

/-- Each write of the terminal appends to the ring exactly the front of its bytes that fits. -/
theorem tx_write (bytes : List UInt8) (t : Terminal) (u : PolledUart LineUart) :
    (Terminal.write (PolledUart.link device) bytes t u).2.device.tx.toList =
      u.device.tx.toList ++ bytes.take (min bytes.length u.device.room) := by
  rw [Terminal.write_snd, PolledUart.link_tryWrite, tryWrite_device]
  exact Queue.toList_pushAll _ _

-- Three bytes on a ring with room for two: the third is dropped and counted.
example : (Terminal.write (PolledUart.link device) [1, 2, 3] {}
    { device := { tx := { front := List.replicate 1022 0 } } }).1.txDropped = 1 := by
  unfold Terminal.write
  rw [PolledUart.link_tryWrite, tryWrite_device]
  decide +kernel

/-- What the line does between the terminal's operations: time passes, or the host sends bytes. -/
inductive Moves : PolledUart LineUart → PolledUart LineUart → Prop
  | advance (dt : Nat) (u : PolledUart LineUart) : Moves u { u with device := u.device.advance dt }
  | hostSends (bytes : List UInt8) (u : PolledUart LineUart) :
      Moves u { u with device := u.device.hostSends bytes }

theorem Moves.txStream_eq {u u' : PolledUart LineUart} (h : Moves u u') :
    u'.device.txStream = u.device.txStream := by
  cases h with
  | advance dt => exact txStream_advance dt u.device
  | hostSends bytes => rfl

/-- After what `u₀` held and had sent, the ring has been given exactly the bytes each recorded call
queued, in order; and no call failed. -/
def Streamed (u₀ : PolledUart LineUart) (w : PolledUart LineUart × List WriteCall) : Prop :=
  w.1.device.txStream = u₀.device.txStream ++ w.2.flatMap WriteCall.taken ∧
    w.2.countP WriteCall.failed = 0

/-- On the ring a call queues all that fits: what the terminal counts as queued is what went in. -/
theorem taken_tryWrite (bytes : List UInt8) (u : PolledUart LineUart) :
    (WriteCall.mk bytes (PolledUart.tryWrite device bytes u).1).taken =
      bytes.take (min bytes.length u.device.room) := by
  rw [tryWrite_device]
  simp only [WriteCall.taken, WriteCall.queued, Option.elim]
  rw [Nat.min_eq_left (Nat.min_le_left _ _)]

theorem keeps_streamed (u₀ : PolledUart LineUart) :
    Terminal.Keeps (PolledUart.link device).recorded fun _ w => Streamed u₀ w where
  write bytes t w hs := by
    obtain ⟨u, log⟩ := w
    obtain ⟨hstream, hfail⟩ := hs
    dsimp only at hstream hfail
    have htaken := taken_tryWrite bytes u
    rw [Terminal.write_recorded, PolledUart.link_tryWrite]
    refine ⟨?_, ?_⟩
    · calc (PolledUart.tryWrite device bytes u).2.device.txStream
          = u.device.txStream ++ bytes.take (min bytes.length u.device.room) := by
            simp only [tryWrite_device, txStream, Queue.toList_pushAll, List.append_assoc]
        _ = u₀.device.txStream ++
              (log ++ [WriteCall.mk bytes (PolledUart.tryWrite device bytes u).1]).flatMap
                WriteCall.taken := by
            rw [hstream, List.flatMap_append, List.flatMap_singleton, htaken, List.append_assoc]
    · rw [List.countP_append, hfail, tryWrite_device]
      rfl
  read t w hs := by
    obtain ⟨u, log⟩ := w
    exact ⟨(txStream_tryRead u).trans hs.1, hs.2⟩
  counters _ _ _ hs _ _ := hs

/-- Over every run of the terminal on the ring, whatever the line does, the ring has been given
exactly the queued front of each write, in order, and no write failed. -/
theorem run_streamed {t₀ t : Terminal} {u₀ u : PolledUart LineUart} {log : List WriteCall}
    (hrun : Terminal.Run (PolledUart.link device).recorded (Beside Moves) (t₀, (u₀, [])) (t, (u, log))) :
    u.device.txStream = u₀.device.txStream ++ log.flatMap WriteCall.taken ∧
      log.countP WriteCall.failed = 0 := by
  have hmoves : ∀ (t : Terminal) (w w' : PolledUart LineUart × List WriteCall), Streamed u₀ w →
      Beside Moves w w' → Streamed u₀ w' := by
    rintro _ w w' ⟨hstream, hfail⟩ ⟨hmove, hlog⟩
    exact ⟨hmove.txStream_eq.trans (hlog ▸ hstream), hlog ▸ hfail⟩
  exact hrun.keeps (keeps_streamed u₀) hmoves ⟨(List.append_nil _).symm, rfl⟩

end Board.LineUart

open Board

/-- The terminal over a polled UART on the transmit ring. The adapter's loop ends with an answer
for every write, having queued the front of the bytes that fits and nothing else, so each write of
the terminal appends exactly that front to the ring. Over every run of the terminal on any UART,
the dropped count is the bytes asked less the bytes queued and the error count is the failed
calls, each added to the start's count and held at the largest 32-bit value; on the ring, what was
queued is what the ring received, in order, and no call fails. -/
theorem ring_output_accounted :
    (∀ (bytes : List UInt8) (u : PolledUart LineUart),
      PolledUart.tryWrite LineUart.device bytes u =
        (some (min bytes.length u.device.room),
          { u with device := { u.device with
              tx := u.device.tx.pushAll (bytes.take (min bytes.length u.device.room)) } })) ∧
    (∀ (bytes : List UInt8) (t : Terminal) (u : PolledUart LineUart),
      (Terminal.write (PolledUart.link LineUart.device) bytes t u).2.device.tx.toList =
        u.device.tx.toList ++ bytes.take (min bytes.length u.device.room)) ∧
    (∀ (σ : Type) (link : SerialLink σ) (env : σ → σ → Prop) (t₀ t : Terminal) (w₀ w : σ)
        (log : List WriteCall),
      Terminal.Run link.recorded (Beside env) (t₀, (w₀, [])) (t, (w, log)) →
        t.txDropped.toNat = min (t₀.txDropped.toNat +
          ((log.flatMap WriteCall.bytes).length - (log.flatMap WriteCall.taken).length)) 4294967295 ∧
        t.txErrors.toNat = min (t₀.txErrors.toNat + log.countP WriteCall.failed) 4294967295) ∧
    (∀ (t₀ t : Terminal) (u₀ u : PolledUart LineUart) (log : List WriteCall),
      Terminal.Run (PolledUart.link LineUart.device).recorded (Beside LineUart.Moves)
          (t₀, (u₀, [])) (t, (u, log)) →
        u.device.txStream = u₀.device.txStream ++ log.flatMap WriteCall.taken ∧
        log.countP WriteCall.failed = 0) :=
  ⟨LineUart.tryWrite_device, LineUart.tx_write, fun _ _ _ _ _ _ _ _ hrun => hrun.counted,
    fun _ _ _ _ _ hrun => LineUart.run_streamed hrun⟩

/-- The banner on a ring with room for ten bytes: a run whose writes the counters and the ring
account for. -/
theorem ring_output_banner :
    let u₀ : PolledUart LineUart := { device := { tx := { front := List.replicate 1014 0 } } }
    let x := Terminal.banner (PolledUart.link LineUart.device).recorded {} (u₀, [])
    Terminal.Run (PolledUart.link LineUart.device).recorded (Beside LineUart.Moves)
        ({}, (u₀, [])) (x.1, (x.2.1, x.2.2)) ∧
      (x.1.txDropped.toNat = min (0 + ((x.2.2.flatMap WriteCall.bytes).length -
          (x.2.2.flatMap WriteCall.taken).length)) 4294967295 ∧
        x.1.txErrors.toNat = min (0 + x.2.2.countP WriteCall.failed) 4294967295) ∧
      (x.2.1.device.txStream = u₀.device.txStream ++ x.2.2.flatMap WriteCall.taken ∧
        x.2.2.countP WriteCall.failed = 0) := by
  intro u₀ x
  have hrun : Terminal.Run (PolledUart.link LineUart.device).recorded (Beside LineUart.Moves)
      ({}, (u₀, [])) x := .banner .start
  clear_value x
  obtain ⟨t, u, log⟩ := x
  exact ⟨hrun, ring_output_accounted.2.2.1 _ _ _ _ _ _ _ _ hrun,
    ring_output_accounted.2.2.2 _ _ _ _ _ hrun⟩

end Stimulator
