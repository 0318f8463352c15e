import Stimulator.Proofs.Channel
import Mathlib.Logic.Function.Iterate

/-!
# The main loop

The main loop alternates a poll of the terminal, which carries out at most one command line, and
an engine pass. Between iterations the firmware may install settings of its own (a load from
flash, or the settings found at boot).

* `Terminal.command?` : the command a poll carries out, if any: the one on the line its byte
  completes, outside echo-only mode;
* `Command.applyTo` : what carrying out a command does to the settings;
* `Terminal.poll_bank` : a poll changes the settings only by carrying out its command;
* `Loop` : the terminal, the scheduler and the world between two iterations; `Loop.next`,
  `Loop.events`, `Loop.calls` : the next state, the events and the output calls of an iteration;
* `Loop.Reachable` : the states reached from any settings by iterations and installs;
* `Loop.channel_next` : one iteration seen from channel `c` is the poll's change to its setting,
  then its own decision.
-/

namespace Stimulator

variable {σ : Type}

/-- A selection covers channel `c` when it names `c` or every channel. -/
def Select.Covers : Select → Nat → Prop
  | .one ch, c => ch = c
  | .all, _ => True

instance Select.decCovers : (sel : Select) → (c : Nat) → Decidable (sel.Covers c)
  | .one ch, c => inferInstanceAs (Decidable (ch = c))
  | .all, _ => inferInstanceAs (Decidable True)

/-- The bank a settings change leaves: the changed bank, or the same one when it was refused. -/
def Bank.after (b : Bank) : Except SettingsError Bank → Bank
  | .ok b' => b'
  | .error _ => b

/-- The settings after the terminal carries out `cmd`: a settings command's change when it is
accepted; every other command leaves them as they are. -/
def Command.applyTo (cmd : Command) (b : Bank) : Bank :=
  match cmd with
  | .start sel => b.after (b.start sel)
  | .stop sel => b.after (b.stop sel)
  | .setVoltage ch v => b.after (b.setVoltage ch v)
  | .setTimes ch t => b.after (b.setTimes ch t)
  | .setDelta ch d => b.after (b.setDelta ch d)
  | .setRepeatCount ch n => b.after (b.setRepeatCount ch n)
  | _ => b

/-- The command a poll carries out: the one on the line that its received byte completes, unless
the terminal only echoes. -/
def Terminal.command? (link : SerialLink σ) (t : Terminal) (w : σ) : Option Command :=
  match link.tryRead w with
  | (.byte byte, _) =>
    match (t.editor.feed byte).2 with
    | .complete =>
      if t.echoOnly then none
      else match Command.parse (t.editor.feed byte).1.line with
        | .ok (some cmd) => some cmd
        | _ => none
    | _ => none
  | _ => none

namespace Bank

theorem size_after {b : Bank} {r : Except SettingsError Bank} (h : ∀ b', r = .ok b' → b'.size = b.size) :
    (b.after r).size = b.size := by
  cases r with
  | ok b' => exact h b' rfl
  | error _ => rfl

theorem setting_modify {b b' : Bank} {ch : Nat} {f : ChannelSetting → ChannelSetting}
    (h : b.modify ch f = .ok b') (c : Nat) :
    b'.setting c = if c = ch then f (b.setting c) else b.setting c := by
  unfold modify at h
  split at h
  · next hch =>
    cases h
    by_cases hc : c = ch
    · subst hc
      simp [setting, List.getD_eq_getElem?_getD, hch]
    · simp [setting, List.getD_eq_getElem?_getD, hc, Ne.symm hc]
  · cases h

theorem setting_modifySelected {b b' : Bank} {sel : Select} {f : ChannelSetting → ChannelSetting}
    (h : b.modifySelected sel f = .ok b') {c : Nat} (hc : c < b.size) :
    b'.setting c = if sel.Covers c then f (b.setting c) else b.setting c := by
  cases sel with
  | one ch =>
    rw [setting_modify h c]
    simp only [Select.Covers]
    by_cases h' : c = ch
    · simp [h']
    · simp [h', Ne.symm h']
  | all =>
    cases h
    simp [setting, Select.Covers, List.getD_eq_getElem?_getD, List.getElem?_map,
      List.getElem?_eq_getElem (show c < b.channels.length from hc)]

theorem modifySelected_ok {b : Bank} {sel : Select} (f : ChannelSetting → ChannelSetting) {c : Nat}
    (hsel : sel.Covers c) (hc : c < b.size) : ∃ b', b.modifySelected sel f = .ok b' := by
  cases sel with
  | one ch =>
    simp only [Select.Covers] at hsel
    subst hsel
    exact ⟨_, if_pos hc⟩
  | all => exact ⟨_, rfl⟩

/-- A refused change of the selected channels names no channel the board has. -/
theorem not_covers_of_modifySelected_error {b : Bank} {sel : Select} {f : ChannelSetting → ChannelSetting}
    {e : SettingsError} (h : b.modifySelected sel f = .error e) {c : Nat} (hc : c < b.size) :
    ¬sel.Covers c := by
  intro hcov
  obtain ⟨b', hb'⟩ := modifySelected_ok f hcov hc
  rw [h] at hb'
  cases hb'

/-- Every settings change other than a start or stop keeps each channel's run state. -/
theorem runState_modify {b b' : Bank} {ch : Nat} {f : ChannelSetting → ChannelSetting}
    (hf : ∀ s, (f s).runState = s.runState) (h : b.modify ch f = .ok b') (c : Nat) :
    (b'.setting c).runState = (b.setting c).runState := by
  rw [setting_modify h c]
  split
  · exact hf _
  · rfl

end Bank

namespace Command

theorem size_applyTo (cmd : Command) (b : Bank) : (cmd.applyTo b).size = b.size := by
  cases cmd with
  | start sel | stop sel => exact Bank.size_after fun _ h => Bank.size_modifySelected h
  | setVoltage ch v | setDelta ch v =>
    refine Bank.size_after fun _ h => ?_
    simp only [Bank.setVoltage, Bank.setDelta] at h
    split at h
    · exact Bank.size_modify h
    · cases h
  | setTimes ch v | setRepeatCount ch v => exact Bank.size_after fun _ h => Bank.size_modify h
  | _ => rfl

/-- A command changes channel `c`'s run state only as a start or a stop that covers `c`. -/
theorem runState_applyTo (cmd : Command) (b : Bank) {c : Nat} (hc : c < b.size) :
    ((cmd.applyTo b).setting c).runState =
      match cmd with
      | .start sel => if sel.Covers c then (Bank.requestStart (b.setting c)).runState else (b.setting c).runState
      | .stop sel => if sel.Covers c then .stopped else (b.setting c).runState
      | _ => (b.setting c).runState := by
  cases cmd with
  | start sel | stop sel =>
    simp only [applyTo, Bank.start, Bank.stop]
    cases hm : b.modifySelected sel _ with
    | ok b' => rw [Bank.after, Bank.setting_modifySelected hm hc]; split <;> rfl
    | error _ => simp [Bank.after, Bank.not_covers_of_modifySelected_error hm hc]
  | setVoltage ch v | setDelta ch v =>
    simp only [applyTo, Bank.setVoltage, Bank.setDelta]
    split
    · cases hm : b.modify ch _ with
      | ok b' => rw [Bank.after]; exact Bank.runState_modify (by intro _; rfl) hm c
      | error _ => rfl
    · rfl
  | setTimes ch v | setRepeatCount ch v =>
    simp only [applyTo, Bank.setTimes, Bank.setRepeatCount]
    cases hm : b.modify ch _ with
    | ok b' => rw [Bank.after]; exact Bank.runState_modify (by intro _; rfl) hm c
    | error _ => rfl
  | _ => rfl

end Command

namespace Terminal

variable (link : SerialLink σ)

theorem editor_write (bytes : List UInt8) (t : Terminal) (w : σ) :
    (write link bytes t w).1.editor = t.editor ∧ (write link bytes t w).1.echoOnly = t.echoOnly := by
  unfold write
  rcases link.tryWrite bytes w with ⟨_ | _, _⟩ <;> exact ⟨rfl, rfl⟩

theorem bank_execute (cmd : Command) (t : Terminal) (b : Bank) (e : Engine) (w : σ) :
    (match execute link cmd t b e w with
      | .ok x => x.2.1
      | .error _ => b) = cmd.applyTo b := by
  have happlied : ∀ r : Except SettingsError Bank,
      (match applied link t w r with
        | .ok x => x.2.1
        | .error _ => b) = b.after r := by
    intro r
    cases r <;> rfl
  cases cmd with
  | start sel | stop sel | setVoltage sel _ | setTimes sel _ | setDelta sel _ | setRepeatCount sel _ =>
    exact happlied _
  | query ch =>
    simp only [execute]
    cases b.query ch <;> rfl
  | _ => rfl

theorem bank_completeLine (t : Terminal) (b : Bank) (e : Engine) (w : σ) :
    (completeLine link t b e w).2.1 =
      if t.echoOnly then b
      else match Command.parse t.editor.line with
        | .ok (some cmd) => cmd.applyTo b
        | _ => b := by
  unfold completeLine
  dsimp only
  split
  · rfl
  · rcases Command.parse t.editor.line with err | (_ | cmd)
    · cases err <;> dsimp only <;> split <;> rfl
    · dsimp only
      split <;> rfl
    · dsimp only
      rw [← bank_execute link cmd _ b e w]
      cases execute link cmd _ b e w <;> dsimp only <;> split <;> rfl

/-- **A poll changes the settings only by carrying out its command.** -/
theorem poll_bank (t : Terminal) (b : Bank) (e : Engine) (w : σ) :
    (t.poll link b e w).2.1 =
      match t.command? link w with
      | some cmd => cmd.applyTo b
      | none => b := by
  unfold poll command?
  rcases link.tryRead w with ⟨byte | _ | _, w'⟩
  · dsimp only
    generalize t.editor.feed byte = fed
    rcases fed with ⟨ed, _ | _ | _ | _ | _⟩
    · rfl
    · rfl
    · rfl
    · dsimp only
      rw [bank_completeLine]
      simp only [writeText, (editor_write link _ _ _).1, (editor_write link _ _ _).2]
      cases t.echoOnly
      · rcases Command.parse ed.line with _ | (_ | _) <;> rfl
      · rfl
    · rfl
  · rfl
  · rfl

end Terminal

/-- The main loop between two iterations: the terminal, the scheduler and the world. -/
structure Loop (σ : Type) where
  terminal : Terminal
  scheduler : Scheduler
  world : σ

namespace Loop

variable (link : SerialLink σ) (rig : Rig σ)

/-- The next state of the loop, after one iteration. -/
def next (x : Loop σ) : Loop σ :=
  let i := Scheduler.iterate link rig x.terminal x.scheduler x.world
  ⟨i.1, i.2.1, i.2.2.1⟩

/-- The events of the iteration's engine pass, in channel order. -/
def events (x : Loop σ) : List (Nat × Event) :=
  (Scheduler.iterate link rig x.terminal x.scheduler x.world).2.2.2

/-- The output calls of the iteration, as a recorder logs them. -/
def calls (x : Loop σ) : List Call := Scheduler.calls link rig x.terminal x.scheduler x.world

/-- The command the iteration's poll carries out, if any. -/
def command? (x : Loop σ) : Option Command := x.terminal.command? link x.world

/-- The settings the iteration's engine pass runs on: those the poll leaves. -/
def polled (x : Loop σ) : Bank := (x.terminal.poll link x.scheduler.bank x.scheduler.engine x.world).2.1

/-- The iteration's engine pass. -/
def pass (x : Loop σ) : Pass σ :=
  let p := x.terminal.poll link x.scheduler.bank x.scheduler.engine x.world
  Engine.service rig x.scheduler.engine p.2.1 p.2.2

/-- The iteration's poll carries out a start that covers channel `c`. -/
def Starts (x : Loop σ) (c : Nat) : Prop := ∃ sel, x.command? link = some (.start sel) ∧ sel.Covers c

/-- The iteration's poll carries out a stop that covers channel `c`. -/
def Stops (x : Loop σ) (c : Nat) : Prop := ∃ sel, x.command? link = some (.stop sel) ∧ sel.Covers c

theorem scheduler_next (x : Loop σ) :
    (x.next link rig).scheduler = ⟨(x.pass link rig).bank, (x.pass link rig).engine⟩ := rfl

theorem calls_eq (x : Loop σ) : x.calls link rig = Engine.passCalls x.scheduler.engine (x.polled link) :=
  Scheduler.calls_eq link rig x.terminal x.scheduler x.world

theorem polled_eq (x : Loop σ) :
    x.polled link = match x.command? link with
      | some cmd => cmd.applyTo x.scheduler.bank
      | none => x.scheduler.bank :=
  Terminal.poll_bank link x.terminal x.scheduler.bank x.scheduler.engine x.world

theorem size_polled (x : Loop σ) : (x.polled link).size = x.scheduler.bank.size := by
  rw [polled_eq]
  split
  · exact Command.size_applyTo _ _
  · rfl

theorem lt_length_polled (x : Loop σ) {c : Nat} (hb : c < x.scheduler.bank.size) :
    c < (x.polled link).channels.length := by
  rw [← Bank.size, size_polled]
  exact hb

open Classical in
/-- The poll changes channel `c`'s run state only by a start or a stop that covers `c`. -/
theorem runState_polled (x : Loop σ) {c : Nat} (hc : c < x.scheduler.bank.size) :
    ((x.polled link).setting c).runState =
      if x.Starts link c then (Bank.requestStart (x.scheduler.bank.setting c)).runState
      else if x.Stops link c then .stopped
      else (x.scheduler.bank.setting c).runState := by
  rw [polled_eq]
  unfold Starts Stops
  cases hcmd : x.command? link with
  | none => simp
  | some cmd =>
    rw [Command.runState_applyTo cmd _ hc]
    cases cmd <;> simp

/-- **One iteration seen from channel `c`**: its decision on the settings the poll leaves, at
some snapshot and world. -/
theorem channel_next (x : Loop σ) {c : Nat} (he : c < x.scheduler.engine.runtimes.length)
    (hb : c < x.scheduler.bank.size) :
    ∃ now w',
      (x.next link rig).scheduler.engine.runtime c =
        (Engine.step rig c now (x.scheduler.engine.runtime c) ((x.polled link).setting c) w').runtime ∧
      (x.next link rig).scheduler.bank.setting c =
        (Engine.step rig c now (x.scheduler.engine.runtime c) ((x.polled link).setting c) w').setting ∧
      eventsFor c (x.events link rig) =
        (Engine.step rig c now (x.scheduler.engine.runtime c) ((x.polled link).setting c) w').event.toList := by
  obtain ⟨w', h⟩ := @Engine.service_channel _ rig x.scheduler.engine (x.polled link)
    (x.terminal.poll link x.scheduler.bank x.scheduler.engine x.world).2.2 _ he (lt_length_polled link x hb)
  exact ⟨_, w', h⟩

theorem calls_channel (x : Loop σ) {c : Nat} (he : c < x.scheduler.engine.runtimes.length)
    (hb : c < x.scheduler.bank.size) :
    (x.calls link rig).filter (fun k => k.channel = c) =
      Engine.stepCalls c (x.scheduler.engine.runtime c) ((x.polled link).setting c) := by
  rw [calls_eq]
  exact Engine.passCalls_channel _ _ he (lt_length_polled link x hb)

theorem sizes_next (x : Loop σ) :
    (x.next link rig).scheduler.bank.size = x.scheduler.bank.size ∧
      (x.next link rig).scheduler.engine.runtimes.length = x.scheduler.engine.runtimes.length := by
  rw [scheduler_next]
  exact ⟨(Engine.channels_length_service _ _ _).trans (size_polled link x),
    Engine.runtimes_length_service _ _ _⟩

/-- The states of the main loop: from any settings, iterations, and settings installed between
iterations (at boot, or by a load, with any terminal output on the way). -/
inductive Reachable : Loop σ → Prop
  | start (t : Terminal) (b : Bank) (w : σ) : Reachable ⟨t, Scheduler.new b, w⟩
  | next {x : Loop σ} : Reachable x → Reachable (x.next link rig)
  | install {x : Loop σ} (t : Terminal) (b : Bank) (w : σ) :
      Reachable x → b.size = x.scheduler.bank.size → Reachable ⟨t, { x.scheduler with bank := b }, w⟩

theorem size_iterate (x : Loop σ) (m : Nat) :
    ((next link rig)^[m] x).scheduler.bank.size = x.scheduler.bank.size := by
  induction m with
  | zero => rfl
  | succ m ih => rw [Function.iterate_succ_apply', (sizes_next link rig _).1, ih]

variable {link rig}

theorem Reachable.iterate {x : Loop σ} (h : x.Reachable link rig) (m : Nat) :
    ((Loop.next link rig)^[m] x).Reachable link rig := by
  induction m with
  | zero => exact h
  | succ m ih =>
    rw [Function.iterate_succ_apply']
    exact .next ih

theorem Reachable.sizes {x : Loop σ} (h : x.Reachable link rig) :
    x.scheduler.bank.size = x.scheduler.engine.runtimes.length := by
  induction h with
  | start t b w => simp [Scheduler.new, Engine.new, Bank.size]
  | next _ ih => rw [(sizes_next link rig _).1, (sizes_next link rig _).2, ih]
  | install t b w _ hb ih => exact hb.trans ih

theorem Reachable.engine {x : Loop σ} (h : x.Reachable link rig) : Engine.Reachable rig x.scheduler.engine := by
  induction h with
  | start t b w => exact .new _
  | next _ ih => exact .pass _ _ ih
  | install t b w _ _ ih => exact ih

end Loop

end Stimulator
