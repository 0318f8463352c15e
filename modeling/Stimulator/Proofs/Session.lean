import Stimulator.Proofs.Loop

/-!
# The terminal, line by line

The terminal takes one received byte per poll, so a command line reaches it over many polls: the
editor keeps the line typed so far, the echo-only flag the mode, and only a carriage return makes
anything happen. This module reads a stream of bytes at the level of lines (`Session`) and shows
that polling the stream byte by byte is that reading.

* `Session.typeByte`, `Session.typed` : the line being typed; `Session.completedLines` : the
  stream's pieces before each carriage return; `Session.lineStep`, `Session.run` : the completed
  lines carried out in order, with the echo-only mode;
* `Session.run_cr`, `Session.run_cons` : the session read one byte at a time;
* `Terminal.say_editor` … `Terminal.sayAll_echoOnly` : output leaves the typed line and the mode
  alone; `Terminal.execute_keeps`, `Terminal.completeLine_keeps` : a command touches the mode only
  through `HA`, and a completed line leaves the editor empty and the mode as `lineStep` says;
* `LineEditor.feed_of_ne_cr` : the editor is `typeByte`;
* `Terminal.poll_cr`, `Terminal.poll_of_ne_cr`, `Terminal.pollBytes_run` : one poll, then a whole stream
  (`Terminal.pollBytes`), against the session;
* `stream_settings` : from a fresh terminal, the settings after a stream are those of its completed
  lines.
-/

namespace Stimulator

variable {σ : Type}

namespace Session

/-- A received byte's effect on the line being typed: backspace (8) and delete (127) take the last
character back; printable ASCII (32 to 126) and tab (9) are kept, lower-case letters made upper
case, while the line has fewer than 64 characters; every other byte is dropped. -/
def typeByte (line : List UInt8) (x : UInt8) : List UInt8 :=
  if x.toNat = 8 ∨ x.toNat = 127 then line.dropLast
  else if (32 ≤ x.toNat ∧ x.toNat ≤ 126) ∨ x.toNat = 9 then
    if line.length < 64 then line ++ [if 97 ≤ x.toNat ∧ x.toNat ≤ 122 then x - 32 else x] else line
  else line

/-- The line typed as `bytes` after `line`. -/
def typed (line bytes : List UInt8) : List UInt8 := bytes.foldl typeByte line

/-- A line's bytes as text. -/
def text (line : List UInt8) : String := String.ofList (line.map fun b => Char.ofNat b.toNat)

/-- The completed lines of a stream: its pieces before each carriage return (13). -/
def completedLines (bytes : List UInt8) : List (List UInt8) := (bytes.splitOn 13).dropLast

/-- The texts of the completed lines of a stream typed after `line`: the first completed line
continues `line`, the others start empty. -/
def lineTexts (line bytes : List UInt8) : List String :=
  match completedLines bytes with
  | [] => []
  | first :: rest => text (typed line first) :: rest.map fun l => text (typed [] l)

/-- One completed line. In echo-only mode it changes nothing, and a line starting with `H` leaves
the mode. Otherwise the line's command is carried out on the settings (a line that does not parse
changes nothing), and a line parsing to `HA` enters the mode. -/
def lineStep (st : Bool × Bank) (line : String) : Bool × Bank :=
  if st.1 then (!line.startsWith "H", st.2)
  else match Command.parse line with
    | .ok (some cmd) => (cmd == .echoOnly, cmd.applyTo st.2)
    | _ => (false, st.2)

/-- The mode and settings after the completed lines of a stream, from a line typed so far, a mode
and settings. -/
def run (line : List UInt8) (echo : Bool) (b : Bank) (bytes : List UInt8) : Bool × Bank :=
  (lineTexts line bytes).foldl lineStep (echo, b)

@[simp] theorem completedLines_nil : completedLines [] = [] := rfl

theorem completedLines_cr (rest : List UInt8) :
    completedLines (13 :: rest) = [] :: completedLines rest := by
  unfold completedLines List.splitOn
  rw [List.splitOnP_cons_eq_if_modifyHead, if_pos (by decide)]
  exact List.dropLast_cons_of_ne_nil (List.splitOnP_ne_nil _ _)

theorem completedLines_cons {x : UInt8} (hx : x ≠ 13) (rest : List UInt8) :
    completedLines (x :: rest) = (completedLines rest).modifyHead (x :: ·) := by
  unfold completedLines List.splitOn
  rw [List.splitOnP_cons_eq_if_modifyHead, if_neg (by simpa using hx), List.modifyHead_dropLast]

theorem lineTexts_empty (bytes : List UInt8) :
    lineTexts [] bytes = (completedLines bytes).map fun l => text (typed [] l) := by
  unfold lineTexts
  split <;> simp_all

theorem lineTexts_cr (line rest : List UInt8) :
    lineTexts line (13 :: rest) = text line :: lineTexts [] rest := by
  rw [lineTexts, completedLines_cr, lineTexts_empty]
  rfl

theorem lineTexts_cons {x : UInt8} (hx : x ≠ 13) (line rest : List UInt8) :
    lineTexts line (x :: rest) = lineTexts (typeByte line x) rest := by
  unfold lineTexts
  rw [completedLines_cons hx]
  cases completedLines rest with
  | nil => rfl
  | cons first others => rfl

theorem run_cr (line rest : List UInt8) (echo : Bool) (b : Bank) :
    run line echo b (13 :: rest) =
      run [] (lineStep (echo, b) (text line)).1 (lineStep (echo, b) (text line)).2 rest := by
  rw [run, lineTexts_cr, List.foldl_cons]
  rfl

theorem run_cons {x : UInt8} (hx : x ≠ 13) (line rest : List UInt8) (echo : Bool) (b : Bank) :
    run line echo b (x :: rest) = run (typeByte line x) echo b rest := by
  rw [run, run, lineTexts_cons hx]

/-- The settings a completed line leaves. -/
theorem lineStep_snd (echo : Bool) (b : Bank) (line : String) :
    (lineStep (echo, b) line).2 =
      if echo then b
      else match Command.parse line with
        | .ok (some cmd) => cmd.applyTo b
        | _ => b := by
  unfold lineStep
  cases echo
  · simp only [Bool.false_eq_true, if_false]
    split <;> rfl
  · rfl

end Session

namespace Terminal

variable (link : SerialLink σ)

@[simp] theorem write_editor (bytes : List UInt8) (t : Terminal) (w : σ) :
    (write link bytes t w).1.editor = t.editor := (editor_write link bytes t w).1

@[simp] theorem write_echoOnly (bytes : List UInt8) (t : Terminal) (w : σ) :
    (write link bytes t w).1.echoOnly = t.echoOnly := (editor_write link bytes t w).2

@[simp] theorem writeText_editor (s : String) (t : Terminal) (w : σ) :
    (writeText link s t w).1.editor = t.editor := write_editor link _ t w

@[simp] theorem writeText_echoOnly (s : String) (t : Terminal) (w : σ) :
    (writeText link s t w).1.echoOnly = t.echoOnly := write_echoOnly link _ t w

@[simp] theorem say_editor (pieces : List String) (t : Terminal) (w : σ) :
    (say link pieces t w).1.editor = t.editor := by
  simp only [say, writeText_editor]

@[simp] theorem say_echoOnly (pieces : List String) (t : Terminal) (w : σ) :
    (say link pieces t w).1.echoOnly = t.echoOnly := by
  simp only [say, writeText_echoOnly]

theorem sayAll_keeps (lines : List (List String)) (t : Terminal) (w : σ) :
    (sayAll link lines t w).1.editor = t.editor ∧ (sayAll link lines t w).1.echoOnly = t.echoOnly := by
  unfold sayAll
  induction lines generalizing t w with
  | nil => exact ⟨rfl, rfl⟩
  | cons l ls ih =>
    simp only [List.foldl_cons]
    obtain ⟨h1, h2⟩ := ih (say link l t w).1 (say link l t w).2
    exact ⟨h1.trans (say_editor link l t w), h2.trans (say_echoOnly link l t w)⟩

@[simp] theorem sayAll_editor (lines : List (List String)) (t : Terminal) (w : σ) :
    (sayAll link lines t w).1.editor = t.editor := (sayAll_keeps link lines t w).1

@[simp] theorem sayAll_echoOnly (lines : List (List String)) (t : Terminal) (w : σ) :
    (sayAll link lines t w).1.echoOnly = t.echoOnly := (sayAll_keeps link lines t w).2

/-- Carrying out a command keeps the line typed so far; only `HA` enters echo-only mode. -/
theorem execute_keeps (cmd : Command) (t : Terminal) (b : Bank) (e : Engine) (w : σ)
    {t' : Terminal} {b' : Bank} {w' : σ} (h : execute link cmd t b e w = .ok (t', b', w')) :
    t'.editor = t.editor ∧ t'.echoOnly = (t.echoOnly || cmd == .echoOnly) := by
  cases cmd with
  | echoOnly => cases h; simp
  | help | state | version | reboot | store | load => simp only [execute] at h; cases h; simp
  | query ch =>
    simp only [execute] at h
    split at h
    · cases h; simp
    · cases h
  | start _ | stop _ | setVoltage _ _ | setTimes _ _ | setDelta _ _ | setRepeatCount _ _ =>
    -- a settings change is acknowledged with `OK` when it is accepted
    simp only [execute, applied] at h
    split at h
    · cases h; simp
    · cases h

/-- A completed line leaves the editor empty and sets the mode as the line-level session does. -/
theorem completeLine_keeps (t : Terminal) (b : Bank) (e : Engine) (w : σ) :
    (completeLine link t b e w).1.editor.buffer = [] ∧
      (completeLine link t b e w).1.echoOnly = (Session.lineStep (t.echoOnly, b) t.editor.line).1 := by
  unfold completeLine
  dsimp only
  split
  · next hecho =>
    -- echo-only: the line is echoed, and a line starting with `H` leaves the mode
    split <;> simp_all [Session.lineStep, LineEditor.clear]
  · next hecho =>
    have hoff : t.echoOnly = false := by simpa using hecho
    have hstep : (Session.lineStep (t.echoOnly, b) t.editor.line).1 =
        match Command.parse t.editor.line with
        | .ok (some cmd) => cmd == .echoOnly
        | _ => false := by
      simp only [Session.lineStep, hoff, Bool.false_eq_true, if_false]
      split <;> rfl
    rw [hstep]
    rcases Command.parse t.editor.line with err | (_ | c)
    · cases err <;> dsimp only <;> split <;> simp [hecho, LineEditor.clear]
    · dsimp only; split <;> simp [hecho, LineEditor.clear]
    · dsimp only
      cases hx : execute link c { t with editor := t.editor.clear } b e w with
      | ok r =>
        obtain ⟨h1, h2⟩ := execute_keeps link c _ b e w hx
        dsimp only
        split <;> simp [h1, h2, hecho, LineEditor.clear]
      | error err =>
        -- `HA` is never refused, so a refused command leaves the mode off
        have hc : c ≠ .echoOnly := by rintro rfl; cases hx
        dsimp only
        split <;> simp [hecho, hc, LineEditor.clear]

end Terminal

namespace LineEditor

/-- The editor stores printable ASCII (32 to 126) and tab (9). -/
theorem isStorable_iff (x : UInt8) :
    isStorable x = true ↔ (32 ≤ x.toNat ∧ x.toNat ≤ 126) ∨ x.toNat = 9 := by
  simp only [isStorable, isGraphic, Bool.or_eq_true, Bool.and_eq_true, decide_eq_true_eq,
    UInt8.le_iff_toNat_le, ← UInt8.toNat_inj]
  simp
  omega

/-- A byte other than carriage return changes the line as the session's `typeByte` says, and
completes nothing. -/
theorem feed_of_ne_cr {x : UInt8} (hx : x ≠ 13) (e : LineEditor) :
    (e.feed x).1.buffer = Session.typeByte e.buffer x ∧ (e.feed x).2 ≠ .complete := by
  have hdel : (x = bs || x = del) = true ↔ x.toNat = 8 ∨ x.toNat = 127 := by
    simp [bs, del, ← UInt8.toNat_inj]
  have hstore := isStorable_iff x
  have hupper : upper x = if 97 ≤ x.toNat ∧ x.toNat ≤ 122 then x - 32 else x := by
    simp [upper, UInt8.le_iff_toNat_le]
  unfold feed Session.typeByte
  rw [if_neg (by simpa [cr] using hx)]
  by_cases h1 : x.toNat = 8 ∨ x.toNat = 127
  · rw [if_pos (hdel.mpr h1), if_pos h1]
    split
    · next he => simp_all
    · exact ⟨rfl, by simp⟩
  · rw [if_neg (by simpa using mt hdel.mp h1), if_neg h1]
    by_cases h2 : (32 ≤ x.toNat ∧ x.toNat ≤ 126) ∨ x.toNat = 9
    · rw [if_pos (hstore.mpr h2), if_pos h2]
      split
      · next hl => rw [if_pos (show e.buffer.length < 64 from hl), hupper]; exact ⟨rfl, by simp⟩
      · next hl => rw [if_neg (show ¬e.buffer.length < 64 from hl)]; exact ⟨rfl, by simp⟩
    · rw [if_neg (by simpa using mt hstore.mp h2), if_neg h2]
      exact ⟨rfl, by simp⟩

end LineEditor

/-- The link with byte `x` waiting in its receiver: a read takes `x` and changes nothing else. -/
def SerialLink.receiving (link : SerialLink σ) (x : UInt8) : SerialLink σ :=
  { link with tryRead := fun w => (.byte x, w) }

namespace Terminal

/-- One poll per byte of a stream, against a fixed engine: the `k`-th poll receives the `k`-th
byte. -/
def pollBytes (link : SerialLink σ) (e : Engine) : List UInt8 → Terminal → Bank → σ → Terminal × Bank × σ
  | [], t, b, w => (t, b, w)
  | x :: rest, t, b, w =>
    let p := t.poll (link.receiving x) b e w
    pollBytes link e rest p.1 p.2.1 p.2.2

variable (link : SerialLink σ)

/-- **A carriage return completes the line** as the line-level session does: the line is empty
again, and the mode and settings are those the session gives for the line typed so far. -/
theorem poll_cr (t : Terminal) (b : Bank) (e : Engine) (w : σ) :
    let p := t.poll (link.receiving 13) b e w
    p.1.editor.buffer = [] ∧
      (p.1.echoOnly, p.2.1) = Session.lineStep (t.echoOnly, b) (Session.text t.editor.buffer) := by
  -- the carriage return is echoed as CR LF, then the line is completed
  let crlf := writeText (link.receiving 13) "\r\n" t w
  have hp : t.poll (link.receiving 13) b e w = completeLine (link.receiving 13) crlf.1 b e crlf.2 := rfl
  obtain ⟨h1, h2⟩ := completeLine_keeps (link.receiving 13) crlf.1 b e crlf.2
  have h3 := bank_completeLine (link.receiving 13) crlf.1 b e crlf.2
  simp only [crlf, writeText_editor, writeText_echoOnly] at h2 h3
  dsimp only
  rw [hp]
  refine ⟨h1, ?_⟩
  rw [h2, h3]
  exact Prod.ext rfl (Session.lineStep_snd _ _ _).symm

/-- **Any other byte only edits the line**, as the session's `typeByte` says. -/
theorem poll_of_ne_cr {x : UInt8} (hx : x ≠ 13) (t : Terminal) (b : Bank) (e : Engine) (w : σ) :
    let p := t.poll (link.receiving x) b e w
    p.1.editor.buffer = Session.typeByte t.editor.buffer x ∧ p.1.echoOnly = t.echoOnly ∧ p.2.1 = b := by
  obtain ⟨hbuf, hev⟩ := LineEditor.feed_of_ne_cr hx t.editor
  unfold poll
  dsimp only [SerialLink.receiving]
  -- the read takes `x`; the editor's verdict is an echo, an erase, a bell or nothing
  generalize t.editor.feed x = fed at hbuf hev ⊢
  obtain ⟨ed, ev⟩ := fed
  cases ev with
  | complete => exact absurd rfl hev
  | echo c | erase | bell | ignored => simp_all

/-- **Polling a stream byte by byte is the line-level session**: after one poll per byte, the
mode and the settings are those the session gives for the completed lines of the stream, the
first continuing the line typed before it. -/
theorem pollBytes_run (e : Engine) (bytes : List UInt8) (t : Terminal) (b : Bank) (w : σ) :
    let p := pollBytes link e bytes t b w
    (p.1.echoOnly, p.2.1) = Session.run t.editor.buffer t.echoOnly b bytes := by
  induction bytes generalizing t b w with
  | nil => rfl
  | cons x rest ih =>
    -- one poll takes `x`; the rest of the stream is polled from the terminal it leaves
    show (let p := pollBytes link e rest _ _ _; (p.1.echoOnly, p.2.1)) = _
    by_cases hx : x = 13
    · subst hx
      obtain ⟨h1, h2⟩ := poll_cr link t b e w
      rw [Session.run_cr, ← h2]
      exact (ih _ _ _).trans (by rw [h1])
    · obtain ⟨h1, h2, h3⟩ := poll_of_ne_cr link hx t b e w
      rw [Session.run_cons hx]
      exact (ih _ _ _).trans (by rw [h1, h2, h3])

end Terminal

/-- **The settings follow the completed lines of the input.** A terminal fed a byte stream one
byte per poll, from a fresh start and against a fixed engine, leaves the settings that the
line-level session gives: the stream split at carriage returns, each completed line typed from
empty, and the lines carried out in order from echo-only mode off. -/
theorem stream_settings (link : SerialLink σ) (e : Engine) (b : Bank) (w : σ)
    (bytes : List UInt8) :
    (Terminal.pollBytes link e bytes {} b w).2.1 =
      (((Session.completedLines bytes).map fun l => Session.text (Session.typed [] l)).foldl
        Session.lineStep (false, b)).2 := by
  rw [← Session.lineTexts_empty]
  exact congrArg Prod.snd (Terminal.pollBytes_run link e bytes {} b w)

end Stimulator
