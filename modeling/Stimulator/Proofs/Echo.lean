import Stimulator.Proofs.Session
import Stimulator.Proofs.Output
import Stimulator.Bench.TerminalBench

/-!
# What the operator's screen shows

The editor stores a typed line upper-cased, while the terminal echoes each byte as it was typed,
wipes a character with backspace, space, backspace, and rings the bell when there is nothing to
take back or no room. This module replays the echo on a model of the screen row after the prompt
(`Display.replay`) and shows that, as long as the transmitter drops nothing, the row and the line
never drift apart.

* `Display.replay` : a printable byte or a tab takes one more cell, backspace-space-backspace wipes
  the last cell, the bell changes nothing; a wipe of an empty row, or any other byte, fails;
  `Display.replay_append` : a replay that succeeds consumes whole pieces of output;
* `LineEvent.feedback` : the bytes written back for each verdict of the editor;
* `LineEditor.replay_feedback` : one byte keeps the row, upper-cased, equal to the line;
* `Terminal.poll_feedback`, `Terminal.shows_pollBytes` : a poll writes exactly that feedback, and
  so a stream of polls keeps the row and the line together;
* `echo_shows_line` : since the last carriage return, the echo written replays to a row that,
  upper-cased, is the line the editor holds.
-/

namespace Stimulator

namespace Display

/-- A byte that takes a cell of its own: printable ASCII, space included, and tab. -/
def isCell (x : UInt8) : Bool := (32 ≤ x.toNat && x.toNat ≤ 126) || x.toNat = 9

/-- Replay bytes written to the screen on the cells of the row after the prompt: a printable byte
or a tab takes one more cell, backspace-space-backspace wipes the last cell and the bell changes
nothing. A wipe with no cell left would eat into the prompt, and no other byte belongs to a typed
row: the replay fails on both. -/
def replay : List UInt8 → List UInt8 → Option (List UInt8)
  | cells, [] => some cells
  | cells, x :: rest =>
    if isCell x then replay (cells ++ [x]) rest
    else if x = 7 then replay cells rest
    else match rest with
      | [] => none
      | [_] => none
      | y :: z :: more =>
        if x = 8 ∧ y = 32 ∧ z = 8 ∧ cells ≠ [] then replay cells.dropLast more else none

theorem isCell_iff (x : UInt8) :
    isCell x = true ↔ (32 ≤ x.toNat ∧ x.toNat ≤ 126) ∨ x.toNat = 9 := by
  simp [isCell]

@[simp] theorem replay_nil (cells : List UInt8) : replay cells [] = some cells := by
  rw [replay]

theorem replay_cell {x : UInt8} (hx : isCell x = true) (cells rest : List UInt8) :
    replay cells (x :: rest) = replay (cells ++ [x]) rest := by
  rw [replay.eq_def]
  exact if_pos hx

@[simp] theorem replay_bell (cells rest : List UInt8) :
    replay cells (7 :: rest) = replay cells rest := by
  rw [replay.eq_def]
  dsimp only
  rw [if_neg (by decide), if_pos rfl]

theorem replay_wipe {cells : List UInt8} (hc : cells ≠ []) (rest : List UInt8) :
    replay cells (8 :: 32 :: 8 :: rest) = replay cells.dropLast rest := by
  rw [replay.eq_def]
  dsimp only
  rw [if_neg (by decide), if_neg (by decide)]
  exact if_pos ⟨rfl, rfl, rfl, hc⟩

/-- A replay that succeeds has read its bytes as whole cells, wipes and bells, so more output
goes on from the row it left. -/
theorem replay_append {cells cells' xs : List UInt8} (h : replay cells xs = some cells')
    (ys : List UInt8) : replay cells (xs ++ ys) = replay cells' ys := by
  fun_induction replay cells xs with
  | case1 cells => cases h; rfl
  | case2 cells x rest hx ih => rw [List.cons_append, replay_cell hx]; exact ih h
  | case3 cells rest _ ih => rw [List.cons_append, replay_bell]; exact ih h
  | case4 | case5 | case7 => cases h
  | case6 cells x y z more _ _ hwipe ih =>
    obtain ⟨rfl, rfl, rfl, hc⟩ := hwipe
    rw [List.cons_append, List.cons_append, List.cons_append, replay_wipe hc]
    exact ih h

-- The bell, `vx`, a wipe, then `e`: the row shows `ve`.
example : replay [] [7, 118, 120, 8, 32, 8, 101] = some [118, 101] := by decide

end Display

namespace LineEvent

/-- The bytes the terminal writes back for the editor's verdict on a byte: the byte as typed, a
wipe of the last character, the bell, or nothing. A completed line is answered by the line's own
output instead. -/
def feedback : LineEvent → List UInt8
  | .echo c => [c]
  | .erase => [8, 32, 8]
  | .bell => [7]
  | .ignored => []
  | .complete => []

end LineEvent

namespace LineEditor

/-- **The row keeps up with the editor.** When the row's cells, upper-cased, are the line, the
feedback for any byte other than carriage return replays to cells that, upper-cased, are the new
line. -/
theorem replay_feedback {x : UInt8} (hx : x ≠ 13) (ed : LineEditor) {cells : List UInt8}
    (hc : cells.map upper = ed.buffer) :
    ∃ cells', Display.replay cells (ed.feed x).2.feedback = some cells' ∧
      cells'.map upper = (ed.feed x).1.buffer := by
  unfold feed
  rw [if_neg (by simpa [cr] using hx)]
  split
  · -- backspace or delete: a wipe when the line has a character to take back, else the bell
    split
    · exact ⟨cells, by simp [LineEvent.feedback], hc⟩
    · next hne =>
      have hcells : cells ≠ [] := by rintro rfl; simp_all
      refine ⟨cells.dropLast, ?_, by rw [List.map_dropLast, hc]⟩
      rw [LineEvent.feedback, Display.replay_wipe hcells, Display.replay_nil]
  · split
    · next hs =>
      -- the row takes the byte as typed exactly when the line takes it upper-cased
      have hcell : Display.isCell x = true :=
        (Display.isCell_iff x).mpr ((isStorable_iff x).mp hs)
      split
      · refine ⟨cells ++ [x], ?_, by rw [List.map_append, hc]; rfl⟩
        rw [LineEvent.feedback, Display.replay_cell hcell, Display.replay_nil]
      · exact ⟨cells, by simp [LineEvent.feedback], hc⟩
    · exact ⟨cells, by simp [LineEvent.feedback], hc⟩

end LineEditor

variable {σ : Type}

namespace Terminal

/-- A poll that receives a byte other than carriage return hands it to the editor and writes back
the editor's feedback, in calls of their own, and nothing else. -/
theorem poll_feedback {x : UInt8} (hx : x ≠ 13) (link : SerialLink σ) (t : Terminal) (b : Bank)
    (e : Engine) (w : σ × List WriteCall) :
    let p := t.poll (link.recorded.receiving x) b e w
    p.1.editor = (t.editor.feed x).1 ∧
      ∃ calls, p.2.2.2 = w.2 ++ calls ∧
        calls.flatMap WriteCall.bytes = (t.editor.feed x).2.feedback := by
  have hev := (LineEditor.feed_of_ne_cr hx t.editor).2
  unfold poll
  dsimp only [SerialLink.receiving]
  generalize t.editor.feed x = fed at hev ⊢
  obtain ⟨ed, ev⟩ := fed
  cases ev with
  | echo c => exact ⟨write_editor _ _ _ _, [_], rfl, rfl⟩
  | erase => exact ⟨write_editor _ _ _ _, [_], rfl, rfl⟩
  | bell => exact ⟨write_editor _ _ _ _, [_], rfl, rfl⟩
  | ignored => exact ⟨rfl, [], (List.append_nil _).symm, rfl⟩
  | complete => exact absurd rfl hev

/-- The row replayed from `start` over the bytes the recorded calls asked to write, upper-cased,
is the line the editor holds. -/
def Shows (start : List UInt8) (t : Terminal) (log : List WriteCall) : Prop :=
  ∃ cells, Display.replay start (log.flatMap WriteCall.bytes) = some cells ∧
    cells.map LineEditor.upper = t.editor.buffer

theorem shows_poll {x : UInt8} (hx : x ≠ 13) (link : SerialLink σ) {start : List UInt8}
    {t : Terminal} (b : Bank) (e : Engine) {w : σ × List WriteCall} (h : Shows start t w.2) :
    Shows start (t.poll (link.recorded.receiving x) b e w).1
      (t.poll (link.recorded.receiving x) b e w).2.2.2 := by
  obtain ⟨cells, hreplay, hcells⟩ := h
  obtain ⟨hed, calls, hlog, hcalls⟩ := poll_feedback hx link t b e w
  obtain ⟨cells', hreplay', hcells'⟩ := LineEditor.replay_feedback hx t.editor hcells
  refine ⟨cells', ?_, by rw [hed, hcells']⟩
  rw [hlog, List.flatMap_append, hcalls, Display.replay_append hreplay, hreplay']

/-- Over a stream with no carriage return, the row and the line stay together poll after poll. -/
theorem shows_pollBytes (link : SerialLink σ) (e : Engine) {start bytes : List UInt8}
    (hcr : 13 ∉ bytes) {t : Terminal} (b : Bank) {w : σ × List WriteCall} (h : Shows start t w.2) :
    Shows start (pollBytes link.recorded e bytes t b w).1
      (pollBytes link.recorded e bytes t b w).2.2.2 := by
  induction bytes generalizing t b w with
  | nil => exact h
  | cons x rest ih =>
    have hx : x ≠ 13 := fun hx => hcr (hx ▸ List.mem_cons_self)
    exact ih (fun hr => hcr (List.mem_cons_of_mem x hr)) _ (shows_poll hx link b e h)

end Terminal

/-- When no call lost a byte, the bytes queued are the bytes asked. -/
theorem WriteCall.flatMap_taken {log : List WriteCall} (h : log.flatMap WriteCall.lost = []) :
    log.flatMap WriteCall.taken = log.flatMap WriteCall.bytes := by
  induction log with
  | nil => rfl
  | cons c log ih =>
    rw [List.flatMap_cons, List.append_eq_nil_iff] at h
    have hc : c.taken = c.bytes := by
      have hsplit := List.take_append_drop c.queued c.bytes
      rw [← WriteCall.taken, ← WriteCall.lost, h.1, List.append_nil] at hsplit
      exact hsplit
    rw [List.flatMap_cons, List.flatMap_cons, hc, ih h.2]

/-- **The screen shows the line.** From a terminal whose line is empty, as after a carriage return
or at start-up, feed bytes with no carriage return one per poll. If the transmitter drops none of
what the terminal writes, the bytes it queued replay on the row after the prompt without a wipe of
an empty row or a stray byte, and the row, upper-cased, is the line the editor holds
(`LineEditor.line` is that line as text): no echoed character is missing from it. -/
theorem echo_shows_line (link : SerialLink σ) (e : Engine) (b : Bank) (w : σ) (t : Terminal)
    (bytes : List UInt8) (hline : t.editor.buffer = []) (hcr : 13 ∉ bytes) :
    let p := Terminal.pollBytes link.recorded e bytes t b (w, [])
    p.2.2.2.flatMap WriteCall.lost = [] →
      ∃ cells, Display.replay [] (p.2.2.2.flatMap WriteCall.taken) = some cells ∧
        cells.map LineEditor.upper = p.1.editor.buffer := by
  intro p hkept
  have hstart : Terminal.Shows [] t [] := ⟨[], rfl, hline.symm⟩
  rw [WriteCall.flatMap_taken hkept]
  exact Terminal.shows_pollBytes link e hcr b hstart

/-- Backspace on an empty line, `vx`, backspace, `e` on the bench's UART: nothing is dropped, and
the row shows `ve` where the line holds `VE`. -/
theorem echo_shows_line_backspace :
    let p := Terminal.pollBytes (SerialLink.recorded Bench.TermBench.link) (Engine.new 2)
      [8, 118, 120, 8, 101] {} (Bank.uniform 2) (({} : Bench.TermBench), [])
    ({} : Terminal).editor.buffer = [] ∧ 13 ∉ [8, 118, 120, 8, 101] ∧
      p.2.2.2.flatMap WriteCall.lost = [] ∧
      ∃ cells, Display.replay [] (p.2.2.2.flatMap WriteCall.taken) = some cells ∧
        cells.map LineEditor.upper = p.1.editor.buffer := by
  intro p
  have hkept : p.2.2.2.flatMap WriteCall.lost = [] := by decide +kernel
  exact ⟨rfl, by decide, hkept, echo_shows_line _ _ _ _ _ _ rfl (by decide) hkept⟩

end Stimulator
