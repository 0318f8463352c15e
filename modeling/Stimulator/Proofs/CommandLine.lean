import Stimulator.Proofs.Lexical
import Mathlib.Data.List.Forall2

/-!
# Command lines: what the parser accepts and how it refuses

Each command is its two-letter mnemonic followed by its arguments, each read from one token by a
reader of the argument's kind (`word`, `byte`, `channel`, `select`, `accessCheck`). Both results
are stated over the lexical notions of `Stimulator.Proofs.Lexical`, not over the parser.

* `Command.Rendering cmd line` : `line` spells `cmd` — its mnemonic with any suffix, a numeral
  (or `A`) for each argument in order, any further tokens, any separators;
  `Command.parse_rendering` : every such line of a command whose numbers fit their fields
  parses as that command;
* `Command.slotsOf` : the argument slots of each mnemonic; `Command.Slot.Rejects` : the error a
  slot gives for a token it does not take; `Command.FirstFailure` : the error of the first
  failing slot, left to right;
  `Command.parse_outcome` : a line gives no command exactly when its first token has no
  mnemonic, and is refused with `e` exactly when the mnemonic is unknown (`unknownCommand`) or
  its first failing slot gives `e`.
-/

namespace Stimulator.Command

/-! ## Readers -/

section Readers

variable {α β : Type}

theorem run_bind_ok {x : Args α} {f : α → Args β} {s s' : List (List Char)} {a : α}
    (h : x.run s = .ok (a, s')) : (x >>= f).run s = (f a).run s' := by
  rw [StateT.run_bind, h]
  rfl

theorem run_bind_error {x : Args α} {f : α → Args β} {s : List (List Char)} {e : CommandError}
    (h : x.run s = .error e) : (x >>= f).run s = .error e := by
  rw [StateT.run_bind, h]
  rfl

end Readers

theorem toNat_ofNat16 {n : Nat} (hn : n < 65536) : (UInt16.ofNat n).toNat = n := by
  rw [UInt16.toNat_ofNat']
  exact Nat.mod_eq_of_lt hn

theorem next_run (tok : List Char) (toks : List (List Char)) : next.run (tok :: toks) = .ok (tok, toks) :=
  rfl

theorem word_run_eq (tok : List Char) (toks : List (List Char)) :
    word.run (tok :: toks) = match decimal? tok with
      | some v => .ok (UInt16.ofNat v, toks)
      | none => .error .invalidNumber := by
  unfold word
  rw [run_bind_ok (next_run tok toks)]
  cases decimal? tok <;> rfl

theorem byte_run_eq (tok : List Char) (toks : List (List Char)) :
    byte.run (tok :: toks) = match decimal? tok with
      | some v => if v < 256 then .ok (UInt8.ofNat v, toks) else .error .parameterOutOfBounds
      | none => .error .invalidNumber := by
  unfold byte
  cases hdec : decimal? tok with
  | none => exact run_bind_error (by rw [word_run_eq, hdec])
  | some v =>
    rw [run_bind_ok (by rw [word_run_eq, hdec])]
    simp only [toNat_ofNat16 (decimal?_eq_some_iff.mp hdec).2]
    split <;> rfl

theorem select_run_eq (tok : List Char) (toks : List (List Char)) :
    select.run (tok :: toks) =
      if tok = ['A'] then .ok (.all, toks)
      else match decimal? tok with
        | some v => .ok (.one v, toks)
        | none => .error .invalidNumber := by
  unfold select
  rw [run_bind_ok (next_run tok toks)]
  split
  · rfl
  · cases decimal? tok <;> rfl

theorem accessCheck_run_eq (tok : List Char) (toks : List (List Char)) :
    accessCheck.run (tok :: toks) = match hex? tok with
      | some v => if v = accessCode then .ok ((), toks) else .error .accessDenied
      | none => .error .invalidNumber := by
  unfold accessCheck
  rw [run_bind_ok (next_run tok toks)]
  cases hex? tok with
  | none => rfl
  | some v =>
    dsimp only
    split <;> rfl

/-! ## Spelling a command -/

/-- An argument as the operator types it: a decimal number, a channel selection, or a
hexadecimal code. -/
inductive Arg where
  | num (n : Nat)
  | sel (s : Select)
  | code (n : Nat)

/-- The tokens that spell an argument: a decimal numeral, `A` for every channel, a hexadecimal
numeral. -/
def Arg.Spells : Arg → List Char → Prop
  | .num n, tok => Numeral 10 n tok
  | .sel .all, tok => tok = ['A']
  | .sel (.one n), tok => Numeral 10 n tok
  | .code n, tok => Numeral 16 n tok

/-- Within what a command line can hold: 16-bit decimal numbers and a 32-bit code. -/
def Arg.InRange : Arg → Prop
  | .num n => n < 65536
  | .sel .all => True
  | .sel (.one n) => n < 65536
  | .code n => n < 4294967296

/-- The two letters that name a command. -/
def mnemonic : Command → List Char
  | .help => ['H', 'E']
  | .version => ['V', 'E']
  | .reboot => ['B', 'O']
  | .echoOnly => ['H', 'A']
  | .state => ['S', 'T']
  | .start _ => ['G', 'O']
  | .stop _ => ['S', 'P']
  | .setVoltage _ _ => ['V', 'O']
  | .setTimes _ _ => ['T', 'I']
  | .setDelta _ _ => ['D', 'E']
  | .setRepeatCount _ _ => ['R', 'C']
  | .query _ => ['Q', 'S']
  | .store => ['S', 'S']
  | .load => ['L', 'S']

/-- The arguments of a command, in the order they are typed; a reboot carries the access code. -/
def args : Command → List Arg
  | .help => []
  | .version => []
  | .reboot => [.code accessCode]
  | .echoOnly => []
  | .state => []
  | .start sel => [.sel sel]
  | .stop sel => [.sel sel]
  | .setVoltage c v => [.num c, .num v.positive.toNat, .num v.negative.toNat]
  | .setTimes c t => [.num c, .num t.preWait.toNat, .num t.positive.toNat, .num t.interphase.toNat,
      .num t.negative.toNat, .num t.period.toNat]
  | .setDelta c d => [.num c, .num d.step.toNat, .num d.pulsesPerStep.toNat, .num d.maxSteps.toNat]
  | .setRepeatCount c n => [.num c, .num n.toNat]
  | .query c => [.num c]
  | .store => []
  | .load => []

/-- `line` spells `cmd`: its mnemonic with any suffix, then a token for each of its arguments in
order, then any further tokens, spaced by separators. -/
def Rendering (cmd : Command) (line : String) : Prop :=
  ∃ suffix argToks extra, List.Forall₂ Arg.Spells cmd.args argToks ∧
    Spaced ((cmd.mnemonic ++ suffix) :: (argToks ++ extra)) line.toList


theorem word_run {n : Nat} {tok : List Char} (h : Numeral 10 n tok) (hn : n < 65536)
    (toks : List (List Char)) : word.run (tok :: toks) = .ok (UInt16.ofNat n, toks) := by
  rw [word_run_eq, decimal?_eq_some_iff.mpr ⟨h, hn⟩]

theorem channel_run {n : Nat} {tok : List Char} (h : Numeral 10 n tok) (hn : n < 65536)
    (toks : List (List Char)) : channel.run (tok :: toks) = .ok (n, toks) := by
  unfold channel
  rw [run_bind_ok (word_run h hn toks)]
  show Except.ok ((UInt16.ofNat n).toNat, toks) = _
  rw [toNat_ofNat16 hn]

theorem byte_run {n : Nat} {tok : List Char} (h : Numeral 10 n tok) (hn : n < 256)
    (toks : List (List Char)) : byte.run (tok :: toks) = .ok (UInt8.ofNat n, toks) := by
  rw [byte_run_eq, decimal?_eq_some_iff.mpr ⟨h, by omega⟩]
  exact if_pos hn

theorem select_run_one {n : Nat} {tok : List Char} (h : Numeral 10 n tok) (hn : n < 65536)
    (toks : List (List Char)) : select.run (tok :: toks) = .ok (.one n, toks) := by
  have hdec : decimal? tok = some n := decimal?_eq_some_iff.mpr ⟨h, hn⟩
  -- a number is never the letter `A`
  have hA : tok ≠ ['A'] := by
    rintro rfl
    have hnone : decimal? ['A'] = none := by decide
    rw [hnone] at hdec
    cases hdec
  rw [select_run_eq, if_neg hA, hdec]

theorem accessCheck_run {tok : List Char} (h : Numeral 16 accessCode tok) (toks : List (List Char)) :
    accessCheck.run (tok :: toks) = .ok ((), toks) := by
  rw [accessCheck_run_eq, hex?_eq_some_iff.mpr ⟨h, by decide⟩]
  exact if_pos rfl

theorem ofMnemonic_run {cmd : Command} {argToks : List (List Char)}
    (hrange : ∀ a ∈ cmd.args, a.InRange) (hargs : List.Forall₂ Arg.Spells cmd.args argToks)
    (extra : List (List Char)) :
    (ofMnemonic cmd.mnemonic).run (argToks ++ extra) = .ok (cmd, extra) := by
  cases cmd with
  | help | version | echoOnly | state | store | load => cases hargs; rfl
  | reboot =>
    rcases hargs with _ | ⟨h₁, _ | _⟩
    exact run_bind_ok (accessCheck_run h₁ extra)
  | start sel | stop sel =>
    rcases hargs with _ | ⟨h₁, _ | _⟩
    cases sel with
    | all =>
      rw [show _ = ['A'] from h₁]
      rfl
    | one n =>
      have hn : n < 65536 := hrange (.sel (.one n)) (by simp [args])
      exact run_bind_ok (select_run_one h₁ hn extra)
  | setVoltage c v =>
    rcases hargs with _ | ⟨h₁, _ | ⟨h₂, _ | ⟨h₃, _ | _⟩⟩⟩
    have hc : c < 65536 := hrange (.num c) (by simp [args])
    simp only [mnemonic, ofMnemonic, List.cons_append, List.nil_append]
    rw [run_bind_ok (channel_run h₁ hc _), run_bind_ok (byte_run h₂ v.positive.toNat_lt _),
      run_bind_ok (byte_run h₃ v.negative.toNat_lt _)]
    simp only [UInt8.ofNat_toNat]
    rfl
  | setTimes c t =>
    rcases hargs with _ | ⟨h₁, _ | ⟨h₂, _ | ⟨h₃, _ | ⟨h₄, _ | ⟨h₅, _ | ⟨h₆, _ | _⟩⟩⟩⟩⟩⟩
    have hc : c < 65536 := hrange (.num c) (by simp [args])
    simp only [mnemonic, ofMnemonic, List.cons_append, List.nil_append]
    rw [run_bind_ok (channel_run h₁ hc _), run_bind_ok (word_run h₂ t.preWait.toNat_lt _),
      run_bind_ok (word_run h₃ t.positive.toNat_lt _), run_bind_ok (word_run h₄ t.interphase.toNat_lt _),
      run_bind_ok (word_run h₅ t.negative.toNat_lt _), run_bind_ok (word_run h₆ t.period.toNat_lt _)]
    simp only [UInt16.ofNat_toNat]
    rfl
  | setDelta c d =>
    rcases hargs with _ | ⟨h₁, _ | ⟨h₂, _ | ⟨h₃, _ | ⟨h₄, _ | _⟩⟩⟩⟩
    have hc : c < 65536 := hrange (.num c) (by simp [args])
    simp only [mnemonic, ofMnemonic, List.cons_append, List.nil_append]
    rw [run_bind_ok (channel_run h₁ hc _), run_bind_ok (word_run h₂ d.step.toNat_lt _),
      run_bind_ok (word_run h₃ d.pulsesPerStep.toNat_lt _), run_bind_ok (word_run h₄ d.maxSteps.toNat_lt _)]
    simp only [UInt16.ofNat_toNat]
    rfl
  | setRepeatCount c n =>
    rcases hargs with _ | ⟨h₁, _ | ⟨h₂, _ | _⟩⟩
    have hc : c < 65536 := hrange (.num c) (by simp [args])
    simp only [mnemonic, ofMnemonic, List.cons_append, List.nil_append]
    rw [run_bind_ok (channel_run h₁ hc _), run_bind_ok (word_run h₂ n.toNat_lt _)]
    simp only [UInt16.ofNat_toNat]
    rfl
  | query c =>
    rcases hargs with _ | ⟨h₁, _ | _⟩
    have hc : c < 65536 := hrange (.num c) (by simp [args])
    exact run_bind_ok (channel_run h₁ hc extra)

/-- Every spelling of a command whose numbers fit their fields reads back as that command:
any suffix on the mnemonic, any separators, numerals with a sign or leading zeros, the access
code in either case, and extra tokens at the end. -/
theorem parse_rendering {cmd : Command} {line : String} (hrange : ∀ a ∈ cmd.args, a.InRange)
    (h : cmd.Rendering line) : parse line = .ok (some cmd) := by
  obtain ⟨suffix, argToks, extra, hargs, hspaced⟩ := h
  have hkey : mnemonicKey (cmd.mnemonic ++ suffix) = some cmd.mnemonic := by
    cases cmd <;> rfl
  unfold parse
  rw [hspaced.tokens_eq]
  simp only [hkey, StateT.run'_eq, ofMnemonic_run hrange hargs extra]
  rfl

/-- A command line with a suffix on the mnemonic, a sign, leading zeros, mixed separators and a
trailing token reads as the command it spells. -/
theorem parse_rendering_times :
    (∀ a ∈ (Command.setTimes 3 ⟨1, 2, 3, 4, 5⟩).args, a.InRange) ∧
      (Command.setTimes 3 ⟨1, 2, 3, 4, 5⟩).Rendering " TIMES:+03,0001 2\t3,, 4:5 Z" ∧
      parse " TIMES:+03,0001 2\t3,, 4:5 Z" = .ok (some (.setTimes 3 ⟨1, 2, 3, 4, 5⟩)) := by
  have hrange : ∀ a ∈ (Command.setTimes 3 ⟨1, 2, 3, 4, 5⟩).args, a.InRange := by
    simp [args, Arg.InRange]
  have hrender : (Command.setTimes 3 ⟨1, 2, 3, 4, 5⟩).Rendering " TIMES:+03,0001 2\t3,, 4:5 Z" :=
    ⟨['M', 'E', 'S'], [['+', '0', '3'], ['0', '0', '0', '1'], ['2'], ['3'], ['4'], ['5']], [['Z']],
      .cons ⟨['+'], 1, ['3'], .inr rfl, rfl, rfl⟩ <| .cons ⟨[], 3, ['1'], .inl rfl, rfl, rfl⟩ <|
        .cons ⟨[], 0, ['2'], .inl rfl, rfl, rfl⟩ <| .cons ⟨[], 0, ['3'], .inl rfl, rfl, rfl⟩ <|
        .cons ⟨[], 0, ['4'], .inl rfl, rfl, rfl⟩ <| .cons ⟨[], 0, ['5'], .inl rfl, rfl, rfl⟩ .nil,
      spaced_iff_tokens.mpr (by decide)⟩
  exact ⟨hrange, hrender, parse_rendering hrange hrender⟩

/-! ## Refusals -/

/-- What an argument slot takes: a 16-bit decimal word, an amplitude byte, a channel selection,
or the reboot access code. -/
inductive Slot where
  | word
  | byte
  | select
  | code

/-- The argument slots of the command a mnemonic names, in order; `none` for a mnemonic that
names no command. -/
def slotsOf : List Char → Option (List Slot)
  | ['H', 'E'] => some []
  | ['V', 'E'] => some []
  | ['B', 'O'] => some [.code]
  | ['H', 'A'] => some []
  | ['S', 'T'] => some []
  | ['G', 'O'] => some [.select]
  | ['S', 'P'] => some [.select]
  | ['V', 'O'] => some [.word, .byte, .byte]
  | ['T', 'I'] => some [.word, .word, .word, .word, .word, .word]
  | ['D', 'E'] => some [.word, .word, .word, .word]
  | ['R', 'C'] => some [.word, .word]
  | ['Q', 'S'] => some [.word]
  | ['S', 'S'] => some []
  | ['L', 'S'] => some []
  | _ => none

/-- `tok` is the number `n` of a field of `bound` values, written in base `radix`. -/
def NumeralBelow (radix bound n : Nat) (tok : List Char) : Prop := n < bound ∧ Numeral radix n tok

/-- The error a slot gives for a token it does not take: not a number of its field, an amplitude
above 255, or an access code that is a number but not the right one. -/
def Slot.Rejects : Slot → List Char → CommandError → Prop
  | .word, tok, e => e = .invalidNumber ∧ ¬∃ n, NumeralBelow 10 65536 n tok
  | .byte, tok, e => (e = .invalidNumber ∧ ¬∃ n, NumeralBelow 10 65536 n tok) ∨
      (e = .parameterOutOfBounds ∧ ∃ n, NumeralBelow 10 65536 n tok ∧ 255 < n)
  | .select, tok, e => e = .invalidNumber ∧ tok ≠ ['A'] ∧ ¬∃ n, NumeralBelow 10 65536 n tok
  | .code, tok, e => (e = .invalidNumber ∧ ¬∃ n, NumeralBelow 16 4294967296 n tok) ∨
      (e = .accessDenied ∧ ∃ n, NumeralBelow 16 4294967296 n tok ∧ n ≠ accessCode)

/-- Taking the slots left to right over the tokens, the first slot that fails gives `e`: it has
no token left, or it rejects its token. -/
inductive FirstFailure : List Slot → List (List Char) → CommandError → Prop
  | missing {s : Slot} {slots : List Slot} : FirstFailure (s :: slots) [] .parameterMissing
  | rejects {s : Slot} {slots : List Slot} {tok : List Char} {toks : List (List Char)}
      {e : CommandError} : s.Rejects tok e → FirstFailure (s :: slots) (tok :: toks) e
  | takes {s : Slot} {slots : List Slot} {tok : List Char} {toks : List (List Char)}
      {e : CommandError} : (∀ e', ¬s.Rejects tok e') → FirstFailure slots toks e →
      FirstFailure (s :: slots) (tok :: toks) e

section Slots

variable {α β : Type}

/-- `r` reads one token as slot `s`: it fails on a missing token, fails with `e` exactly when the
slot rejects the token with `e`, and otherwise takes just that token. -/
structure ReadsAs (s : Slot) (r : Args α) : Prop where
  missing : r.run [] = .error .parameterMissing
  rejects : ∀ tok toks e, r.run (tok :: toks) = .error e ↔ s.Rejects tok e
  takes : ∀ tok toks a rest, r.run (tok :: toks) = .ok (a, rest) → rest = toks

/-- `r` fails, over any tokens, with the error of the first failing slot of `slots`. -/
def FailsAs (slots : List Slot) (r : Args α) : Prop :=
  ∀ toks e, r.run toks = .error e ↔ FirstFailure slots toks e

theorem failsAs_pure (a : α) : FailsAs [] (pure a : Args α) := by
  intro toks e
  constructor
  · intro h
    cases h
  · intro h
    cases h

theorem ReadsAs.bind {s : Slot} {slots : List Slot} {r : Args α} {f : α → Args β}
    (hr : ReadsAs s r) (hf : ∀ a, FailsAs slots (f a)) : FailsAs (s :: slots) (r >>= f) := by
  intro toks e
  cases toks with
  | nil =>
    rw [run_bind_error hr.missing]
    constructor
    · rintro ⟨⟩
      exact .missing
    · rintro ⟨⟩
      rfl
  | cons tok toks =>
    cases hrun : r.run (tok :: toks) with
    | error e₀ =>
      -- the slot rejects its token: that is the error
      rw [run_bind_error hrun]
      have hrej : s.Rejects tok e₀ := (hr.rejects tok toks e₀).mp hrun
      constructor
      · rintro ⟨⟩
        exact .rejects hrej
      · intro h
        cases h with
        | rejects h => rw [Except.error.inj (hrun.symm.trans ((hr.rejects tok toks e).mpr h))]
        | takes htakes _ => exact absurd hrej (htakes e₀)
    | ok p =>
      -- the slot takes its token: the rest of the slots decide
      obtain ⟨a, rest⟩ := p
      rw [hr.takes tok toks a rest hrun] at hrun
      have htakes : ∀ e', ¬s.Rejects tok e' := fun e' h => by
        rw [← hr.rejects tok toks e', hrun] at h
        cases h
      rw [run_bind_ok hrun, hf a]
      constructor
      · exact FirstFailure.takes htakes
      · intro h
        cases h with
        | rejects h => exact absurd h (htakes e)
        | takes _ h => exact h

theorem ReadsAs.map {s : Slot} {r : Args α} (hr : ReadsAs s r) (g : α → β) :
    ReadsAs s (r >>= fun a => pure (g a)) where
  missing := run_bind_error hr.missing
  rejects tok toks e := by
    cases hrun : r.run (tok :: toks) with
    | error e₀ =>
      rw [run_bind_error hrun, ← hr.rejects, hrun]
      simp only [Except.error.injEq]
    | ok p =>
      rw [run_bind_ok hrun, ← hr.rejects, hrun]
      constructor <;> intro h <;> cases h
  takes tok toks a rest h := by
    cases hrun : r.run (tok :: toks) with
    | error e₀ =>
      rw [run_bind_error hrun] at h
      cases h
    | ok p =>
      rw [run_bind_ok hrun] at h
      cases h
      exact hr.takes tok toks _ _ hrun

end Slots

theorem numeralBelow_decimal_iff {n : Nat} {tok : List Char} :
    NumeralBelow 10 65536 n tok ↔ decimal? tok = some n := by
  rw [NumeralBelow, decimal?_eq_some_iff, and_comm]

theorem numeralBelow_hex_iff {n : Nat} {tok : List Char} :
    NumeralBelow 16 4294967296 n tok ↔ hex? tok = some n := by
  rw [NumeralBelow, hex?_eq_some_iff, and_comm]

theorem readsAs_word : ReadsAs .word word where
  missing := run_bind_error rfl
  rejects tok toks e := by
    rw [word_run_eq]
    cases hdec : decimal? tok with
    | none => simp [Slot.Rejects, numeralBelow_decimal_iff, hdec, eq_comm]
    | some v => simp [Slot.Rejects, numeralBelow_decimal_iff, hdec]
  takes tok toks a rest h := by
    rw [word_run_eq] at h
    cases hdec : decimal? tok with
    | none => simp [hdec] at h
    | some v =>
      simp only [hdec, Except.ok.injEq, Prod.mk.injEq] at h
      exact h.2.symm

theorem readsAs_channel : ReadsAs .word channel :=
  readsAs_word.map UInt16.toNat

theorem readsAs_byte : ReadsAs .byte byte where
  missing := run_bind_error readsAs_word.missing
  rejects tok toks e := by
    rw [byte_run_eq]
    cases hdec : decimal? tok with
    | none => simp [Slot.Rejects, numeralBelow_decimal_iff, hdec, eq_comm]
    | some v =>
      by_cases hv : v < 256
      · simp [Slot.Rejects, numeralBelow_decimal_iff, hdec, hv]
        omega
      · simp [Slot.Rejects, numeralBelow_decimal_iff, hdec, hv, eq_comm]
        omega
  takes tok toks a rest h := by
    rw [byte_run_eq] at h
    cases hdec : decimal? tok with
    | none => simp [hdec] at h
    | some v =>
      simp only [hdec] at h
      split at h
      · simp only [Except.ok.injEq, Prod.mk.injEq] at h
        exact h.2.symm
      · cases h

theorem readsAs_select : ReadsAs .select select where
  missing := run_bind_error rfl
  rejects tok toks e := by
    rw [select_run_eq]
    by_cases hA : tok = ['A']
    · simp [Slot.Rejects, hA]
    · cases hdec : decimal? tok with
      | none => simp [Slot.Rejects, numeralBelow_decimal_iff, hA, hdec, eq_comm]
      | some v => simp [Slot.Rejects, numeralBelow_decimal_iff, hA, hdec]
  takes tok toks a rest h := by
    rw [select_run_eq] at h
    split at h
    · simp only [Except.ok.injEq, Prod.mk.injEq] at h
      exact h.2.symm
    · cases hdec : decimal? tok with
      | none => simp [hdec] at h
      | some v =>
        simp only [hdec, Except.ok.injEq, Prod.mk.injEq] at h
        exact h.2.symm

theorem readsAs_accessCheck : ReadsAs .code accessCheck where
  missing := run_bind_error rfl
  rejects tok toks e := by
    rw [accessCheck_run_eq]
    cases hhex : hex? tok with
    | none => simp [Slot.Rejects, numeralBelow_hex_iff, hhex, eq_comm]
    | some v =>
      by_cases hv : v = accessCode
      · simp [Slot.Rejects, numeralBelow_hex_iff, hhex, hv]
      · simp [Slot.Rejects, numeralBelow_hex_iff, hhex, hv, eq_comm]
  takes tok toks a rest h := by
    rw [accessCheck_run_eq] at h
    cases hhex : hex? tok with
    | none => simp [hhex] at h
    | some v =>
      simp only [hhex] at h
      split at h
      · simp only [Except.ok.injEq, Prod.mk.injEq] at h
        exact h.2.symm
      · cases h

/-- The arguments of a known command fail as its slots do, left to right. -/
theorem ofMnemonic_failsAs {key : List Char} {slots : List Slot} (h : slotsOf key = some slots) :
    FailsAs slots (ofMnemonic key) := by
  unfold slotsOf at h
  split at h <;> cases h
  · exact failsAs_pure _
  · exact failsAs_pure _
  · exact readsAs_accessCheck.bind fun _ => failsAs_pure _
  · exact failsAs_pure _
  · exact failsAs_pure _
  · exact readsAs_select.bind fun _ => failsAs_pure _
  · exact readsAs_select.bind fun _ => failsAs_pure _
  · exact readsAs_channel.bind fun _ => readsAs_byte.bind fun _ => readsAs_byte.bind fun _ =>
      failsAs_pure _
  · exact readsAs_channel.bind fun _ => readsAs_word.bind fun _ => readsAs_word.bind fun _ =>
      readsAs_word.bind fun _ => readsAs_word.bind fun _ => readsAs_word.bind fun _ => failsAs_pure _
  · exact readsAs_channel.bind fun _ => readsAs_word.bind fun _ => readsAs_word.bind fun _ =>
      readsAs_word.bind fun _ => failsAs_pure _
  · exact readsAs_channel.bind fun _ => readsAs_word.bind fun _ => failsAs_pure _
  · exact readsAs_channel.bind fun _ => failsAs_pure _
  · exact failsAs_pure _
  · exact failsAs_pure _

/-- A mnemonic that names no command is refused whatever follows it. -/
theorem ofMnemonic_unknown {key : List Char} (h : slotsOf key = none) (toks : List (List Char)) :
    (ofMnemonic key).run toks = .error .unknownCommand := by
  unfold ofMnemonic
  split
  -- the last alternative is the unknown mnemonic; each named one contradicts `h`
  rotate_right
  · rfl
  all_goals exact absurd h (by decide)

theorem ofMnemonic_run'_eq_error {key : List Char} {toks : List (List Char)} {e : CommandError} :
    ((ofMnemonic key).run' toks).map some = .error e ↔ (ofMnemonic key).run toks = .error e := by
  rw [StateT.run'_eq]
  cases (ofMnemonic key).run toks <;> simp [Functor.map, Except.map]

theorem FirstFailure.ne_unknownCommand {slots : List Slot} {toks : List (List Char)} {e : CommandError}
    (h : FirstFailure slots toks e) : e ≠ .unknownCommand := by
  induction h with
  | missing => simp
  | @rejects s _ _ _ e hrej =>
    cases s <;> simp only [Slot.Rejects] at hrej <;> rintro rfl <;> simp_all
  | takes _ _ ih => exact ih

/-- A line names no command exactly when its first token, if it has one, has no two-byte
mnemonic. -/
theorem parse_eq_ok_none_iff (line : String) :
    parse line = .ok none ↔ ∀ first rest, Spaced (first :: rest) line.toList → ¬∃ key, IsKey key first := by
  simp only [spaced_iff_tokens]
  unfold parse
  cases htok : tokens line.toList with
  | nil => simp
  | cons first rest =>
    simp only [List.cons.injEq]
    cases hkey : mnemonicKey first with
    | none =>
      refine iff_of_true rfl ?_
      rintro f r ⟨rfl, rfl⟩
      exact mnemonicKey_eq_none_iff.mp hkey
    | some key =>
      refine iff_of_false ?_ fun h => h first rest ⟨rfl, rfl⟩ ⟨key, mnemonicKey_eq_some_iff.mp hkey⟩
      -- a line with a mnemonic gives a command or an error
      cases hrun : (ofMnemonic key).run rest <;> simp [StateT.run'_eq, hrun, Functor.map, Except.map]

/-- A line is refused with `e` exactly when its mnemonic names no command and `e` is
`unknownCommand`, or the command's argument slots, taken left to right over the other tokens,
first fail with `e`. -/
theorem parse_eq_error_iff (line : String) (e : CommandError) :
    parse line = .error e ↔ ∃ first rest key, Spaced (first :: rest) line.toList ∧ IsKey key first ∧
      match slotsOf key with
      | none => e = .unknownCommand
      | some slots => FirstFailure slots rest e := by
  simp only [spaced_iff_tokens]
  unfold parse
  cases htok : tokens line.toList with
  | nil => simp
  | cons first rest =>
    simp only [List.cons.injEq]
    cases hkey : mnemonicKey first with
    | none =>
      refine iff_of_false (by simp) ?_
      rintro ⟨f, r, key, ⟨rfl, rfl⟩, hk, -⟩
      exact mnemonicKey_eq_none_iff.mp hkey ⟨key, hk⟩
    | some key =>
      have huniq : ∀ k, IsKey k first → k = key := fun k h => by
        rw [← mnemonicKey_eq_some_iff, hkey] at h
        exact (Option.some.inj h).symm
      dsimp only
      rw [ofMnemonic_run'_eq_error]
      constructor
      · intro h
        refine ⟨first, rest, key, ⟨rfl, rfl⟩, mnemonicKey_eq_some_iff.mp hkey, ?_⟩
        cases hs : slotsOf key with
        | none =>
          rw [ofMnemonic_unknown hs] at h
          exact (Except.error.inj h).symm
        | some slots => exact (ofMnemonic_failsAs hs rest e).mp h
      · rintro ⟨f, r, k, ⟨rfl, rfl⟩, hk, hslots⟩
        obtain rfl := huniq k hk
        cases hs : slotsOf k with
        | none =>
          rw [hs] at hslots
          rw [ofMnemonic_unknown hs, hslots]
        | some slots =>
          rw [hs] at hslots
          exact (ofMnemonic_failsAs hs rest e).mpr hslots

/-- How the parser answers a line. It names no command exactly when its first token, if any,
has no two-byte mnemonic. It is refused as an unknown command exactly when that mnemonic is not
one of the fourteen. Any other refusal is the error of the first failing argument slot: a
missing token, a token that is not a number of its field, an amplitude above 255, or an access
code other than `C0DE`. -/
theorem parse_outcome (line : String) :
    (parse line = .ok none ↔
      ∀ first rest, Spaced (first :: rest) line.toList → ¬∃ key, IsKey key first) ∧
    (parse line = .error .unknownCommand ↔
      ∃ first rest key, Spaced (first :: rest) line.toList ∧ IsKey key first ∧ slotsOf key = none) ∧
    ∀ e, parse line = .error e ↔ ∃ first rest key, Spaced (first :: rest) line.toList ∧
      IsKey key first ∧
      match slotsOf key with
      | none => e = .unknownCommand
      | some slots => FirstFailure slots rest e := by
  refine ⟨parse_eq_ok_none_iff line, ?_, parse_eq_error_iff line⟩
  rw [parse_eq_error_iff]
  -- no argument slot fails as an unknown command
  constructor
  · rintro ⟨first, rest, key, hsp, hk, hslots⟩
    refine ⟨first, rest, key, hsp, hk, ?_⟩
    cases hs : slotsOf key with
    | none => rfl
    | some slots =>
      rw [hs] at hslots
      exact absurd rfl hslots.ne_unknownCommand
  · rintro ⟨first, rest, key, hsp, hk, hs⟩
    exact ⟨first, rest, key, hsp, hk, by rw [hs]⟩

example : parse "VO 1,300,2" = .error .parameterOutOfBounds := by decide
example : parse "BO c0dF" = .error .accessDenied := by decide

end Stimulator.Command
