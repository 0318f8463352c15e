import Stimulator.Setting.Bank

/-!
# Operator commands

A command line is a two-letter mnemonic followed by arguments. Tokens are the maximal runs of
characters other than the separators space, comma, colon and tab (`tokens`). Only the first two
characters of the first token are significant, so `GO`, `GO!` and `GOTO` all start channels.

* `Command` : the fourteen commands; `CommandError` : why a line was refused, with the
  operator-facing wording in `CommandError.describe`;
* `decimal?` and `hex?` read unsigned numbers: an optional `+`, then at least one digit, within
  the bound of the field;
* `parse` : `none` for a line without a mnemonic, else the command or the first failing argument,
  arguments being taken left to right.
-/

namespace Stimulator

/-- A parsed operator command. -/
inductive Command where
  | help
  | version
  /-- Reboot; the access code was already checked. -/
  | reboot
  | echoOnly
  | state
  | start (sel : Select)
  | stop (sel : Select)
  | setVoltage (channel : Nat) (voltage : Voltage)
  | setTimes (channel : Nat) (times : PhaseTimes)
  | setDelta (channel : Nat) (delta : RampDelta)
  | setRepeatCount (channel : Nat) (count : UInt16)
  | query (channel : Nat)
  | store
  | load
  deriving DecidableEq, Repr, Inhabited

/-- Why a command line was refused. -/
inductive CommandError where
  | unknownCommand
  | parameterMissing
  | invalidNumber
  | parameterOutOfBounds
  | noSuchChannel
  | accessDenied
  deriving DecidableEq, Repr, Inhabited

namespace CommandError

/-- The short description shown to the operator. -/
def describe : CommandError → String
  | .unknownCommand => "unknown command"
  | .parameterMissing => "missing"
  | .invalidNumber => "invalid number"
  | .parameterOutOfBounds => "out of bounds"
  | .noSuchChannel => "no such channel"
  | .accessDenied => "access code"

/-- The command error a refused settings change is reported as. -/
def ofSettings : SettingsError → CommandError
  | .parameterOutOfBounds => .parameterOutOfBounds
  | .noSuchChannel => .noSuchChannel

end CommandError

namespace Command

/-- The code that `BO` must carry. -/
def accessCode : Nat := 0xC0DE

/-- Space, comma, colon and tab separate tokens. -/
def isSeparator (c : Char) : Bool := c = ' ' || c = ',' || c = ':' || c = '\t'

/-- The pieces of a line between separators, empty pieces included. -/
def pieces : List Char → List (List Char)
  | [] => [[]]
  | c :: cs =>
    if isSeparator c then [] :: pieces cs
    else match pieces cs with
      | p :: ps => (c :: p) :: ps
      | [] => [[c]]

/-- The tokens of a line: its non-empty pieces. -/
def tokens (cs : List Char) : List (List Char) := (pieces cs).filter (· ≠ [])

/-- The first two bytes of a token when they end on a character boundary: one two-byte
character, or two one-byte characters. -/
def mnemonicKey : List Char → Option (List Char)
  | c0 :: rest =>
    if c0.utf8Size = 2 then some [c0]
    else if c0.utf8Size = 1 then
      match rest with
      | c1 :: _ => if c1.utf8Size = 1 then some [c0, c1] else none
      | [] => none
    else none
  | [] => none

/-- The value of a digit in base `radix` (10 or 16, letters in either case). -/
def digitValue (radix : Nat) (c : Char) : Option Nat :=
  let v :=
    if '0' ≤ c ∧ c ≤ '9' then some (c.toNat - '0'.toNat)
    else if 'a' ≤ c ∧ c ≤ 'z' then some (c.toNat - 'a'.toNat + 10)
    else if 'A' ≤ c ∧ c ≤ 'Z' then some (c.toNat - 'A'.toNat + 10)
    else none
  match v with
  | some d => if d < radix then some d else none
  | none => none

/-- The value of a non-empty digit string, most significant digit first. -/
def digitsValue (radix : Nat) : List Char → Nat → Option Nat
  | [], acc => some acc
  | c :: cs, acc =>
    match digitValue radix c with
    | some d => digitsValue radix cs (acc * radix + d)
    | none => none

/-- An unsigned number in base `radix` below `bound`: an optional `+` and at least one digit. -/
def unsigned? (radix bound : Nat) (tok : List Char) : Option Nat :=
  let digits := match tok with
    | '+' :: rest => rest
    | _ => tok
  if digits.isEmpty then none
  else match digitsValue radix digits 0 with
    | some v => if v < bound then some v else none
    | none => none

/-- A 16-bit decimal number. -/
def decimal? (tok : List Char) : Option Nat := unsigned? 10 65536 tok

/-- A 32-bit hexadecimal number. -/
def hex? (tok : List Char) : Option Nat := unsigned? 16 4294967296 tok

/-- Argument readers over the tokens still unread. -/
abbrev Args := StateT (List (List Char)) (Except CommandError)

/-- The next token. -/
def next : Args (List Char) := do
  match ← get with
  | tok :: rest => set rest; pure tok
  | [] => throw .parameterMissing

/-- A 16-bit word. -/
def word : Args UInt16 := do
  match decimal? (← next) with
  | some v => pure (UInt16.ofNat v)
  | none => throw .invalidNumber

/-- An amplitude byte: a word, at most 255. -/
def byte : Args UInt8 := do
  let w ← word
  if w.toNat < 256 then pure (UInt8.ofNat w.toNat) else throw .parameterOutOfBounds

/-- A channel index: a word. -/
def channel : Args Nat := do
  pure (← word).toNat

/-- `A` for every channel, or a channel index. -/
def select : Args Select := do
  let tok ← next
  if tok = ['A'] then pure .all
  else match decimal? tok with
    | some v => pure (.one v)
    | none => throw .invalidNumber

/-- The reboot access code in hexadecimal. -/
def accessCheck : Args Unit := do
  match hex? (← next) with
  | some v => if v = accessCode then pure () else throw .accessDenied
  | none => throw .invalidNumber

/-- The arguments of the command a mnemonic names. -/
def ofMnemonic : List Char → Args Command
  | ['H', 'E'] => pure .help
  | ['V', 'E'] => pure .version
  | ['B', 'O'] => do accessCheck; pure .reboot
  | ['H', 'A'] => pure .echoOnly
  | ['S', 'T'] => pure .state
  | ['G', 'O'] => do pure (.start (← select))
  | ['S', 'P'] => do pure (.stop (← select))
  | ['V', 'O'] => do
    let c ← channel
    let p ← byte
    let n ← byte
    pure (.setVoltage c ⟨p, n⟩)
  | ['T', 'I'] => do
    let c ← channel
    let t0 ← word
    let t1 ← word
    let t2 ← word
    let t3 ← word
    let t4 ← word
    pure (.setTimes c ⟨t0, t1, t2, t3, t4⟩)
  | ['D', 'E'] => do
    let c ← channel
    let step ← word
    let pulses ← word
    let most ← word
    pure (.setDelta c ⟨step, pulses, most⟩)
  | ['R', 'C'] => do
    let c ← channel
    let count ← word
    pure (.setRepeatCount c count)
  | ['Q', 'S'] => do pure (.query (← channel))
  | ['S', 'S'] => pure .store
  | ['L', 'S'] => pure .load
  | _ => throw .unknownCommand

/-- Parse one line: `none` when it has no mnemonic. -/
def parse (line : String) : Except CommandError (Option Command) :=
  match tokens line.toList with
  | [] => .ok none
  | first :: rest =>
    match mnemonicKey first with
    | none => .ok none
    | some key => ((ofMnemonic key).run' rest).map some

end Command

end Stimulator
