import Stimulator.Console.Command
import Mathlib.Tactic.IntervalCases
import Mathlib.Data.List.Induction

/-!
# The lexical level of command lines

What the command parser sees in a line, stated without the parser: tokens between separators,
the two-byte mnemonic at the head of the first token, and numerals.

* `Command.Numeral radix n tok` : `tok` is an optional `+`, some zeros, then the digits of `n` as
  `Nat.toDigits` writes them, each letter in either case;
  `Command.unsigned?_eq_some_iff` : the number reader accepts exactly the numerals of the numbers
  below its bound, each as its number (`decimal?_eq_some_iff`, `hex?_eq_some_iff`);
* `Command.Spaced toks line` : `line` is the tokens `toks` with separators around and between
  them; `Command.spaced_iff_tokens` : these are exactly the tokens the tokenizer finds;
* `Command.IsKey key tok` : `key` is the first two bytes of `tok` and ends on a character
  boundary; `Command.mnemonicKey_eq_some_iff` : the parser's mnemonic is that key.
-/

namespace Stimulator.Command

/-- `tok` spells `n` in base `radix`: an optional `+`, any number of leading zeros, then the
digits of `n`, a letter in either case. -/
def Numeral (radix n : Nat) (tok : List Char) : Prop :=
  ∃ sign zeros digits, (sign = [] ∨ sign = ['+']) ∧
    digits.map Char.toLower = Nat.toDigits radix n ∧ tok = sign ++ List.replicate zeros '0' ++ digits

/-! ## Digits -/

theorem char_le_iff {a b : Char} : a ≤ b ↔ a.toNat ≤ b.toNat := by
  rw [Char.le_def, UInt32.le_iff_toNat_le]
  rfl

theorem toNat_toLower (c : Char) :
    c.toLower.toNat = if 65 ≤ c.toNat ∧ c.toNat ≤ 90 then c.toNat + 32 else c.toNat := by
  have hval : ∀ d : Char, d.val.toNat = d.toNat := fun _ => rfl
  unfold Char.toLower
  split
  · next h =>
    simp only [ge_iff_le, UInt32.le_iff_toNat_le, hval] at h
    have hshift : ('a'.val - 'A'.val).toNat = 32 := by decide
    simp only [Char.toNat_mk, UInt32.toNat_add, hshift, hval]
    simp only [Char.reduceToNat] at h ⊢
    rw [if_pos h]
    omega
  · next h =>
    simp only [ge_iff_le, UInt32.le_iff_toNat_le, hval, Char.reduceToNat] at h
    rw [if_neg h]

theorem toNat_digitChar {d : Nat} (hd : d < 16) :
    (Nat.digitChar d).toNat = if d < 10 then 48 + d else 87 + d := by
  interval_cases d <;> rfl

/-- The digits: `0` to `9`, then the letters in either case from 10 on, each below the radix. -/
theorem digitValue_eq_some_iff {radix d : Nat} {c : Char} :
    digitValue radix c = some d ↔ d < radix ∧
      ((48 ≤ c.toNat ∧ c.toNat ≤ 57 ∧ d = c.toNat - 48) ∨
        (97 ≤ c.toNat ∧ c.toNat ≤ 122 ∧ d = c.toNat - 87) ∨
        (65 ≤ c.toNat ∧ c.toNat ≤ 90 ∧ d = c.toNat - 55)) := by
  unfold digitValue
  simp only [char_le_iff, Char.reduceToNat]
  split_ifs <;> simp <;> omega

theorem digitValue_toLower (radix : Nat) (c : Char) :
    digitValue radix c.toLower = digitValue radix c := by
  apply Option.ext
  intro d
  rw [digitValue_eq_some_iff, digitValue_eq_some_iff, toNat_toLower]
  split_ifs <;> omega

/-- Up to sixteen, a character is the digit `d` exactly when it is `Nat.digitChar d` with its
letter in either case. -/
theorem digitValue_eq_some_iff_digitChar {radix d : Nat} {c : Char} (hr : radix ≤ 16) :
    digitValue radix c = some d ↔ d < radix ∧ c.toLower = Nat.digitChar d := by
  rw [← digitValue_toLower, digitValue_eq_some_iff, ← Char.toNat_inj, toNat_toLower]
  constructor
  · rintro ⟨hd, h⟩
    refine ⟨hd, ?_⟩
    rw [toNat_digitChar (by omega)]
    split_ifs at h ⊢ <;> omega
  · rintro ⟨hd, h⟩
    rw [toNat_digitChar (by omega)] at h
    refine ⟨hd, ?_⟩
    split_ifs at h ⊢ <;> omega

theorem digitValue_digitChar {radix d : Nat} (hr : radix ≤ 16) (hd : d < radix) :
    digitValue radix (Nat.digitChar d) = some d := by
  have hlow : (Nat.digitChar d).toLower = Nat.digitChar d := by
    rw [← Char.toNat_inj, toNat_toLower, toNat_digitChar (by omega)]
    split_ifs <;> omega
  exact (digitValue_eq_some_iff_digitChar hr).mpr ⟨hd, hlow⟩

/-! ## Digit strings -/

theorem digitsValue_append (radix : Nat) (l₁ l₂ : List Char) (acc : Nat) :
    digitsValue radix (l₁ ++ l₂) acc = (digitsValue radix l₁ acc).bind (digitsValue radix l₂) := by
  induction l₁ generalizing acc with
  | nil => rfl
  | cons c cs ih =>
    simp only [List.cons_append, digitsValue]
    cases digitValue radix c with
    | none => rfl
    | some d => exact ih _

theorem digitsValue_map_toLower (radix : Nat) (l : List Char) (acc : Nat) :
    digitsValue radix (l.map Char.toLower) acc = digitsValue radix l acc := by
  induction l generalizing acc with
  | nil => rfl
  | cons c cs ih =>
    simp only [List.map_cons, digitsValue, digitValue_toLower]
    cases digitValue radix c with
    | none => rfl
    | some d => exact ih _

theorem digitsValue_singleton {radix d : Nat} {c : Char} (h : digitValue radix c = some d) (acc : Nat) :
    digitsValue radix [c] acc = some (acc * radix + d) := by
  simp [digitsValue, h]

/-- The digits of `n`, as `Nat.toDigits` writes them, read back as `n`. -/
theorem digitsValue_toDigits {radix : Nat} (hr : 2 ≤ radix ∧ radix ≤ 16) (n : Nat) :
    digitsValue radix (Nat.toDigits radix n) 0 = some n := by
  induction n using Nat.base_induction radix (by omega) with
  | single m hm =>
    rw [Nat.toDigits_of_lt_base hm, digitsValue_singleton (digitValue_digitChar hr.2 hm)]
    simp
  | digit m k hk hm ih =>
    rw [← Nat.toDigits_append_toDigits (by omega) hm hk, digitsValue_append, ih,
      Nat.toDigits_of_lt_base hk]
    simp only [Option.bind_some]
    rw [digitsValue_singleton (digitValue_digitChar hr.2 hk), Nat.mul_comm]

theorem digitsValue_zeros_append {radix : Nat} (hr : 0 < radix) (zeros : Nat) (l : List Char) :
    digitsValue radix (List.replicate zeros '0' ++ l) 0 = digitsValue radix l 0 := by
  induction zeros with
  | zero => rfl
  | succ z ih =>
    have hzero : digitValue radix '0' = some 0 := digitValue_eq_some_iff.mpr ⟨hr, by decide⟩
    simpa [List.replicate_succ, digitsValue, hzero] using ih

/-- A character that lower-cases to a digit below ten is that digit. -/
theorem eq_of_toLower_eq_digitChar {c : Char} {d : Nat} (hd : d < 10) (h : c.toLower = Nat.digitChar d) :
    c = Nat.digitChar d := by
  rw [← Char.toNat_inj] at h ⊢
  rw [toNat_toLower, toNat_digitChar (by omega), if_pos hd] at h
  rw [toNat_digitChar (by omega), if_pos hd]
  split_ifs at h <;> omega

/-- A non-empty digit string is some zeros, then the digits of its value. -/
theorem numeral_of_digitsValue {radix : Nat} (hr : 2 ≤ radix ∧ radix ≤ 16) {l : List Char} {v : Nat}
    (hl : l ≠ []) (h : digitsValue radix l 0 = some v) :
    ∃ zeros digits, l = List.replicate zeros '0' ++ digits ∧
      digits.map Char.toLower = Nat.toDigits radix v := by
  induction l using List.reverseRecOn generalizing v with
  | nil => exact absurd rfl hl
  | append_singleton l c ih =>
    rw [digitsValue_append, Option.bind_eq_some_iff] at h
    obtain ⟨a, ha, hc⟩ := h
    cases hd : digitValue radix c with
    | none => simp [digitsValue, hd] at hc
    | some d =>
      rw [digitsValue_singleton hd, Option.some.injEq] at hc
      obtain ⟨hdr, hlow⟩ := (digitValue_eq_some_iff_digitChar hr.2).mp hd
      have hlast : [c].map Char.toLower = Nat.toDigits radix d := by
        rw [Nat.toDigits_of_lt_base hdr, List.map_singleton, hlow]
      by_cases hnil : l = []
      · -- a single digit
        subst hnil
        cases ha
        exact ⟨0, [c], rfl, by rw [← hc, Nat.zero_mul, Nat.zero_add, hlast]⟩
      · obtain ⟨z, ds, rfl, hds⟩ := ih hnil ha
        by_cases ha0 : a = 0
        · -- the digits so far are zeros only: one more leading zero
          subst ha0
          rw [Nat.toDigits_zero, List.map_eq_singleton_iff] at hds
          obtain ⟨c', rfl, hc'⟩ := hds
          have hc'0 : c' = '0' := @eq_of_toLower_eq_digitChar c' 0 (by decide) hc'
          refine ⟨z + 1, [c], ?_, by rw [← hc, Nat.zero_mul, Nat.zero_add, hlast]⟩
          rw [hc'0, List.replicate_succ', List.append_assoc]
        · refine ⟨z, ds ++ [c], by rw [List.append_assoc], ?_⟩
          rw [List.map_append, hds, hlast, Nat.toDigits_append_toDigits (by omega) (by omega) hdr,
            ← hc, Nat.mul_comm]

/-! ## The reader -/

theorem digitValue_plus (radix : Nat) : digitValue radix '+' = none := by
  simp [digitValue]

/-- What the reader reads: an optional `+`, then a non-empty digit string within the bound. -/
theorem unsigned?_eq_some_iff_digits {radix bound v : Nat} {tok : List Char} :
    unsigned? radix bound tok = some v ↔ ∃ sign digits, (sign = [] ∨ sign = ['+']) ∧
      tok = sign ++ digits ∧ digits ≠ [] ∧ digitsValue radix digits 0 = some v ∧ v < bound := by
  -- what the reader does with the digits after the sign, its digit value given as `x`
  have hread : ∀ (digits : List Char) (x : Option Nat), digitsValue radix digits 0 = x →
      ((if digits.isEmpty = true then none else x.bind fun w => if w < bound then some w else none) =
        some v ↔ digits ≠ [] ∧ digitsValue radix digits 0 = some v ∧ v < bound) := by
    rintro digits x rfl
    by_cases hd : digits = []
    · simp [hd]
    · cases digitsValue radix digits 0 with
      | none => simp
      | some w => by_cases hw : w < bound <;> simp [hd, hw] <;> omega
  unfold unsigned?
  split
  · -- a leading `+` is the sign, and cannot be a digit
    next rest =>
    have hplus : (rest ≠ [] ∧ digitsValue radix rest 0 = some v ∧ v < bound) ↔
        ∃ sign digits, (sign = [] ∨ sign = ['+']) ∧ '+' :: rest = sign ++ digits ∧ digits ≠ [] ∧
          digitsValue radix digits 0 = some v ∧ v < bound := by
      constructor
      · exact fun h => ⟨['+'], rest, .inr rfl, rfl, h⟩
      · rintro ⟨sign, digits, rfl | rfl, htok, hne, hv, hb⟩
        · rw [List.nil_append] at htok
          subst htok
          simp [digitsValue, digitValue_plus] at hv
        · cases htok
          exact ⟨hne, hv, hb⟩
    dsimp only
    cases hdv : digitsValue radix rest 0 <;> exact (hread rest _ hdv).trans hplus
  · next h =>
    have hnone : (tok ≠ [] ∧ digitsValue radix tok 0 = some v ∧ v < bound) ↔
        ∃ sign digits, (sign = [] ∨ sign = ['+']) ∧ tok = sign ++ digits ∧ digits ≠ [] ∧
          digitsValue radix digits 0 = some v ∧ v < bound := by
      constructor
      · exact fun h => ⟨[], tok, .inl rfl, rfl, h⟩
      · rintro ⟨sign, digits, rfl | rfl, rfl, hne, hv, hb⟩
        · exact ⟨hne, hv, hb⟩
        · exact absurd rfl (h digits)
    dsimp only
    cases hdv : digitsValue radix tok 0 <;> exact (hread tok _ hdv).trans hnone

/-- The reader accepts exactly the numerals of the numbers below its bound, each as its number. -/
theorem unsigned?_eq_some_iff {radix bound v : Nat} {tok : List Char} (hr : 2 ≤ radix ∧ radix ≤ 16) :
    unsigned? radix bound tok = some v ↔ Numeral radix v tok ∧ v < bound := by
  rw [unsigned?_eq_some_iff_digits]
  constructor
  · rintro ⟨sign, digits, hsign, rfl, hne, hv, hb⟩
    obtain ⟨z, ds, rfl, hds⟩ := numeral_of_digitsValue hr hne hv
    exact ⟨⟨sign, z, ds, hsign, hds, by rw [List.append_assoc]⟩, hb⟩
  · rintro ⟨⟨sign, z, ds, hsign, hds, rfl⟩, hb⟩
    refine ⟨sign, List.replicate z '0' ++ ds, hsign, by rw [List.append_assoc], ?_, ?_, hb⟩
    · -- the digits of `v` are never empty
      intro h
      rw [(List.append_eq_nil_iff.mp h).2, List.map_nil] at hds
      exact Nat.toDigits_ne_nil hds.symm
    · rw [digitsValue_zeros_append (by omega), ← digitsValue_map_toLower, hds, digitsValue_toDigits hr]

theorem decimal?_eq_some_iff {v : Nat} {tok : List Char} :
    decimal? tok = some v ↔ Numeral 10 v tok ∧ v < 65536 :=
  unsigned?_eq_some_iff (by decide)

theorem hex?_eq_some_iff {v : Nat} {tok : List Char} :
    hex? tok = some v ↔ Numeral 16 v tok ∧ v < 4294967296 :=
  unsigned?_eq_some_iff (by decide)

example : decimal? "+007".toList = some 7 := by decide
example : hex? "c0De".toList = some 0xC0DE := by decide


/-! ## Tokens -/

/-- Every character of `s` separates tokens. -/
def Separators (s : List Char) : Prop := ∀ c ∈ s, isSeparator c = true

/-- A token: a non-empty run of characters none of which separates. -/
def IsToken (tok : List Char) : Prop := tok ≠ [] ∧ ∀ c ∈ tok, isSeparator c = false

/-- A line made of the tokens `toks`, in order: some separators, then a token and the rest of the
line, which starts with a separator unless it is empty. -/
inductive Spaced : List (List Char) → List Char → Prop
  | blank {s : List Char} : Separators s → Spaced [] s
  | token {s tok r : List Char} {toks : List (List Char)} : Separators s → IsToken tok →
      (∀ c ∈ r.head?, isSeparator c = true) → Spaced toks r → Spaced (tok :: toks) (s ++ tok ++ r)

theorem pieces_ne_nil (l : List Char) : pieces l ≠ [] := by
  cases l with
  | nil => simp [pieces]
  | cons c cs =>
    unfold pieces
    split
    · simp
    · split <;> simp

theorem tokens_cons_separator {c : Char} (h : isSeparator c = true) (cs : List Char) :
    tokens (c :: cs) = tokens cs := by
  simp [tokens, pieces, h]

theorem tokens_separators_append {s : List Char} (hs : Separators s) (r : List Char) :
    tokens (s ++ r) = tokens r := by
  induction s with
  | nil => rfl
  | cons c s ih =>
    rw [List.cons_append, tokens_cons_separator (hs c (by simp))]
    exact ih fun d hd => hs d (by simp [hd])

/-- A run of non-separators joins the first piece of what follows. -/
theorem pieces_append {tok r p : List Char} {ps : List (List Char)}
    (htok : ∀ c ∈ tok, isSeparator c = false) (hr : pieces r = p :: ps) :
    pieces (tok ++ r) = (tok ++ p) :: ps := by
  induction tok with
  | nil => exact hr
  | cons c tok ih =>
    have hc : isSeparator c = false := htok c (by simp)
    rw [List.cons_append, pieces, if_neg (by simp [hc]), ih fun d hd => htok d (by simp [hd])]
    rfl

/-- A token followed by the end of the line or by a separator is the next token. -/
theorem tokens_token_append {tok r : List Char} (htok : IsToken tok)
    (hr : ∀ c ∈ r.head?, isSeparator c = true) : tokens (tok ++ r) = tok :: tokens r := by
  cases r with
  | nil =>
    rw [tokens, pieces_append htok.2 (show pieces [] = [[]] from rfl)]
    simp [tokens, pieces, htok.1]
  | cons c r =>
    have hc : isSeparator c = true := hr c rfl
    have hpieces : pieces (c :: r) = [] :: pieces r := by simp [pieces, hc]
    rw [tokens_cons_separator hc, tokens, pieces_append htok.2 hpieces]
    simp [tokens, htok.1]

theorem Spaced.tokens_eq {toks : List (List Char)} {line : List Char} (h : Spaced toks line) :
    tokens line = toks := by
  induction h with
  | @blank s hs =>
    rw [← List.append_nil s, tokens_separators_append hs]
    rfl
  | token hs htok hr _ ih =>
    rw [List.append_assoc, tokens_separators_append hs, tokens_token_append htok hr, ih]

theorem Separators.cons {c : Char} {s : List Char} (hc : isSeparator c = true) (hs : Separators s) :
    Separators (c :: s) := by
  intro d hd
  rcases List.mem_cons.mp hd with rfl | hd
  · exact hc
  · exact hs d hd

theorem Spaced.cons_separator {toks : List (List Char)} {line : List Char} {c : Char}
    (hc : isSeparator c = true) (h : Spaced toks line) : Spaced toks (c :: line) := by
  cases h with
  | blank hs => exact .blank (hs.cons hc)
  | token hs htok hr hrest => exact .token (hs.cons hc) htok hr hrest

/-- Every line splits into tokens. -/
theorem exists_spaced (line : List Char) : ∃ toks, Spaced toks line := by
  induction line with
  | nil => exact ⟨[], .blank (by simp [Separators])⟩
  | cons c cs ih =>
    obtain ⟨toks, h⟩ := ih
    by_cases hc : isSeparator c = true
    · exact ⟨toks, h.cons_separator hc⟩
    · have hc' : isSeparator c = false := by simpa using hc
      have hnone : Separators [] := by simp [Separators]
      have hsingle : IsToken [c] := ⟨by simp, by simp [hc']⟩
      -- `c` is a token of its own when separators follow, else it joins the next token
      cases h with
      | blank hs =>
        exact ⟨[[c]], .token hnone hsingle (fun d hd => hs d (List.mem_of_mem_head? hd)) (.blank hs)⟩
      | @token s tok r toks hs htok hr hrest =>
        cases s with
        | nil =>
          refine ⟨(c :: tok) :: toks, .token hnone ⟨by simp, ?_⟩ hr hrest⟩
          intro d hd
          rcases List.mem_cons.mp hd with rfl | hd
          · exact hc'
          · exact htok.2 d hd
        | cons d s =>
          exact ⟨[c] :: tok :: toks,
            .token hnone hsingle (fun e he => by simp at he; exact he ▸ hs d (by simp)) (.token hs htok hr hrest)⟩

theorem spaced_tokens (line : List Char) : Spaced (tokens line) line := by
  obtain ⟨toks, h⟩ := exists_spaced line
  rwa [h.tokens_eq]

/-- The tokens of a line are exactly the ones it is spaced into. -/
theorem spaced_iff_tokens {toks : List (List Char)} {line : List Char} :
    Spaced toks line ↔ tokens line = toks :=
  ⟨Spaced.tokens_eq, fun h => h ▸ spaced_tokens line⟩

/-! ## The mnemonic -/

/-- `key` is the first two bytes of `tok` in UTF-8, and they end on a character boundary. -/
def IsKey (key tok : List Char) : Prop := key <+: tok ∧ (String.ofList key).utf8ByteSize = 2

theorem utf8ByteSize_ofList_cons (c : Char) (l : List Char) :
    (String.ofList (c :: l)).utf8ByteSize = c.utf8Size + (String.ofList l).utf8ByteSize := by
  simp [String.utf8ByteSize_singleton]

theorem utf8ByteSize_ofList_eq_zero {l : List Char} (h : (String.ofList l).utf8ByteSize = 0) : l = [] :=
  String.ofList_eq_empty_iff.mp (String.utf8ByteSize_eq_zero_iff.mp h)

/-- The first two bytes of a token are one two-byte character, or two one-byte characters. -/
theorem isKey_cons_iff {key rest : List Char} {c : Char} :
    IsKey key (c :: rest) ↔ (c.utf8Size = 2 ∧ key = [c]) ∨
      (c.utf8Size = 1 ∧ ∃ c₁, rest.head? = some c₁ ∧ c₁.utf8Size = 1 ∧ key = [c, c₁]) := by
  unfold IsKey
  rw [List.prefix_cons_iff]
  constructor
  · rintro ⟨rfl | ⟨t, rfl, ht⟩, hsize⟩
    · simp at hsize
    · rw [utf8ByteSize_ofList_cons] at hsize
      have hc := c.utf8Size_pos
      cases t with
      | nil => exact .inl ⟨by simpa using hsize, rfl⟩
      | cons c₁ t =>
        rw [utf8ByteSize_ofList_cons] at hsize
        have hc₁ := c₁.utf8Size_pos
        have ht' : t = [] := utf8ByteSize_ofList_eq_zero (by omega)
        subst ht'
        cases rest with
        | nil => simp at ht
        | cons d rest =>
          obtain ⟨rfl, -⟩ := List.cons_prefix_cons.mp ht
          exact .inr ⟨by omega, c₁, rfl, by omega, rfl⟩
  · rintro (⟨hc, rfl⟩ | ⟨hc, c₁, hc₁, h₁, rfl⟩)
    · exact ⟨.inr ⟨[], rfl, List.nil_prefix⟩, by simp [hc]⟩
    · refine ⟨.inr ⟨[c₁], rfl, ?_⟩, by simp [hc, h₁]⟩
      cases rest with
      | nil => simp at hc₁
      | cons d rest => simp at hc₁; subst hc₁; simp

/-- The mnemonic is read off the first two bytes of the first token. -/
theorem mnemonicKey_eq_some_iff {key tok : List Char} : mnemonicKey tok = some key ↔ IsKey key tok := by
  cases tok with
  | nil =>
    simp only [mnemonicKey, IsKey, List.prefix_nil, reduceCtorEq, false_iff, not_and]
    rintro rfl
    simp
  | cons c rest =>
    rw [isKey_cons_iff]
    unfold mnemonicKey
    rcases c.utf8Size_eq with h | h | h | h <;> cases rest <;> simp [h, eq_comm]

theorem mnemonicKey_eq_none_iff {tok : List Char} : mnemonicKey tok = none ↔ ¬∃ key, IsKey key tok := by
  constructor
  · rintro h ⟨key, hk⟩
    rw [← mnemonicKey_eq_some_iff, h] at hk
    cases hk
  · intro h
    cases hm : mnemonicKey tok with
    | none => rfl
    | some key => exact absurd ⟨key, mnemonicKey_eq_some_iff.mp hm⟩ h

end Stimulator.Command
