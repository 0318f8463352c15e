import Stimulator.Toml.Value

/-!
# TOML lexical structure

Character classes, blanks and comments, strings and keys, read from a list of characters.
Every reader returns what it read and the text after it, or nothing when the text does not
match. Readers that loop take a `fuel` bound; each step consumes a character, so the length of
the text is always enough.

* blanks are spaces and tabs; a newline is LF or CR LF, and a lone CR is an error;
* a comment runs from `#` to the end of the line and may hold tabs, printable ASCII and any
  non-ASCII character, but no other control character;
* strings come in four forms: basic `"…"` with escapes, literal `'…'`, and their multi-line
  forms `"""…"""` and `'''…'''`, which may start with a newline that is dropped and may end
  with up to two extra quotes that belong to the content;
* a key is a bare word of letters, digits, `-` and `_`, or a basic or literal string; a dotted
  key joins keys with `.`, with blanks allowed around each part.
-/

namespace Stimulator.Toml

/-- Text still to read. -/
abbrev Input := List Char

namespace Lexical

/-- Whether a character's code lies in `lo … hi`. -/
def inRange (c : Char) (lo hi : Nat) : Bool := lo ≤ c.toNat && c.toNat ≤ hi

/-- Spaces and tabs. -/
def isBlank (c : Char) : Bool := c == ' ' || c == '\t'

/-- Characters beyond ASCII. -/
def isNonAscii (c : Char) : Bool := 0x80 ≤ c.toNat

/-- Characters allowed in a comment. -/
def isCommentChar (c : Char) : Bool := c == '\t' || inRange c 0x20 0x7E || isNonAscii c

/-- Characters that stand for themselves in a basic string. -/
def isBasicChar (c : Char) : Bool :=
  c == ' ' || c == '\t' || c == '!' || inRange c 0x23 0x5B || inRange c 0x5D 0x7E || isNonAscii c

/-- Characters allowed in a literal string. -/
def isLiteralChar (c : Char) : Bool :=
  c == '\t' || inRange c 0x20 0x26 || inRange c 0x28 0x7E || isNonAscii c

/-- Characters of a bare key. -/
def isBareKeyChar (c : Char) : Bool :=
  inRange c 0x41 0x5A || inRange c 0x61 0x7A || c.isDigit || c == '-' || c == '_'

/-- The value of a hexadecimal digit. -/
def hexDigit? (c : Char) : Option Nat :=
  if c.isDigit then some (c.toNat - '0'.toNat)
  else if inRange c 0x61 0x66 then some (c.toNat - 0x61 + 10)
  else if inRange c 0x41 0x46 then some (c.toNat - 0x41 + 10)
  else none

/-- Skip blanks. -/
def skipBlanks (s : Input) : Input := s.dropWhile isBlank

/-- The text after a newline at the start of `s`. -/
def newline? : Input → Option Input
  | '\n' :: r => some r
  | '\r' :: '\n' :: r => some r
  | _ => none

/-- Skip a comment, if one starts here. -/
def skipComment : Input → Input
  | '#' :: r => r.dropWhile isCommentChar
  | s => s

/-- The end of a line: blanks, maybe a comment, then a newline or the end of the text. -/
def lineEnd? (s : Input) : Option Input :=
  match skipComment (skipBlanks s) with
  | [] => some []
  | r => newline? r

/-- Skip blanks, newlines and comments that end their line, as between array items. -/
def skipBlankLines : Nat → Input → Input
  | 0, s => s
  | fuel + 1, s =>
    let t := skipBlanks s
    match newline? t with
    | some r => skipBlankLines fuel r
    | none =>
      match t with
      | '#' :: _ =>
        match newline? (skipComment t) with
        | some r => skipBlankLines fuel r
        | none => t
      | _ => t

/-- Skip blanks and newlines, after a line-ending backslash. -/
def skipBlanksAndNewlines : Input → Input
  | ' ' :: r => skipBlanksAndNewlines r
  | '\t' :: r => skipBlanksAndNewlines r
  | '\n' :: r => skipBlanksAndNewlines r
  | '\r' :: '\n' :: r => skipBlanksAndNewlines r
  | s => s

/-- The number spelled by `n` hexadecimal digits. -/
def hexValue? (digits : List Char) : Option Nat :=
  digits.foldlM (fun acc c => (hexDigit? c).map (acc * 16 + ·)) 0

/-- The character of a `\u` or `\U` escape with `n` digits: a Unicode scalar value. -/
def scalarEscape? (n : Nat) (s : Input) : Option (Char × Input) := do
  if s.length < n then none
  let code ← hexValue? (s.take n)
  if code < 0xD800 || (0xDFFF < code && code ≤ 0x10FFFF) then some (Char.ofNat code, s.drop n)
  else none

/-- The character an escape stands for, after its backslash. -/
def escape? : Input → Option (Char × Input)
  | 'b' :: r => some ('\x08', r)
  | 't' :: r => some ('\t', r)
  | 'n' :: r => some ('\n', r)
  | 'f' :: r => some ('\x0c', r)
  | 'r' :: r => some ('\r', r)
  | '"' :: r => some ('"', r)
  | '\\' :: r => some ('\\', r)
  | 'u' :: r => scalarEscape? 4 r
  | 'U' :: r => scalarEscape? 8 r
  | _ => none

/-- The rest of a basic string after its opening quote; `acc` holds what was read, reversed. -/
def basicRest : Nat → List Char → Input → Option (String × Input)
  | 0, _, _ => none
  | fuel + 1, acc, s =>
    match s with
    | '"' :: r => some (String.ofList acc.reverse, r)
    | '\\' :: r => do
      let (c, r) ← escape? r
      basicRest fuel (c :: acc) r
    | c :: r => if isBasicChar c then basicRest fuel (c :: acc) r else none
    | [] => none

/-- The rest of a literal string after its opening apostrophe. -/
def literalRest : Nat → List Char → Input → Option (String × Input)
  | 0, _, _ => none
  | fuel + 1, acc, s =>
    match s with
    | '\'' :: r => some (String.ofList acc.reverse, r)
    | c :: r => if isLiteralChar c then literalRest fuel (c :: acc) r else none
    | [] => none

/-- How many copies of `q` start `s`. -/
def runOf (q : Char) (s : Input) : Nat := (s.takeWhile (· == q)).length

/-- Close a multi-line string at a run of `n ≥ 3` delimiters: up to two of them belong to the
content; what is left of a longer run stays in the text. -/
def closeRun (q : Char) (acc : List Char) (n : Nat) (s : Input) : String × Input :=
  let extra := min (n - 3) 2
  (String.ofList (acc.reverse ++ List.replicate extra q), s.drop (3 + extra))

/-- The rest of a multi-line basic string after its opening delimiter. -/
def multiBasicRest : Nat → List Char → Input → Option (String × Input)
  | 0, _, _ => none
  | fuel + 1, acc, s =>
    match s with
    | '"' :: _ =>
      let n := runOf '"' s
      if n < 3 then multiBasicRest fuel (List.replicate n '"' ++ acc) (s.drop n)
      else some (closeRun '"' acc n s)
    | '\\' :: r =>
      match newline? (skipBlanks r) with
      | some t => multiBasicRest fuel acc (skipBlanksAndNewlines t)
      | none => do
        let (c, r) ← escape? r
        multiBasicRest fuel (c :: acc) r
    | '\n' :: r => multiBasicRest fuel ('\n' :: acc) r
    | '\r' :: '\n' :: r => multiBasicRest fuel ('\n' :: acc) r
    | c :: r => if isBasicChar c then multiBasicRest fuel (c :: acc) r else none
    | [] => none

/-- The rest of a multi-line literal string after its opening delimiter. -/
def multiLiteralRest : Nat → List Char → Input → Option (String × Input)
  | 0, _, _ => none
  | fuel + 1, acc, s =>
    match s with
    | '\'' :: _ =>
      let n := runOf '\'' s
      if n < 3 then multiLiteralRest fuel (List.replicate n '\'' ++ acc) (s.drop n)
      else some (closeRun '\'' acc n s)
    | '\n' :: r => multiLiteralRest fuel ('\n' :: acc) r
    | '\r' :: '\n' :: r => multiLiteralRest fuel ('\n' :: acc) r
    | c :: r => if isLiteralChar c then multiLiteralRest fuel (c :: acc) r else none
    | [] => none

/-- Drop the newline that may follow the opening delimiter of a multi-line string. -/
def dropFirstNewline (s : Input) : Input := (newline? s).getD s

/-- A string value in any of its four forms. -/
def string? (fuel : Nat) : Input → Option (String × Input)
  | '"' :: '"' :: '"' :: r => multiBasicRest fuel [] (dropFirstNewline r)
  | '"' :: r => basicRest fuel [] r
  | '\'' :: '\'' :: '\'' :: r => multiLiteralRest fuel [] (dropFirstNewline r)
  | '\'' :: r => literalRest fuel [] r
  | _ => none

/-- One key: a bare word, or a basic or literal string on one line. -/
def simpleKey? (fuel : Nat) : Input → Option (String × Input)
  | '"' :: r => basicRest fuel [] r
  | '\'' :: r => literalRest fuel [] r
  | s =>
    let word := s.takeWhile isBareKeyChar
    if word.isEmpty then none else some (String.ofList word, s.drop word.length)

/-- The parts of a dotted key, with the blanks around them; `acc` holds the parts read,
reversed. -/
def dottedKeyRest : Nat → List String → Input → Option (List String × Input)
  | 0, _, _ => none
  | fuel + 1, acc, s => do
    let (k, r) ← simpleKey? fuel (skipBlanks s)
    match skipBlanks r with
    | '.' :: t => dottedKeyRest fuel (k :: acc) t
    | t => some ((k :: acc).reverse, t)

/-- A dotted key and the blanks around it. -/
def dottedKey? (fuel : Nat) (s : Input) : Option (List String × Input) := dottedKeyRest fuel [] s

end Lexical

end Stimulator.Toml
