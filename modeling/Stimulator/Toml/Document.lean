import Stimulator.Toml.Number

/-!
# TOML documents

A document is read line by line: blank and comment lines, `[table]` and `[[array]]` headers,
and `key = value` pairs. While it is read, tables remember how they came to exist (`Origin`),
since that decides what may still be added to them:

* a table `defined` whole — by a header, as an inline table, or the document itself — takes no
  second header, and dotted keys may not reach into it;
* an `implicit` table, made on the way to a deeper header, may get its own header once;
* a `dotted` table, made by a dotted key, takes more dotted keys but never a header.

Values (`Node.leaf`), inline tables included, are never extended; an array of tables
(`Node.tables`) is extended at its last element. The pairs under a header are gathered in a
table of their own and placed in the tree at the next header or at the end (`Builder.finish`).
Arrays and inline tables may nest at most 79 deep, and a key has at most 79 parts.

* `parse` : the document's table, or nothing when the text is not valid TOML.
-/

namespace Stimulator.Toml

open Lexical

/-- How a table came to exist. -/
inductive Origin where
  | defined
  | implicit
  | dotted
  deriving DecidableEq, Repr, Inhabited

/-- A table entry while a document is read. -/
inductive Node where
  | leaf (v : Value)
  | table (entries : List (String × Node)) (origin : Origin)
  /-- An array of tables: the entries of each element. -/
  | tables (elements : List (List (String × Node)))
  deriving Inhabited

/-- The entries of a table while a document is read. -/
abbrev Entries := List (String × Node)

mutual

/-- The value a node stands for. -/
def Node.toValue : Node → Value
  | .leaf v => v
  | .table es _ => .table (entriesToValue es)
  | .tables ts => .array (tablesToValue ts)

/-- The values of a table's entries. -/
def entriesToValue : Entries → List (String × Value)
  | [] => []
  | (k, n) :: rest => (k, n.toValue) :: entriesToValue rest

/-- The tables of an array of tables. -/
def tablesToValue : List Entries → List Value
  | [] => []
  | es :: rest => .table (entriesToValue es) :: tablesToValue rest

end

/-- Replace the entry under `key`. -/
def Entries.set (es : Entries) (key : String) (n : Node) : Entries :=
  es.map fun e => if e.1 == key then (key, n) else e

/-- Remove the entry under `key`. -/
def Entries.erase (es : Entries) (key : String) : Entries := es.filter fun e => e.1 != key

/-- Apply `f` to the table at `path` below a table with entries `es` and origin `o`, making
missing tables with origin `made` on the way. A value on the way is an error; an array of
tables is entered at its last element. A dotted key (`made = .dotted`) may pass only through
tables that were not defined whole. -/
def modifyAt {α : Type} (made : Origin) (f : Entries → Origin → Option (Entries × α)) :
    List String → Entries → Origin → Option (Entries × α)
  | [], es, o => f es o
  | k :: ks, es, _ =>
    match es.lookup k with
    | none => do
      let (sub, a) ← modifyAt made f ks [] made
      some (es ++ [(k, .table sub made)], a)
    | some (.leaf _) => none
    | some (.table sub o) => do
      if made == .dotted && o == .defined then none
      let (sub, a) ← modifyAt made f ks sub o
      some (es.set k (.table sub o), a)
    | some (.tables ts) => do
      let last ← ts.getLast?
      let (last, a) ← modifyAt made f ks last .defined
      some (es.set k (.tables (ts.dropLast ++ [last])), a)

/-- Add `key = v` to the table at `path`: the path must lead to tables made by dotted keys,
and the key must be new. -/
def insertPair (path : List String) (key : String) (v : Node) (es : Entries) : Option Entries :=
  (modifyAt .dotted (fun tbl o =>
    if (o == .dotted) == path.isEmpty then none
    else if (tbl.lookup key).isSome then none
    else some (tbl ++ [(key, v)], ())) path es .defined).map (·.1)

/-- Nesting allowed for arrays and inline tables, and parts allowed in a key. -/
def nestingLimit : Nat := 80

/-- A dotted key, with fewer parts than the nesting limit. -/
def keyPath? (fuel : Nat) (s : Input) : Option (List String × Input) := do
  let (keys, r) ← dottedKey? fuel s
  if keys.length < nestingLimit then some (keys, r) else none

mutual

/-- A value. Inline tables come back as defined tables; everything else as a leaf. -/
def value : Nat → Nat → Input → Option (Node × Input)
  | 0, _, _ => none
  | fuel + 1, depth, s =>
    match s with
    | '[' :: r =>
      if depth + 1 < nestingLimit then do
        let (vs, r) ← arrayRest fuel (depth + 1) [] r
        some (.leaf (.array vs), r)
      else none
    | '{' :: r =>
      if depth + 1 < nestingLimit then
        match skipBlanks r with
        | '}' :: t => some (.table [] .defined, t)
        | t => do
          let (es, r) ← inlineRest fuel (depth + 1) [] t
          some (.table es .defined, r)
      else none
    | '"' :: _ => (string? fuel s).map fun (str, r) => (.leaf (.string str), r)
    | '\'' :: _ => (string? fuel s).map fun (str, r) => (.leaf (.string str), r)
    | _ => (Number.scalar? s).map fun (v, r) => (.leaf v, r)

/-- The items of an array after its `[`; `acc` holds the items read, reversed. -/
def arrayRest : Nat → Nat → List Value → Input → Option (List Value × Input)
  | 0, _, _, _ => none
  | fuel + 1, depth, acc, s =>
    match skipBlankLines (s.length + 1) s with
    | ']' :: r => some (acc.reverse, r)
    | t => do
      let (v, r) ← value fuel depth t
      match skipBlankLines (r.length + 1) r with
      | ',' :: w => arrayRest fuel depth (v.toValue :: acc) w
      | ']' :: w => some ((v.toValue :: acc).reverse, w)
      | _ => none

/-- The pairs of an inline table after its `{`, up to and with its `}`. -/
def inlineRest : Nat → Nat → Entries → Input → Option (Entries × Input)
  | 0, _, _, _ => none
  | fuel + 1, depth, es, s => do
    let (keys, r) ← keyPath? fuel s
    let r ← match r with
      | '=' :: t => some t
      | _ => none
    let (v, r) ← value fuel depth (skipBlanks r)
    let key ← keys.getLast?
    let es ← insertPair keys.dropLast key v es
    match skipBlanks r with
    | ',' :: w => inlineRest fuel depth es w
    | '}' :: w => some (es, w)
    | _ => none

end

/-- The state of a document being read: the tree so far, and the table of the current header
with its path, which joins the tree at the next header. -/
structure Builder where
  root : Entries := []
  current : Entries := []
  path : List String := []
  isArray : Bool := false

namespace Builder

/-- Add a pair to the current table. -/
def pair (b : Builder) (keys : List String) (v : Node) : Option Builder := do
  let key ← keys.getLast?
  let v := match v with
    | .table _ _ => .leaf v.toValue
    | _ => v
  let current ← insertPair keys.dropLast key v b.current
  some { b with current := current }

/-- Place the current table in the tree. -/
def finish (b : Builder) : Option Builder :=
  match b.path.getLast? with
  | none => some { b with root := b.current, current := [] }
  | some key => do
    let (root, _) ← modifyAt .implicit (fun es _ =>
      match es.lookup key, b.isArray with
      | none, true => some (es ++ [(key, .tables [b.current])], ())
      | some (.tables ts), true => some (es.set key (.tables (ts ++ [b.current])), ())
      | none, false => some (es ++ [(key, .table b.current .defined)], ())
      | some (.table _ o), false =>
        if o == .defined then none else some (es.set key (.table b.current .defined), ())
      | _, _ => none) b.path.dropLast b.root .defined
    some { root := root, current := [], path := [], isArray := false }

/-- Start a `[table]` header: an implicit table of that name becomes the current table. -/
def startTable (b : Builder) (path : List String) : Option Builder := do
  let b ← b.finish
  let key ← path.getLast?
  let (root, current) ← modifyAt .implicit (fun es _ =>
    match es.lookup key with
    | none => some (es, [])
    | some (.table sub .implicit) => some (es.erase key, sub)
    | some _ => none) path.dropLast b.root .defined
  some { root := root, current := current, path := path, isArray := false }

/-- Start an `[[array]]` header: a new element of that array of tables. -/
def startArray (b : Builder) (path : List String) : Option Builder := do
  let b ← b.finish
  let key ← path.getLast?
  let (root, _) ← modifyAt .implicit (fun es _ =>
    match es.lookup key with
    | none => some (es ++ [(key, .tables [])], ())
    | some (.tables _) => some (es, ())
    | some _ => none) path.dropLast b.root .defined
  some { root := root, current := [], path := path, isArray := true }

end Builder

/-- Read a header's key and closing bracket(s), then the end of its line. -/
def headerRest (fuel : Nat) (close : Input → Option Input) (s : Input) :
    Option (List String × Input) := do
  let (keys, r) ← keyPath? fuel s
  let r ← close r
  let r ← lineEnd? r
  some (keys, r)

/-- Read the lines of a document. -/
def lines : Nat → Builder → Input → Option Builder
  | 0, _, _ => none
  | fuel + 1, b, s =>
    match skipBlanks s with
    | [] => some b
    | '\n' :: r => lines fuel b r
    | '\r' :: '\n' :: r => lines fuel b r
    | t@('#' :: _) => do
      let r ← lineEnd? t
      lines fuel b r
    | '[' :: '[' :: r => do
      let (path, r) ← headerRest fuel (fun
        | ']' :: ']' :: u => some u
        | _ => none) r
      lines fuel (← b.startArray path) r
    | '[' :: r => do
      let (path, r) ← headerRest fuel (fun
        | ']' :: u => some u
        | _ => none) r
      lines fuel (← b.startTable path) r
    | t => do
      let (keys, r) ← keyPath? fuel t
      let r ← match r with
        | '=' :: u => some u
        | _ => none
      let (v, r) ← value fuel 0 (skipBlanks r)
      let r ← lineEnd? r
      lines fuel (← b.pair keys v) r

/-- The table of a TOML document, or nothing when the text is not valid TOML. -/
def parse (text : String) : Option Value := do
  let s := match text.toList with
    | '\uFEFF' :: r => r
    | s => s
  let b ← lines (4 * s.length + 4) {} s
  let b ← b.finish
  some (.table (entriesToValue b.root))

end Stimulator.Toml
