import Stimulator.Storage.Item
import Stimulator.Storage.Key

/-!
# The settings map

A wear-levelling key-value map over the sixteen pages of the partition. Each page has a start
marker in its first word and an end marker in its last; a marker counts as written once four of
its bits are clear, so a single flipped bit does not change a page's state:

* both markers unwritten: `open`, erased and unused;
* start written only: `partialOpen`, the page now being filled;
* both written: `closed`, full;
* end written only: the page is corrupted (an erase was cut short).

Items go into the one partially open page. When an item does not fit, the page is closed and the
next page taken; that page was kept open as a buffer, and when the page after it is in use, the
items there that are still the newest of their key move into the new page before it is erased to
become the buffer again (`migrate`).

The newest value of a key is the last matching item of the newest page that has one, searching
back from the page in use while pages are closed (`locate`). Any inconsistency found on the way
is `MapError.corrupted`, and an operation that meets it repairs the partition once and runs again
(`withRepair`): pages with a corrupted state are erased, and a migration that was cut short is
done again.

* `fetch` : the value stored under a key, if any;
* `store` : store a value under a key.
-/

namespace Stimulator.Storage

/-- The use a page is in. -/
inductive PageState where
  | open
  | partialOpen
  | closed
  deriving DecidableEq, Repr, Inhabited

namespace Map

open Item

/-- Pages in the partition. -/
def pageCount : Nat := 16
/-- Bytes in a page. -/
def pageSize : Nat := 4096
/-- Steps enough to walk any page: each step moves at least a word. -/
def pageSteps : Nat := pageSize / wordSize + 1

/-- Where page `p` starts. -/
def pageStart (p : Nat) : Nat := p * pageSize
/-- Where page `p` ends. -/
def pageEnd (p : Nat) : Nat := (p + 1) * pageSize
/-- Where the items of page `p` start, after its start marker. -/
def itemsStart (p : Nat) : Nat := pageStart p + wordSize
/-- Where the items of page `p` end, before its end marker. -/
def itemsEnd (p : Nat) : Nat := pageEnd p - wordSize

/-- The page after `p`, round the partition. -/
def nextPage (p : Nat) : Nat := (p + 1) % pageCount
/-- The page before `p`, round the partition. -/
def previousPage (p : Nat) : Nat := (p + pageCount - 1) % pageCount

/-- Clear bits in a byte. -/
def zeroBits (b : UInt8) : Nat := (List.range 8).countP (fun i => !b.toNat.testBit i)

/-- A marker word counts as written once four of its bits are clear. -/
def isMarked (w : List UInt8) : Bool := 4 ≤ w.foldl (fun n b => n + zeroBits b) 0

/-- The marker word. -/
def marker : List UInt8 := List.replicate wordSize 0

/-- The state of page `p`, from its two markers. -/
def pageState (p : Nat) : MapM PageState := do
  let start ← readBytes (pageStart p) wordSize
  let stop ← readBytes (itemsEnd p) wordSize
  match isMarked start, isMarked stop with
  | true, true => pure .closed
  | true, false => pure .partialOpen
  | false, true => throw .corrupted
  | false, false => pure .open

/-- The first of `pages` in state `s`. -/
def findIn (s : PageState) : List Nat → MapM (Option Nat)
  | [] => pure none
  | p :: ps => do if (← pageState p) = s then pure (some p) else findIn s ps

/-- The first page in state `s`. -/
def findFirst (s : PageState) : MapM (Option Nat) := findIn s (List.range pageCount)

/-- Erase page `p`, making it open. -/
def openPage (p : Nat) : MapM Unit := eraseRange (pageStart p) (pageEnd p)

/-- Write the start marker of an open page; the page's state after. -/
def partialClose (p : Nat) : MapM PageState := do
  let s ← pageState p
  if s ≠ .open then return s
  writeBytes (pageStart p) marker
  pure .partialOpen

/-- Write whichever markers of page `p` are still unwritten. -/
def close (p : Nat) : MapM Unit := do
  if (← partialClose p) = .partialOpen then writeBytes (itemsEnd p) marker

/-- The key an item's data starts with. -/
def keyOf (data : List UInt8) : MapM Key :=
  match data with
  | [] => throw .serialization
  | b :: _ => match Key.ofByte? b with
    | some k => pure k
    | none => throw .serialization

variable (scratch : Nat)

/-- The last item of page `p` under `key`: its address and data. -/
def newestIn (key : Key) (p : Nat) : MapM (Option (Nat × List UInt8)) :=
  foldItems scratch (fun acc addr data => do
    let k ← keyOf data
    pure (if k = key then some (addr, data) else acc)) pageSteps (itemsStart p) (itemsEnd p) none

/-- The page written last: the partially open one, else the closed page before the first
open one. `none` when nothing was ever written. -/
def lastUsedPage : MapM (Option Nat) := do
  match ← findFirst .partialOpen with
  | some p => pure (some p)
  | none =>
    match ← findFirst .open with
    | none => throw .corrupted
    | some p =>
      if (← pageState (previousPage p)) = .closed then pure (some (previousPage p)) else pure none

/-- Search back from page `p` while pages are closed. -/
def searchBack (key : Key) : Nat → Nat → MapM (Option (Nat × List UInt8))
  | 0, _ => pure none
  | fuel + 1, p => do
    match ← newestIn scratch key p with
    | some r => pure (some r)
    | none =>
      if (← pageState (previousPage p)) = .closed then searchBack key fuel (previousPage p)
      else pure none

/-- The newest item under `key`: its address and data. -/
def locate (key : Key) : MapM (Option (Nat × List UInt8)) := do
  match ← lastUsedPage with
  | none => pure none
  | some p => searchBack scratch key pageCount p

/-- Move the items of page `source` that are still the newest of their key into page `target`,
then erase `source`. -/
def migrate (source target : Nat) : MapM Unit := do
  let _ ← foldItems scratch (fun (next : Nat) addr data => do
      let key ← keyOf data
      match ← locate scratch key with
      | none => throw .corrupted
      | some (found, newest) =>
        if found = addr then
          writeItem next (headerOf newest) newest
          pure ((headerOf newest).next next)
        else pure next) pageSteps (itemsStart source) (itemsEnd source) (itemsStart target)
  openPage source

/-- Erase every page of `pages` whose state is corrupted. -/
def repairPages : List Nat → MapM Unit
  | [] => pure ()
  | p :: ps => do
    orElse (do let _ ← pageState p; pure ())
      (fun e => if e = .corrupted then openPage p else pure ())
    repairPages ps

/-- Erase the pages with a corrupted state, then finish a migration that was cut short: when
the page after the partially open one is in use, the partially open page is erased and filled
again from it. -/
def repair : MapM Unit := do
  repairPages (List.range pageCount)
  match ← findFirst .partialOpen with
  | none => pure ()
  | some p =>
    if (← pageState (nextPage p)) ≠ .open then
      openPage p
      let _ ← partialClose p
      migrate scratch (nextPage p) p

/-- Run `x`; when it finds the partition corrupted, repair it and run `x` once more. -/
def withRepair {α : Type} (x : MapM α) : MapM α :=
  orElse x (fun e => if e = .corrupted then do repair scratch; x else throw e)

/-- Put the item `data` into the partially open page `p` if it fits (`true`), else close `p`.
The free space is the distance from the free spot to the end of the items; a damaged header can
put the spot past that end, and then the distance is below zero (`MapError.underflow`). -/
def placeIn (p : Nat) (data : List UInt8) : MapM Bool := do
  if (← pageState (nextPage p)) ≠ .open then throw .corrupted
  if scratch < data.length then throw .serialization
  if 65535 < data.length ∨ pageSize - 2 * wordSize - headerSize < data.length then throw .tooBig
  let spot ← freeSpot pageSteps (itemsStart p) (itemsEnd p)
  if itemsEnd p < spot then throw .underflow
  match capacity (itemsEnd p - spot) with
  | some room =>
    if data.length ≤ room then
      writeItem spot (headerOf data) data
      return true
  | none => pure ()
  close p
  pure false

/-- Store the item `data`, taking a new page when the one in use is full; `fuel` counts the
pages that may still be taken. -/
def storeLoop (data : List UInt8) : Nat → MapM Unit
  | 0 => throw .full
  | fuel + 1 => do
    match ← findFirst .partialOpen with
    | some p =>
      if ← placeIn scratch p data then return ()
      let q := nextPage p
      if (← pageState q) ≠ .open then throw .corrupted
      let _ ← partialClose q
      if (← pageState (nextPage q)) ≠ .open then migrate scratch (nextPage q) q
    | none =>
      match ← findFirst .open with
      | none => throw .corrupted
      | some q => let _ ← partialClose q
    storeLoop data fuel

/-- The value stored under `key`, if any. -/
def fetch (key : Key) : MapM (Option (List UInt8)) := do
  match ← withRepair scratch (locate scratch key) with
  | none => pure none
  | some (_, data) => pure (some (data.drop 1))

/-- Store `value` under `key`. -/
def store (key : Key) (value : List UInt8) : MapM Unit :=
  withRepair scratch (storeLoop scratch (key.toByte :: value) pageCount)

end Map

end Stimulator.Storage
