import Stimulator.Board.Machine
import Stimulator.Setting.Image

/-!
# Settings persistence

The firmware keeps the image of every channel's settings under the store's settings key.

* `Persist.load` : read the image into an 84-byte buffer (four channels' worth) and decode it for
  the board's channels;
* `Persist.loadOrDefault` : the stored settings, or the board's defaults when there are none or
  they cannot be used;
* `Persist.store` : write the image; when the map fails, the whole partition is erased and the
  image written once more. A write that stops the program ends the store there.

`Persist.loadWith` and `Persist.storeWith` are the same over any `Storage.ItemMap`; the firmware's
are over the settings map.

Failures are `PersistError`s, shown to the operator by `describe` and logged in the form
`debugText` gives.
-/

namespace Stimulator

/-- Why settings could not be loaded or stored. -/
inductive PersistError where
  | flash (e : Storage.FlashError)
  | image (e : ImageError)
  deriving DecidableEq, Repr, Inhabited

namespace PersistError

/-- The operator's description. -/
def describe : PersistError → String
  | .flash .notFound => "no stored settings"
  | .flash _ => "flash error"
  | .image (.lengthMismatch _ _) => "stored image size mismatch"
  | .image (.outOfBounds _) => "stored values out of bounds"

/-- The name of a store error. -/
def flashName : Storage.FlashError → String
  | .flash => "Flash"
  | .storage => "Storage"
  | .notFound => "NotFound"
  | .bufferTooSmall => "BufferTooSmall"

/-- The error as the log shows it. -/
def debugText : PersistError → String
  | .flash e => "Flash(" ++ flashName e ++ ")"
  | .image (.lengthMismatch e a) =>
    "Image(LengthMismatch \x7b expected: " ++ toString e ++ ", actual: " ++ toString a ++ " \x7d)"
  | .image (.outOfBounds c) => "Image(OutOfBounds \x7b channel: " ++ toString c ++ " \x7d)"

end PersistError

namespace Persist

/-- Channels on the board. -/
def channelCount : Nat := 2

/-- Bytes of the read buffer: the image of the most channels a board has. -/
def maxImageSize : Nat := 4 * Record.size

/-- The board's power-on defaults. -/
def defaults : Bank :=
  ⟨[{ delta := ⟨100, 50000, 4⟩ },
    { times := ⟨50000, 100, 10, 200, 12000⟩, delta := ⟨0, 50000, 4⟩ }]⟩

/-- Read and decode the image stored in map `m`. -/
def loadWith (m : Storage.ItemMap) (b : Board) : Except PersistError Bank × Board :=
  let (r, flash) := Storage.Store.readWith m .channelSettings maxImageSize b.flash
  let b := { b with flash := flash }
  match r with
  | .error e => (.error (.flash e), b)
  | .ok data =>
    let len := data.length
    let b := b.note "DEBUG" s!"Read {len} bytes of settings from flash"
    match Bank.ofImage channelCount data with
    | .ok bank => (.ok bank, b)
    | .error e => (.error (.image e), b)

/-- Read and decode the stored image. -/
def load (b : Board) : Except PersistError Bank × Board := loadWith .settings b

/-- The stored settings, or the defaults. -/
def loadOrDefault (b : Board) : Bank × Board :=
  match load b with
  | (.ok bank, b) => (bank, b.note "INFO" "Loaded channel settings from flash")
  | (.error (.flash .notFound), b) => (defaults, b.note "INFO" "No stored settings, using defaults")
  | (.error e, b) =>
    (defaults, b.note "WARN" ("Stored settings unusable (" ++ e.debugText ++ "), using defaults"))

/-- Write the settings image into map `m`, starting the partition over when the map fails. -/
def storeWith (m : Storage.ItemMap) (bank : Bank) (b : Board) :
    Storage.Ending (Except PersistError Unit) × Board :=
  let image := bank.toImage
  let k := image.length
  let stored := fun (b : Board) =>
    (Storage.Ending.returned (Except.ok ()), b.note "INFO" s!"Stored {k} bytes of settings")
  match Storage.Store.writeWith m .channelSettings image b.flash with
  | (.aborted m, flash) => (.aborted m, { b with flash := flash })
  | (.returned (.ok ()), flash) => stored { b with flash := flash }
  | (.returned (.error .storage), flash) =>
    let b := { b with flash := flash }.note "WARN" "Settings partition unusable, erasing"
    match Storage.Store.eraseAll b.flash with
    | (.error e, flash) => (.returned (.error (.flash e)), { b with flash := flash })
    | (.ok (), flash) =>
      match Storage.Store.writeWith m .channelSettings image flash with
      | (.aborted m, flash) => (.aborted m, { b with flash := flash })
      | (.returned (.ok ()), flash) => stored { b with flash := flash }
      | (.returned (.error e), flash) => (.returned (.error (.flash e)), { b with flash := flash })
  | (.returned (.error e), flash) => (.returned (.error (.flash e)), { b with flash := flash })

/-- Write the settings image, starting the partition over when the map fails. -/
def store (bank : Bank) (b : Board) : Storage.Ending (Except PersistError Unit) × Board :=
  storeWith .settings bank b

end Persist

end Stimulator
