import Stimulator.Config.ChannelFile

/-!
# The firmware build step

Before the firmware is linked, its build step writes the memory layout for the linker, tells
the build tool how to link and when to run again, and turns the channel configuration file
into the firmware's power-on defaults. It fails, with a boxed message, when the file is
missing, is not UTF-8 text, is not valid TOML, or does not pass `ChannelFile.validate`.

* `BuildScript.run file defmt` : what the step prints, the files it writes, and how it failed.
-/

namespace Stimulator.BuildScript

/-- The linker's memory layout: the last 64 KiB of flash are left to the settings store. -/
def memoryLayout : String :=
  "MEMORY \x7b\n" ++
  "    BOOT2 : ORIGIN = 0x10000000, LENGTH = 0x100\n" ++
  "    /* Last 64K of flash hold the settings partition */\n" ++
  "    FLASH : ORIGIN = 0x10000100, LENGTH = 2048K - 0x100 - 64K\n" ++
  "    RAM   : ORIGIN = 0x20000000, LENGTH = 256K\n" ++
  "\x7d\n"

/-- How the step failed. -/
inductive Failure where
  /-- It stopped with a message. -/
  | panic (message : String)
  /-- The configuration file is not valid TOML; the message quotes the parser. -/
  | tomlSyntax
  deriving DecidableEq, Repr, Inhabited

/-- What the step did. -/
structure Outcome where
  /-- The lines printed for the build tool. -/
  stdout : List String
  /-- The defaults written, when the step got that far. -/
  generated : Option String
  failure : Option Failure

/-- The instructions for the linker; the defmt linker script only with that feature. -/
def linkerLines (defmt : Bool) : List String :=
  ["cargo:rustc-link-search=$OUT_DIR",
   "cargo:rustc-link-arg-bins=--nmagic",
   "cargo:rustc-link-arg-bins=-Tlink.x",
   "cargo:rustc-link-arg-bins=-Tlink-rp.x"] ++
  (if defmt then ["cargo:rustc-link-arg-bins=-Tdefmt.x"] else []) ++
  ["cargo:rerun-if-changed=memory.x",
   "cargo:rerun-if-changed=build.rs",
   "cargo:rerun-if-changed=channels.toml"]

/-- `s` padded with spaces to `width` characters. -/
def padRight (s : String) (width : Nat) : String := s ++ String.ofList (List.replicate (width - s.length) ' ')

/-- The top edge of a message box. -/
def topEdge : String := "╔══════════════════════════════════════════════════════════════════╗"
/-- The rule under a message box's title. -/
def rule : String := "╠══════════════════════════════════════════════════════════════════╣"
/-- The bottom edge of a message box. -/
def bottomEdge : String := "╚══════════════════════════════════════════════════════════════════╝"

/-- The message when the configuration file is missing. -/
def missingMessage : String :=
  "\n" ++ topEdge ++ "\n" ++
  "║  ERROR: channels.toml not found!                                 ║\n" ++
  "║                                                                  ║\n" ++
  "║  The firmware requires per-channel power-on defaults.            ║\n" ++
  "║  Please create channels.toml in the galvani-firmware directory.  ║\n" ++
  bottomEdge ++ "\n"

/-- The message when the configuration file cannot be read as text. -/
def unreadableMessage (error : String) : String :=
  "\n" ++ topEdge ++ "\n" ++
  "║  ERROR: Failed to read channels.toml                             ║\n" ++
  "║                                                                  ║\n" ++
  "║  Error: " ++ padRight error 56 ++ " ║\n" ++
  bottomEdge ++ "\n"

/-- The message listing the configuration's problems. -/
def invalidMessage (errors : List String) : String :=
  "\n" ++ topEdge ++ "\n" ++
  "║  ERROR: Invalid channel configuration                            ║\n" ++
  rule ++ "\n" ++
  "\n".intercalate (errors.map fun e => "║  • " ++ padRight e 62 ++ " ║") ++ "\n" ++
  bottomEdge ++ "\n"

/-- Why text that is not UTF-8 cannot be read. -/
def notUtf8 : String := "stream did not contain valid UTF-8"

/-- Run the step on the configuration file's bytes (`none` when there is no file). -/
def run (file : Option ByteArray) (defmt : Bool) : Outcome :=
  let printed := linkerLines defmt
  let stop := fun (message : String) => (⟨printed, none, some (.panic message)⟩ : Outcome)
  match file with
  | none => stop missingMessage
  | some bytes =>
    match String.fromUTF8? bytes with
    | none => stop (unreadableMessage notUtf8)
    | some text =>
      match Toml.load text with
      | none => ⟨printed, none, some .tomlSyntax⟩
      | some doc =>
        let report := ChannelFile.validate doc
        if report.errors.isEmpty then
          let k := report.channels.length
          ⟨printed ++ [s!"cargo:warning=channels.toml validated successfully ({k} channels)"],
            some (ChannelFile.render report.channels), none⟩
        else stop (invalidMessage report.errors)

end Stimulator.BuildScript
