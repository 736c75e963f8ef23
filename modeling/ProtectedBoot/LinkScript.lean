import ProtectedBoot.Layout.Plan

/-!
# Instructions for the linker

The build of the kernel image tells the linker where its script is and hands it the numbers that the
script shares with the boot code. A build for another architecture links no image, and only says
what the outcome depends on.
-/

namespace ProtectedBoot.LinkScript

/-- A file in a directory. -/
def join (directory file : String) : String :=
  if directory.isEmpty || directory.endsWith "/" then directory ++ file
  else directory ++ "/" ++ file

/-- The numbers that the script needs. -/
def symbols : List (String × Word) := [
  ("PHYS_LOAD", Platform.loadBase),
  ("KERNEL_VIRT_OFFSET", Platform.virtOffset),
  ("IDENTITY_LOW_BYTES", Platform.identityBytes),
  ("GDT_ALIGN", Platform.tableAlignment),
  ("MULTIBOOT_SEARCH_LIMIT", Platform.searchWindow)]

/-- What the outcome of the build depends on. -/
def dependencies (script : String) : List String := [
  "cargo:rerun-if-changed=" ++ script,
  "cargo:rerun-if-changed=build.rs"]

/-- The arguments for the linker. -/
def linkerArguments (script : String) : List String :=
  ("cargo:rustc-link-arg-bins=-T" ++ script) ::
    symbols.map fun s =>
      "cargo:rustc-link-arg-bins=--defsym=" ++ s.1 ++ "=" ++ Text.hex s.2.toNat

/-- The environment does not say where the kernel's sources are. -/
inductive EnvironmentError where
  | directoryMissing
deriving DecidableEq

/-- The text of the error. -/
def EnvironmentError.message : EnvironmentError → String
  | .directoryMissing => "called \x60Result::unwrap()\x60 on an \x60Err\x60 value: NotPresent"

/-- The instructions for a build of the sources in a directory for an architecture. -/
def instructions (directory architecture : Option String) :
    Except EnvironmentError (List String) :=
  match directory with
  | none => .error .directoryMissing
  | some d =>
    let script := join d "kernel.ld"
    .ok <| if architecture = some "x86" then dependencies script ++ linkerArguments script
      else dependencies script

end ProtectedBoot.LinkScript
