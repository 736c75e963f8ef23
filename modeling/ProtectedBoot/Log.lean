/-!
# Log records

What the boot code tells an observer. A record has a level, the place it comes from and a message;
it is shown as one line. A **threshold** decides which levels get through.
-/

namespace ProtectedBoot.Log

/-- How important a record is, the most important first. -/
inductive Level where
  | error
  | warn
  | info
  | debug
  | trace
deriving DecidableEq

namespace Level

/-- The position of the level, from one for errors up. -/
def rank : Level → Nat
  | error => 1
  | warn => 2
  | info => 3
  | debug => 4
  | trace => 5

/-- The name of the level. -/
def name : Level → String
  | error => "ERROR"
  | warn => "WARN"
  | info => "INFO"
  | debug => "DEBUG"
  | trace => "TRACE"

/-- All levels. -/
def all : List Level := [error, warn, info, debug, trace]

end Level

/-- The least important level that is let through, or none if nothing is. -/
structure Threshold where
  least : Option Level
deriving DecidableEq

namespace Threshold

/-- Nothing gets through. -/
def off : Threshold := ⟨none⟩

/-- Whether a record of this level gets through. -/
def passes (t : Threshold) (l : Level) : Bool :=
  match t.least with
  | none => false
  | some m => l.rank ≤ m.rank

/-- The name of the threshold. -/
def name (t : Threshold) : String :=
  match t.least with
  | none => "OFF"
  | some m => m.name

/-- All thresholds. -/
def all : List Threshold := off :: Level.all.map fun l => ⟨some l⟩

end Threshold

/-! ## Records -/

/-- One record. -/
structure Record where
  level : Level
  target : String
  message : String
deriving DecidableEq

/-- The record as a line, without its end. -/
def Record.line (r : Record) : String :=
  "[" ++ r.level.name ++ "] " ++ r.target ++ ": " ++ r.message

/-- The record with the end of its line. -/
def Record.text (r : Record) : String := r.line ++ "\n"

/-- Write a record where at most `room` characters are accepted (no bound if there is none). The
answer is what was accepted and whether that was all of it. -/
def Record.write (r : Record) (room : Option Nat) : String × Bool :=
  match room with
  | none => (r.text, true)
  | some n => (String.ofList (r.text.toList.take n), r.text.length ≤ n)

/-! ## The parts of the system that log -/

/-- The target of records about the descriptor table. -/
def descriptorTables : String := "kernel_bootstrap::gdt"

/-- The target of records about the boot sequence. -/
def bootSequence : String := "kernel_bootstrap::dispatch"

/-- The target of records about the page tables. -/
def pageTables : String := "kernel_vmem::boot_tables"

/-- The target of records about what the boot loader passed on. -/
def loaderInformation : String := "kernel_multiboot::info"

/-! ## The logger -/

/-- Whether a logger has been installed, and what it lets through. -/
structure Facade where
  installed : Bool
  threshold : Threshold
deriving DecidableEq

/-- There is one logger for the life of the system. -/
inductive InstallError where
  | alreadyInstalled
deriving DecidableEq

/-- The text of an installation error. -/
def InstallError.message : InstallError → String
  | .alreadyInstalled =>
    "attempted to set a logger after the logging system was already initialized"

/-- Install the logger and set its threshold; a second installation changes nothing. -/
def Facade.install (f : Facade) (t : Threshold) : Except InstallError Unit × Facade :=
  if f.installed then (.error .alreadyInstalled, f) else (.ok (), ⟨true, t⟩)

/-! ## The debug console -/

/-- A byte sent to an input/output port. -/
structure PortWrite where
  port : BitVec 16
  byte : BitVec 8
deriving DecidableEq

namespace DebugConsole

/-- The port of the emulator's debug console. -/
def port : BitVec 16 := 0x402

/-- Send a text, byte by byte. -/
def send (text : String) : List PortWrite :=
  text.toUTF8.toList.map fun b => ⟨port, b.toBitVec⟩

/-- Send a record, if the threshold lets it through. -/
def log (t : Threshold) (r : Record) : List PortWrite :=
  if t.passes r.level then send r.text else []

end DebugConsole

end ProtectedBoot.Log
