import ProtectedBoot.Boot.Error
import ProtectedBoot.Boot.Processor
import ProtectedBoot.Paging.Build
import ProtectedBoot.Platform
import ProtectedBoot.Screen.StatusBoard

/-!
# The boot sequence

`dispatch` takes a machine that has just been started to the kernel:

1. load the descriptor table and enter protected mode,
2. refuse to go on if the processor did not follow,
3. probe memory at a few addresses,
4. if paging is wanted, build the page tables, check that everything still in use stays where it is,
   and turn paging on,
5. enter the kernel,
6. halt, whichever way it went.

Everything a run does to the outside is kept in its session: what it asked of the processor, what it
logged, what it showed, and what it wrote into the page tables.
-/

namespace ProtectedBoot.Boot

open Paging (AddressSpace Edit PagingConfig PagingSummary)

/-! ## Plans -/

/-- An address at which memory is tried. -/
structure Probe where
  label : String
  address : PhysAddr
deriving DecidableEq

/-- The addresses that are tried unless others are asked for. -/
def defaultProbes : List Probe := [
  ⟨"probe low memory 0x1000", ⟨0x1000⟩⟩,
  ⟨"probe VGA text 0xB8000", ⟨Platform.textBuffer⟩⟩,
  ⟨"probe load base 0x100000", ⟨Platform.loadBase⟩⟩]

/-- How paging is to be turned on. -/
structure PagingStage where
  /-- Where the page tables lie. -/
  base : PhysAddr
  config : PagingConfig
  /-- Addresses in use while paging is turned on. -/
  keepMapped : List PhysAddr
deriving DecidableEq

/-- A plan for booting a machine with states of type `σ`. -/
structure Plan (σ : Type) (shape : TableShape) where
  table : BoundTable shape
  probes : List Probe
  paging : Option PagingStage
  /-- What the kernel does until it returns, and what it logs. -/
  kernel : σ → List Log.Record × σ

/-! ## Sessions -/

/-- What happens to the machine. -/
inductive Event where
  /-- The processor is called. -/
  | call (c : Call)
  /-- The kernel is entered. -/
  | kernelEntry
deriving DecidableEq

/-- Everything that a run changes; the page tables are `n` and a directory. -/
structure Session (σ : Type) (n : Nat) where
  machine : σ
  events : List Event
  logs : List Log.Record
  board : Screen.StatusBoard
  tables : AddressSpace n

/-- The session at the start, with a board that begins in a given row. -/
def Session.start {σ : Type} {n : Nat} (machine : σ) (row : Nat) : Session σ n :=
  ⟨machine, [], [], .startingAt row, .empty n⟩

/-- A part of the sequence. -/
abbrev Step (σ : Type) (n : Nat) (α : Type) : Type := Attempt (Session σ n) BootError α

variable {σ α : Type} {n : Nat} {shape : TableShape}

/-- Call the processor. -/
def call (cpu : Processor σ) (c : Call) : Step σ n c.Answer := fun s =>
  let (result, machine) := cpu.perform c s.machine
  (result.mapError .fault, { s with machine, events := s.events ++ [.call c] })

/-- Add records to the log. -/
def append (records : List Log.Record) : Step σ n Unit :=
  Attempt.update fun s => { s with logs := s.logs ++ records }

/-- Log a message of the boot sequence. -/
def log (level : Log.Level) (message : String) : Step σ n Unit :=
  append [⟨level, Log.bootSequence, message⟩]

/-- Show how a step went. -/
def display (label : String) (ok : Bool) : Step σ n Unit :=
  Attempt.update fun s => { s with board := s.board.report label ok }

/-- Work on the page tables. -/
def onTables (e : Edit n α) : Step σ n α := fun s =>
  match e s.tables with
  | (.ok a, tables) => (.ok a, { s with tables })
  | (.error (.refused cause), tables) => (.error (.refused (.paging cause)), { s with tables })
  | (.error (.fault f), tables) => (.error (.fault f), { s with tables })

/-- Enter the kernel and wait for it to return. -/
def enter (kernel : σ → List Log.Record × σ) : Step σ n Unit :=
  Attempt.update fun s =>
    let (records, machine) := kernel s.machine
    { s with machine, events := s.events ++ [.kernelEntry], logs := s.logs ++ records }

/-! ## The steps -/

/-- A table that the processor has been told of and that its segment registers refer to. -/
structure LoadedTable (shape : TableShape) where
  bound : BoundTable shape

/-- The record that reports a loaded table. -/
def loadRecord (b : BoundTable shape) : Log.Record where
  level := .debug
  target := Log.descriptorTables
  message :=
    "GDT loaded: " ++ toString shape.entries ++ " descriptors at " ++
      Text.hexWide 8 b.pointer.base.toNat ++ ", CS=" ++ Text.hexWide 2 kernelCode.bits.toNat ++
      " DS=" ++ Text.hexWide 2 kernelData.bits.toNat

/-- Hand the descriptor table to the processor and enter its segments. -/
def load (cpu : Processor σ) (b : BoundTable shape) : Step σ n (LoadedTable shape) := do
  call cpu (.loadTable b.pointer)
  call cpu .enableProtection
  call cpu (.reloadCode kernelCode)
  call cpu (.reloadData kernelData)
  append [loadRecord b]
  return ⟨b⟩

/-- Load the table and confirm that the processor is in protected mode. -/
def enterProtectedMode (cpu : Processor σ) (b : BoundTable shape) : Step σ n Unit := do
  let _ ← load cpu b
  display "descriptor table loaded" true
  if ← call cpu .protectionEnabled then
    log .info s!"protected mode active, {shape.entries} descriptors"
    display "protected mode" true
  else Attempt.refuse .protectionNotEnabled

/-- How many probes went which way. -/
structure Tally where
  passed : Nat
  failed : Nat
deriving DecidableEq

/-- One more probe. -/
def Tally.count (t : Tally) (ok : Bool) : Tally :=
  if ok then { t with passed := t.passed + 1 } else { t with failed := t.failed + 1 }

/-- Probe one address and tell how it went. -/
def probe (cpu : Processor σ) (p : Probe) : Step σ n Bool := do
  let ok ← call cpu (.probe p.address)
  if ok then log .debug (p.label ++ ": ok")
  else log .warn (p.label ++ ": pattern did not read back")
  display p.label ok
  return ok

/-- Probe addresses in turn. -/
def probeAll (cpu : Processor σ) (t : Tally) : List Probe → Step σ n Tally
  | [] => return t
  | p :: rest => do
    let ok ← probe cpu p
    probeAll cpu (t.count ok) rest

/-- The first address that is not mapped to itself. -/
def firstMoved (t : AddressSpace n) : List PhysAddr → Except Fault (Option PhysAddr)
  | [] => .ok none
  | a :: rest => do
    if ← t.identityMaps a then firstMoved t rest else return some a

/-- Build the page tables and check that what is in use stays where it is. -/
def prepare (stage : PagingStage) : Step σ n PagingSummary := do
  let (summary, record) ← onTables (Paging.build stage.base stage.config)
  append [record]
  let s ← Attempt.state
  match ← Attempt.ofFaulting (firstMoved s.tables stage.keepMapped) with
  | some a => Attempt.refuse (.notIdentityMapped a)
  | none => return summary

/-- Turn paging on and confirm that the processor did. -/
def turnPagingOn (cpu : Processor σ) (stage : PagingStage) : Step σ n Unit := do
  let s ← Attempt.state
  call cpu (.installDirectory s.tables.base)
  if stage.config.pageSize = .mib4 then call cpu .enableLargePages
  call cpu .enablePaging
  if !(← call cpu .pagingEnabled) then Attempt.refuse .pagingNotEnabled

/-- The whole of the paging step. -/
def performStage (cpu : Processor σ) (stage : PagingStage) : Step σ n PagingSummary := do
  let summary ← prepare stage
  turnPagingOn cpu stage
  log .info <|
    s!"paging enabled: {summary.directoryEntries} directory entries, " ++
      s!"{summary.tablesUsed} tables, {summary.smallPages} 4 KiB / " ++
      s!"{summary.largePages} 4 MiB pages"
  display "paging" true
  return summary

/-! ## The sequence -/

/-- What a run found before it entered the kernel. -/
structure Report where
  probes : Tally
  paging : Option PagingSummary
deriving DecidableEq

/-- Everything up to the kernel. -/
def run (cpu : Processor σ) (plan : Plan σ shape) : Step σ n Report := do
  enterProtectedMode cpu plan.table
  let probes ← probeAll cpu ⟨0, 0⟩ plan.probes
  match plan.paging with
  | none => return ⟨probes, none⟩
  | some stage => return ⟨probes, some (← performStage cpu stage)⟩

/-- Enter the kernel after a run that went well. -/
def launch (plan : Plan σ shape) (report : Report) : Step σ n Unit := do
  log .info <|
    s!"boot complete ({report.probes.passed} probes ok, {report.probes.failed} failed), " ++
      "entering kernel"
  enter plan.kernel
  log .info "kernel entry returned; halting"

/-- Tell why the boot is aborted. -/
def abort (e : BootError) : Step σ n Unit := do
  log .error ("boot aborted: " ++ e.message)
  display e.step false

/-- The boot sequence: run, enter the kernel if that went well, and halt. -/
def dispatch (cpu : Processor σ) (plan : Plan σ shape) : Step σ n Unit := do
  match ← Attempt.settle (run cpu plan) with
  | .ok report => launch plan report
  | .error e => abort e
  call cpu .halt

end ProtectedBoot.Boot
