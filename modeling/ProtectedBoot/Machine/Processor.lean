import ProtectedBoot.Boot.Processor
import ProtectedBoot.ControlRegister
import ProtectedBoot.Machine.State

/-!
# The machine as a processor

How the machine carries out the calls of the boot code. A control register is always read, changed
in the bits that the call is about, and written back, so everything else in it stays.
-/

namespace ProtectedBoot.Machine

/-- Change a control register. -/
def modifyControl (r : ControlRegister) (f : Word → Word) : StateM State Unit := do
  let v ← readControl r
  writeControl r (f v)

/-- Switch to protected mode. -/
def enableProtection : StateM State Unit :=
  modifyControl .cr0 (Cr0.protection.assign · true)

/-- Whether the machine is in protected mode. -/
def protectionEnabled : StateM State Bool := do
  return Cr0.protection.isSet (← readControl .cr0)

/-- Use a selector for data and stack. -/
def reloadData (selector : HalfWord) : StateM State Unit := do
  loadSegment .ds selector
  loadSegment .es selector
  loadSegment .fs selector
  loadSegment .gs selector
  loadSegment .ss selector

/-- Select a page directory; a fault unless it starts a page. -/
def installDirectory (directory : PhysAddr) : ExceptT Fault (StateM State) Unit := do
  let v ← ExceptT.mk (pure (Cr3.ofDirectory directory false false))
  ExceptT.lift (writeControl .cr3 v)

/-- Allow 4 MiB pages. Wide page tables are turned off, because they have none. -/
def enableLargePages : StateM State Unit :=
  modifyControl .cr4 fun v =>
    Cr4.physicalExtension.assign (Cr4.pageSizeExtensions.assign v true) false

/-- Translate addresses from here on. -/
def enablePaging : StateM State Unit :=
  modifyControl .cr0 (Cr0.paging.assign · true)

/-- Whether addresses are translated. -/
def pagingEnabled : StateM State Bool := do
  return Cr0.paging.isSet (← readControl .cr0)

/-- What a probe stores. -/
def probePattern : Byte := 0xA5

/-- Store a pattern, see whether it is there, and put back what was there before. -/
def probe (a : PhysAddr) : StateM State Bool := do
  let kept ← readByte a
  writeByte a probePattern
  let seen ← readByte a
  writeByte a kept
  return seen == probePattern

/-- The machine as a processor. -/
def processor : Boot.Processor State where
  perform c s :=
    let infallible {α : Type} (x : StateM State α) : Except Fault α × State :=
      ((x s).1 |> .ok, (x s).2)
    match c with
    | .loadTable pointer => infallible (loadTable pointer)
    | .enableProtection => infallible enableProtection
    | .reloadCode selector => infallible (farReturn selector.bits)
    | .reloadData selector => infallible (reloadData selector.bits)
    | .protectionEnabled => infallible protectionEnabled
    | .probe a => infallible (probe a)
    | .installDirectory directory => installDirectory directory s
    | .enableLargePages => infallible enableLargePages
    | .enablePaging => infallible enablePaging
    | .pagingEnabled => infallible pagingEnabled
    | .halt => infallible haltForever

end ProtectedBoot.Machine
