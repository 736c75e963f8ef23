import ProtectedBoot.Address
import ProtectedBoot.Segment.GlobalTable

/-!
# The processor as the boot code sees it

Everything the boot code does that needs privileges is one of eleven **calls**. A processor answers
them from a state of its own, and it may answer the same call differently each time. The boot code is
written against any processor at all; the simulated machine is one, a scripted processor another.
-/

namespace ProtectedBoot.Boot

/-- A privileged operation. -/
inductive Call where
  /-- Tell the processor where its descriptor table is. -/
  | loadTable (pointer : TablePointer)
  /-- Switch to protected mode. -/
  | enableProtection
  /-- Continue in a code segment. -/
  | reloadCode (selector : Selector .code)
  /-- Use a data segment for data and stack. -/
  | reloadData (selector : Selector .data)
  /-- Ask whether the processor is in protected mode. -/
  | protectionEnabled
  /-- Try whether memory at an address keeps what is stored there. -/
  | probe (a : PhysAddr)
  /-- Tell the processor where its page directory is. -/
  | installDirectory (directory : PhysAddr)
  /-- Allow 4 MiB pages. -/
  | enableLargePages
  /-- Translate addresses from here on. -/
  | enablePaging
  /-- Ask whether addresses are translated. -/
  | pagingEnabled
  /-- Stop. -/
  | halt
deriving DecidableEq

/-- What a call is answered with. -/
abbrev Call.Answer : Call → Type
  | .protectionEnabled | .probe _ | .pagingEnabled => Bool
  | _ => Unit

/-- The name of a call. -/
def Call.name : Call → String
  | .loadTable _ => "load_gdt"
  | .enableProtection => "enable_protection"
  | .reloadCode _ => "reload_code_segment"
  | .reloadData _ => "reload_data_segments"
  | .protectionEnabled => "protection_enabled"
  | .probe _ => "probe"
  | .installDirectory _ => "install_page_directory"
  | .enableLargePages => "enable_large_pages"
  | .enablePaging => "enable_paging"
  | .pagingEnabled => "paging_enabled"
  | .halt => "halt"

/-- What a call is made with. -/
def Call.operands : Call → List Nat
  | .loadTable p => [p.limit.toNat, p.base.toNat]
  | .reloadCode s => [s.bits.toNat]
  | .reloadData s => [s.bits.toNat]
  | .probe a | .installDirectory a => [a.toNat]
  | _ => []

/-- A processor with states of type `σ`. -/
structure Processor (σ : Type) where
  perform : (c : Call) → σ → Except Fault c.Answer × σ

end ProtectedBoot.Boot
