import ProtectedBoot.Paging.Error
import ProtectedBoot.Segment.GlobalTable

/-!
# Reasons to abort the boot

Each failing step of the boot has a cause, a sentence for the log, and a short label for the screen.
-/

namespace ProtectedBoot.Boot

/-- Why the boot was aborted. -/
inductive BootError where
  /-- The descriptor table cannot be used. -/
  | table (cause : TableError)
  /-- The processor did not switch to protected mode. -/
  | protectionNotEnabled
  /-- The page tables could not be built. -/
  | paging (cause : Paging.PagingError)
  /-- Something in use would move when paging is turned on. -/
  | notIdentityMapped (a : PhysAddr)
  /-- The processor did not turn paging on. -/
  | pagingNotEnabled
deriving DecidableEq

namespace BootError

/-- The name of the cause. -/
def kind : BootError → String
  | table _ => "Gdt"
  | protectionNotEnabled => "ProtectionNotEnabled"
  | paging _ => "Paging"
  | notIdentityMapped _ => "NotIdentityMapped"
  | pagingNotEnabled => "PagingNotEnabled"

/-- The sentence that reports the error. -/
def message : BootError → String
  | table cause => cause.message
  | protectionNotEnabled => "CR0.PE is still clear after loading the GDT"
  | paging cause => "failed to build the boot page directory: " ++ cause.message
  | notIdentityMapped a => a.text ++ " would not be identity mapped once paging is on"
  | pagingNotEnabled => "CR0.PG is still clear after enabling paging"

/-- The sentence of the error behind this one, if its own sentence does not stand for it. -/
def source : BootError → Option String
  | paging cause => some cause.message
  | _ => none

/-- The label of the step that failed. -/
def step : BootError → String
  | table _ => "descriptor table"
  | protectionNotEnabled => "protected mode"
  | paging _ => "page directory"
  | notIdentityMapped _ => "identity map"
  | pagingNotEnabled => "paging"

/-- The outline of the error. -/
def outline (e : BootError) : String :=
  match e with
  | table cause => Text.applied e.kind [cause.outline]
  | paging cause => Text.applied e.kind [cause.outline]
  | notIdentityMapped a => Text.applied e.kind [a.outline]
  | protectionNotEnabled | pagingNotEnabled => e.kind

end BootError

end ProtectedBoot.Boot
