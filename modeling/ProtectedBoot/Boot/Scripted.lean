import ProtectedBoot.Boot.Processor

/-!
# A scripted processor

It knows two bits and follows a script: what its mode bits become when it is told to set them, and
which probes fail. With it one sees what the boot code asks for when things go wrong.
-/

namespace ProtectedBoot.Boot

/-- The state of a scripted processor, and its script. -/
structure Script where
  /-- Whether it is in protected mode. -/
  isProtected : Bool
  /-- Whether it translates addresses. -/
  isTranslating : Bool
  /-- What the first bit becomes when protected mode is turned on. -/
  protects : Bool
  /-- What the second bit becomes when paging is turned on. -/
  translates : Bool
  /-- The addresses whose probes fail. -/
  broken : List PhysAddr
deriving DecidableEq

/-- The processor that follows its script. -/
def scripted : Processor Script where
  perform c s := match c with
    | .protectionEnabled => (.ok s.isProtected, s)
    | .pagingEnabled => (.ok s.isTranslating, s)
    | .probe a => (.ok (!s.broken.contains a), s)
    | .enableProtection => (.ok (), { s with isProtected := s.protects })
    | .enablePaging => (.ok (), { s with isTranslating := s.translates })
    | .loadTable _ | .reloadCode _ | .reloadData _ | .installDirectory _ | .enableLargePages
    | .halt => (.ok (), s)

end ProtectedBoot.Boot
