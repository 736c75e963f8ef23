import ProtectedBoot.LinkScript

/-!
# The build step

Prints the instructions for the linker. Where the sources are and what they are built for comes from
the environment.
-/

open ProtectedBoot

/-- Print the instructions; without them, say why and fail. -/
def main : IO UInt32 := do
  let directory ← IO.getEnv "CARGO_MANIFEST_DIR"
  let architecture ← IO.getEnv "CARGO_CFG_TARGET_ARCH"
  match LinkScript.instructions directory architecture with
  | .ok lines =>
    lines.forM IO.println
    return 0
  | .error e =>
    IO.eprintln e.message
    return 101
