import GpuHandles.Tour
/-!
The tour as a program, on a machine of its own.
-/

open GpuHandles

/-- Print the tour; a fault goes to the error output. -/
def main : IO UInt32 := do
  let ending := Tour.run (World.start .bare .fresh (some .direct))
  IO.print ending.printed
  match ending.fault with
  | none => return 0
  | some f =>
    IO.eprintln (f.kind ++ ": " ++ f.message)
    return 1
