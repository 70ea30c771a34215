import GpuHandles.Number.Binary
/-!
Quotient and remainder of a floating value by a whole number.

The remainder is exact.  The quotient is what is left without the remainder, divided
and rounded twice as a processor does it, and then brought to a whole number.
-/

namespace GpuHandles.Binary

/-- The largest whole number that is at most `num / den`, or the one above where that is
nearer. -/
def wholeNear (num den : Nat) : Nat :=
  if den < 2 * (num % den) then num / den + 1 else num / den

/-- Quotient and remainder of a value that is not below zero. -/
def divideWith (f : Format) (by_ : Nat) : Binary → Binary × Binary
  | .finite negative 0 _ => (.finite negative 0 f.lowest, .finite false 0 f.lowest)
  | .finite _ m e =>
    let (num, den) := scaleFraction m 1 e
    let rest := num % (by_ * den)
    match round f false (num - rest) den with
    | .finite _ n k =>
      let (num', den') := scaleFraction n 1 k
      match round f false num' (den' * by_) with
      | .finite _ q j =>
        let (top, bottom) := scaleFraction q 1 j
        (round f false (wholeNear top bottom) 1, round f false rest den)
      | x => (x, round f false rest den)
    | x => (x, round f false rest den)
  | _ => (undefined false, undefined false)

end GpuHandles.Binary
