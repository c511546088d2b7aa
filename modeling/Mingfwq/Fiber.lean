import Mathlib.Tactic.TypeStar

/-! # The states of a fiber (`Fiber::State`, fiber.h) -/

namespace Mingfwq

inductive FiberState where
  | INIT | HOLD | EXEC | TERM | READY | EXCEPT
  deriving DecidableEq, Repr

/-- `getState() == TERM || getState() == EXCEPT`: the fiber function has returned or thrown. -/
def FiberState.finished : FiberState → Bool
  | .TERM | .EXCEPT => true
  | _ => false

end Mingfwq
