import HostGpu.Fault

/-!
# Failed requests

A request for a resource fails with a fault or is refused. An operation that changes a state step by
step may be interrupted by a failure; what it changed before stays changed.
-/

namespace HostGpu

inductive Failure where
  | fault (f : Fault)
  | refused (r : Refusal ResourceError)
deriving DecidableEq, Repr

namespace Failure

/-- A broken rule. -/
def invalid (e : ValidationError) : Failure := refused (.invalid e)

/-- An exhausted resource. -/
def exhausted (e : ResourceError) : Failure := refused (.error e)

end Failure

/-- A failure in the middle of an operation, and the state that it left. -/
structure Interruption (σ : Type) where
  failure : Failure
  state : σ

end HostGpu
