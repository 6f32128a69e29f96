import HostGpu.Catalogue

/-!
# Refused requests

A request can be refused for two reasons: it breaks a rule of valid usage, or a resource is
exhausted. `ValidationError` says where in the request which rule is broken and names the published
identifiers of the rule; `ResourceError` says what ran out; `Refusal` is one of the two.
-/

namespace HostGpu

/-! ## Exhausted resources -/

inductive ResourceError where
  | outOfHostMemory
  | outOfDeviceMemory
  | outOfPoolMemory
  | fragmentedPool
deriving DecidableEq, Repr

instance : Catalogue ResourceError where
  entries := [
    ⟨.outOfHostMemory, "OutOfHostMemory", 0⟩,
    ⟨.outOfDeviceMemory, "OutOfDeviceMemory", 1⟩,
    ⟨.outOfPoolMemory, "OutOfPoolMemory", 2⟩,
    ⟨.fragmentedPool, "FragmentedPool", 3⟩]

def ResourceError.message : ResourceError → String
  | outOfHostMemory => "a host memory allocation has failed"
  | outOfDeviceMemory => "a device memory allocation has failed"
  | outOfPoolMemory => "a pool memory allocation has failed"
  | fragmentedPool => "a pool allocation has failed due to fragmentation of the pool's memory"

/-! ## Broken rules -/

/-- A broken rule of valid usage. -/
structure ValidationError where
  /-- The part of the request that breaks the rule; empty if it is the request as a whole. -/
  context : String := ""
  problem : String
  /-- The published identifiers of the rule. -/
  rules : List String := []
deriving DecidableEq, Repr

namespace ValidationError

/-- Places the error inside an enclosing part of the request. -/
def within (outer : String) (e : ValidationError) : ValidationError :=
  { e with context := if e.context = "" then outer else s!"{outer}.{e.context}" }

def message (e : ValidationError) : String :=
  if e.context = "" then e.problem else s!"{e.context}: {e.problem}"

/-- The message followed by the identifiers of the rule, one on a line. -/
def report (e : ValidationError) : String :=
  if e.rules.isEmpty then e.message
  else e.message ++ "\n\nVulkan VUIDs:" ++ String.join (e.rules.map fun rule => "\n    " ++ rule)

end ValidationError

/-! ## Either of them -/

/-- A broken rule, or an error of type `ε` of a request that is valid. -/
inductive Refusal (ε : Type) where
  | error (e : ε)
  | invalid (e : ValidationError)
deriving DecidableEq, Repr

namespace Refusal

variable {ε δ : Type}

/-- Changes the error of a valid request. -/
def map (f : ε → δ) : Refusal ε → Refusal δ
  | error e => error (f e)
  | invalid v => invalid v

/-- The error of a valid request, or else the broken rule. -/
def toExcept : Refusal ε → Except ValidationError ε
  | error e => .ok e
  | invalid v => .error v

def message : Refusal ε → String
  | error _ => "a non-validation error occurred"
  | invalid _ => "a validation error occurred"

/-- The message with what is known about the cause. -/
def report (describe : ε → String) : Refusal ε → String
  | error e => s!"a non-validation error occurred: {describe e}"
  | invalid v => s!"a validation error occurred\n\nCaused by:\n    {v.report}"

/-- The message of the cause. -/
def source (describe : ε → String) : Refusal ε → String
  | error e => describe e
  | invalid v => v.message

end Refusal

end HostGpu
