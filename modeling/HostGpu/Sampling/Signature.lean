import HostGpu.Catalogue

/-!
# Signatures of sampling instructions

A sampling function is built for the signature of an instruction: whether it compares with a depth
reference or projects its coordinates, how it finds the level of detail, and which component it
gathers. Functions are kept by signature, sampler and view.
-/

namespace HostGpu

inductive SamplingVariant where
  | plain
  | dref
  | proj
  | projDref
deriving DecidableEq, Repr

instance : Catalogue SamplingVariant where
  entries := [
    ⟨.plain, "None", 0⟩, ⟨.dref, "Dref", 1⟩, ⟨.proj, "Proj", 2⟩, ⟨.projDref, "ProjDref", 3⟩]

namespace SamplingVariant

/-- Whether there is a depth reference. -/
def isDref : SamplingVariant → Bool
  | dref | projDref => true
  | _ => false

/-- Whether the last coordinate divides the others. -/
def isProj : SamplingVariant → Bool
  | proj | projDref => true
  | _ => false

end SamplingVariant

inductive SamplingMethod where
  | implicit
  | bias
  | lod
  | grad
  | gather
  | fetch
  | query
deriving DecidableEq, Repr

instance : Catalogue SamplingMethod where
  entries := [
    ⟨.implicit, "Implicit", 0⟩, ⟨.bias, "Bias", 1⟩, ⟨.lod, "Lod", 2⟩, ⟨.grad, "Grad", 3⟩,
    ⟨.gather, "Gather", 4⟩, ⟨.fetch, "Fetch", 5⟩, ⟨.query, "Query", 6⟩]

structure SamplingSignature where
  variant : SamplingVariant
  method : SamplingMethod
  /-- The component that a gather reads; zero for other methods. -/
  gatherComponent : UInt32
deriving DecidableEq, Repr

/-- What a sampling function is specialised for. The identifiers are zero where there is no sampler
or view. -/
structure SamplingKey where
  signature : SamplingSignature
  sampler : Nat
  view : Nat
deriving DecidableEq, Repr

end HostGpu
