import HostGpu.Session.Command

/-!
# Answers

What a session answers to a command: an answer, or the reason why the command failed.
-/

namespace HostGpu.Session

/-- Why a command failed. -/
inductive StepError where
  /-- There is no object of that name. -/
  | missing (name : String)
  | fault (f : Fault)
  | refused (r : Refusal ResourceError)
  | malformed (e : Spirv.ModuleError)
deriving DecidableEq, Repr

namespace StepError

def ofFailure : Failure → StepError
  | .fault f => fault f
  | .refused r => refused r

def ofInvalid (e : ValidationError) : StepError := refused (.invalid e)

def ofResource (e : ResourceError) : StepError := refused (.error e)

end StepError

/-- What a query about an image or a view gives. -/
inductive Quantity where
  | number (n : Nat)
  | extent (e : Extent)
  | pointer (p : Pointer)
deriving DecidableEq, Repr

/-- A sampled record with some of its levels. -/
structure SampledDump where
  record : SampledRecord
  levels : List (Nat × LevelRecord)
deriving DecidableEq, Repr

/-- The numbers that describe a new set layout. -/
structure LayoutSummary where
  bindings : Nat
  dataSize : Nat
  setSize : Nat
  dynamic : Nat
  immutableBytes : Nat
  /-- Where the records of the bindings start, in the order of declaration. -/
  offsets : List Nat
deriving DecidableEq, Repr

inductive Answer where
  | done
  | device (robust : Bool)
  | constants (bytes : List UInt32) (masks : List WordLanes)
  | image (info : ImageInfo)
  | quantity (q : Quantity)
  | view (view : ImageView) (state : Option ViewState)
  | sampler (info : Option SamplerInfo)
  | buffer (size : Nat)
  | bufferView (view : BufferView)
  | bytes (data : List UInt8)
  | dropped (existed : Bool)
  | registry (functions : Nat) (samplers : List (Option SamplerInfo))
    (views : List (Option ViewState))
  | resolved (functions : Nat)
  | layout (summary : LayoutSummary)
  | number (n : Nat)
  | flag (b : Bool)
  | binding (b : LayoutBinding)
  | kind (k : DescriptorKind)
  | set (dataOffset : Nat)
  | pool (pool : DescriptorPool)
  | setCount (n : Nat)
  | updated (writes : List DescriptorWrite)
  | bufferRecord (r : BufferRecord)
  | storageRecord (r : StorageRecord)
  | sampledRecord (d : SampledDump)
  | pipelineLayout (sets dynamic : Nat)
  | shader (s : Shader)
  | outputs (values : List (Option (List WordLanes)))
  | cache (entries : List CallSiteEntry)

end HostGpu.Session
