import HostGpu.Sampling.Function
import HostGpu.Texel.Codec

/-!
# Devices

A device knows the samplers and views that are alive and keeps the sampling functions that were
built for them. Identifiers are never used twice, so a function that was built for something that
has ended can never be asked for again; it is evicted when that thing is unregistered.
-/

namespace HostGpu

structure Device where
  /-- Whether texels outside of an image read as zero and cannot be written. -/
  robust : Bool := true
  /-- Builds the sampling functions of the device. -/
  builder : Option (SamplingRequest → SamplingFunction) := none
  samplers : Std.TreeMap Nat SamplerInfo := ∅
  /-- Image views and buffer views. -/
  views : Std.TreeMap Nat ViewState := ∅
  /-- Sampling functions by key. A key occurs once. -/
  functions : List (SamplingKey × SamplingFunction) := []

namespace Device

/-! ## The registry -/

def registerSampler (d : Device) (id : Nat) (info : SamplerInfo) : Device :=
  { d with samplers := d.samplers.insert id info }

def registerView (d : Device) (id : Nat) (state : ViewState) : Device :=
  { d with views := d.views.insert id state }

/-- Forgets a sampler and the functions built for it. -/
def unregisterSampler (d : Device) (id : Nat) : Device :=
  { d with
    samplers := d.samplers.erase id
    functions := d.functions.filter (·.1.sampler ≠ id) }

/-- Forgets a view and the functions built for it. -/
def unregisterView (d : Device) (id : Nat) : Device :=
  { d with
    views := d.views.erase id
    functions := d.functions.filter (·.1.view ≠ id) }

/-! ## Sampling functions -/

/-- The function that is kept for a key. -/
def function? (d : Device) (key : SamplingKey) : Option SamplingFunction :=
  (d.functions.find? (·.1 = key)).map (·.2)

/-- What the builder is told for a key. -/
def request (d : Device) (key : SamplingKey) : SamplingRequest :=
  ⟨key, d.samplers[key.sampler]?, d.views[key.view]?⟩

/-- A sampling function, the device that keeps it, and the request if it had to be built. -/
structure Resolution where
  function : SamplingFunction
  device : Device
  request : Option SamplingRequest

/-- Finds the function for a key or builds it. -/
def resolve (d : Device) (key : SamplingKey) : Except Fault Resolution :=
  match d.function? key with
  | some f => .ok ⟨f, d, none⟩
  | none =>
    match d.builder with
    | none => .error .noRoutineBuilder
    | some build =>
      let request := d.request key
      let f := build request
      .ok ⟨f, { d with functions := d.functions ++ [(key, f)] }, some request⟩

/-! ## Constant tables -/

/-- The linear value of a byte in the sRGB curve. -/
def srgbByte (i : Nat) : Except Fault UInt32 :=
  if i < 256 then .ok (srgbToLinear (Single.div (Single.ofInt i) (Single.ofInt 255)))
  else .error .indexOutOfRange

/-- The lanes whose bits are set in a number of four bits. -/
def laneMask (bits : Nat) : Except Fault WordLanes :=
  if bits < 16 then .ok (.ofFn fun l => Word.ofBool (bits.testBit l)) else .error .indexOutOfRange

end Device

end HostGpu
