import HostGpu.Store.Lifetime

/-!
# Commands

A session is a list of commands that make, use and forget objects by name. Objects of different
kinds may have the same name.
-/

namespace HostGpu.Session

/-! ## Parts of commands -/

/-- A sampling function that returns some of its inputs: the first four, or the four after them. -/
inductive InputCopy where
  | echo
  | tail
deriving DecidableEq, Repr

namespace InputCopy

def function : InputCopy → SamplingFunction
  | echo => .copyInputs 0
  | tail => .copyInputs 4

/-- A resolver that gives one copying function for every key, or else the device. -/
instance : Coe (Option InputCopy) Resolver :=
  ⟨fun copy => copy.elim .device fun copy => .own fun _ => copy.function⟩

/-- A builder that makes one copying function for every request, if there is one. -/
instance : Coe (Option InputCopy) (Option (SamplingRequest → SamplingFunction)) :=
  ⟨fun copy => copy.map fun copy _ => copy.function⟩

end InputCopy

/-- The parameters of a view: a preset, on which some fields are laid. -/
inductive ViewPreset where
  | wholeImage
  | none
deriving DecidableEq, Repr

structure ViewFields where
  preset : ViewPreset
  kind : Option ViewKind := none
  format : Option Format := none
  aspects : Option AspectSet := none
  mips : Option Span := none
  layers : Option Span := none
deriving DecidableEq, Repr

/-- The parameters of a view of an image. -/
def ViewFields.info (f : ViewFields) (image : ImageInfo) : ViewInfo :=
  let preset : ViewInfo :=
    match f.preset with
    | .wholeImage => .ofImage image
    | .none => {}
  { kind := f.kind.getD preset.kind
    format := f.format.or preset.format
    aspects := f.aspects.getD preset.aspects
    mips := f.mips.getD preset.mips
    layers := f.layers.getD preset.layers }

/-- What can be asked about an image. -/
inductive ImageQuery where
  | levelExtent (level : Nat)
  | rowPitch (aspect : Aspect) (level : Nat)
  | slicePitch (aspect : Aspect) (level : Nat)
  | samplePitch (aspect : Aspect) (level : Nat)
  | layerPitch (aspect : Aspect)
  | subresourceOffset (aspect : Aspect) (level layer : Nat)
  | sizeFromSubresource (aspect : Aspect) (level layer : Nat)
  | texelOffset (position : Extent) (aspect : Aspect) (level layer : Nat)
  | texelPointer (position : Extent) (aspect : Aspect) (level layer : Nat)
deriving DecidableEq, Repr

/-- What can be asked about a view. -/
inductive ViewQuery where
  | levelExtent (level : Nat)
  | rowPitch (aspect : Aspect) (level : Nat)
  | slicePitch (aspect : Aspect) (level : Nat)
  | samplePitch (aspect : Aspect) (level : Nat)
  | layerPitch (aspect : Aspect)
  | sizeInBytes (aspect : Aspect)
  | texelPointer (position : Extent) (aspect : Aspect) (level layer : Nat)
deriving DecidableEq, Repr

/-- What can be asked about a binding of a set layout. -/
inductive LayoutQuery where
  | index
  | binding
  | stride
  | offset (element : Nat)
  | isDynamic
  | dynamicOffset
deriving DecidableEq, Repr

/-- What can be asked about a binding of a pipeline layout. -/
inductive PipelineQuery where
  | kind
  | offset
  | dynamicOffset
deriving DecidableEq, Repr

/-- A binding of a set layout, with its immutable samplers by name. -/
structure BindingFields where
  number : Nat
  kind : DescriptorKind
  count : Nat := 1
  immutableSamplers : List String := []
deriving DecidableEq, Repr

/-- What is written to descriptors, by name. -/
inductive ElementNames where
  | buffers (names : List String)
  | bufferRanges (ranges : List (String × Span))
  | bufferViews (names : List String)
  | views (names : List String)
  | viewSamplers (pairs : List (String × String))
  | samplers (names : List String)
deriving DecidableEq, Repr

structure WriteFields where
  binding : Nat
  first : Nat := 0
  elements : ElementNames
deriving DecidableEq, Repr

structure CopyFields where
  source : String
  srcBinding : Nat := 0
  srcFirst : Nat := 0
  dstBinding : Nat := 0
  dstFirst : Nat := 0
  count : Nat := 1
deriving DecidableEq, Repr

/-- The place of a record: a descriptor or a byte offset. -/
inductive RecordPlace where
  | descriptor (binding element : Nat)
  | offset (bytes : Nat)
deriving DecidableEq, Repr

/-- How a record is read. -/
inductive RecordView where
  | buffer
  | storage
  | sampled (levels : List Nat)
deriving DecidableEq, Repr

/-- The parameters of a routine. -/
structure RoutineFields where
  windowX : WordLanes := .splat 0
  windowY : WordLanes := .splat 0
  viewIndex : UInt32 := 0
  attachmentFormats : List Format := []
  resolver : Resolver := .device

/-! ## Commands -/

/-- The first name of a command that makes something is the name of the new object. -/
inductive Command where
  | device (id : String) (robust : Bool) (builder : Option (SamplingRequest → SamplingFunction))
  | constants (device : String) (bytes masks : List Nat)
  | image (id device : String) (info : ImageInfo)
  | queryImage (image : String) (query : ImageQuery)
  | view (id image : String) (fields : ViewFields)
  | queryView (view : String) (query : ViewQuery)
  | sampler (id device : String) (info : SamplerInfo)
  | buffer (id device : String) (size : Nat)
  | bufferOfBytes (id device : String) (data : List UInt8)
  | bufferView (id buffer : String) (format : Format) (range : Span)
  | write (object : String) (offset : Nat) (data : List UInt8)
  | read (object : String) (offset count : Nat)
  | drop (name : String)
  | registry (device : String) (samplers views : List String)
  | resolve (device : String) (signature : SamplingSignature) (sampler view : Option String)
  | setLayout (id device : String) (bindings : List BindingFields)
  | queryLayout (layout : String) (binding : Nat) (query : LayoutQuery)
  | set (id layout : String)
  | pool (id device : String) (maxSets : Nat) (sizes : List (DescriptorKind × Nat))
  | allocate (id pool layout : String)
  | free (pool set : String)
  | reset (pool : String)
  | update (set : String) (writes : List WriteFields) (copies : List CopyFields)
  | dump (set : String) (place : RecordPlace) (record : RecordView)
  | pipelineLayout (id device : String) (setLayouts : List String)
  | queryPipeline (layout : String) (set binding : Nat) (query : PipelineQuery)
  | shader (id device : String) (words : List UInt32)
  | routine (id shader layout : String) (fields : RoutineFields)
  | bind (set routine : String) (index : Nat)
  | masks (routine : String) (active helper : Option WordLanes)
  | run (routine : String) (inputs : Execution.InterfaceValues) (outputs : List Nat)
  | cache (routine : String)

end HostGpu.Session
