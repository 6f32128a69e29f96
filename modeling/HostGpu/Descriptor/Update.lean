import HostGpu.Descriptor.Set

/-!
# Updating descriptor sets

An update is a list of writes followed by a list of copies. All of it is checked before anything
changes. A write replaces consecutive elements of a binding; a copy moves records, with the
resources they refer to, from a set to the one that is updated, and may have this set as its source.

The functions named `perform…` change a set in place and test every place in its data before they
use it; a test that fails is a fault, which leaves the set as it is by then. The functions named
`apply…` say what an update amounts to where every test holds.
-/

namespace HostGpu

/-! ## Writes -/

/-- What is written to consecutive elements. -/
inductive WriteElements where
  | buffers (ranges : List BufferRange)
  | bufferViews (views : List BufferView)
  | views (views : List ImageView)
  | viewSamplers (pairs : List (ImageView × Sampler))
  | samplers (samplers : List Sampler)
deriving DecidableEq, Repr

/-- What is written to one element. -/
inductive WriteElement where
  | buffer (range : BufferRange)
  | bufferView (view : BufferView)
  | view (view : ImageView)
  | viewSampler (view : ImageView) (sampler : Sampler)
  | sampler (sampler : Sampler)
deriving DecidableEq, Repr

namespace WriteElements

/-- The elements one by one. -/
def toList : WriteElements → List WriteElement
  | buffers l => l.map .buffer
  | bufferViews l => l.map .bufferView
  | views l => l.map .view
  | viewSamplers l => l.map fun (v, s) => .viewSampler v s
  | samplers l => l.map .sampler

def length (e : WriteElements) : Nat := e.toList.length

/-- Whether elements can be written to a binding. -/
def fits (e : WriteElements) (b : LayoutBinding) : Bool :=
  match e, b.kind with
  | buffers _, .uniformBuffer | buffers _, .storageBuffer
  | buffers _, .uniformBufferDynamic | buffers _, .storageBufferDynamic
  | bufferViews _, .uniformTexelBuffer | bufferViews _, .storageTexelBuffer
  | views _, .sampledImage | views _, .storageImage | views _, .inputAttachment => true
  | views _, .combinedImageSampler => b.usesImmutableSamplers
  | viewSamplers _, .combinedImageSampler | samplers _, .sampler => !b.usesImmutableSamplers
  | _, _ => false

end WriteElements

namespace WriteElement

/-- What the descriptor refers to. -/
def resources : WriteElement → List Resource
  | buffer r => [.buffer r.buffer]
  | bufferView v => [.bufferView v]
  | view v => [.view v]
  | viewSampler v s => [.view v, .sampler s]
  | sampler s => [.sampler s]

/-- The layout of the record that is written for an element of a binding of a given kind. -/
def recordKind (e : WriteElement) (kind : DescriptorKind) : RecordKind :=
  match e with
  | buffer _ => .buffer
  | bufferView _ => if kind = .storageTexelBuffer then .storage else .sampled
  | view _ => if kind = .storageImage ∨ kind = .inputAttachment then .storage else .sampled
  | viewSampler _ _ | sampler _ => .sampled

/-- Writes the record of an element of a binding of a given kind. -/
def write (e : WriteElement) (kind : DescriptorKind) (d : SetData) (offset : Nat) : SetData :=
  match e with
  | buffer r => d.write offset (BufferRecord.ofRange r).cells
  | bufferView v =>
    if kind = .storageTexelBuffer then d.write offset (StorageRecord.ofBufferView v).cells
    else SampledRecord.writeView v.id (SampledRecord.ofBufferView v) d offset
  | view v =>
    if kind = .storageImage ∨ kind = .inputAttachment then
      d.write offset (StorageRecord.ofView v).cells
    else SampledRecord.writeView v.id (SampledRecord.ofView v) d offset
  | viewSampler v s =>
    SampledRecord.writeView v.id (SampledRecord.ofView v) (SampledRecord.writeSampler s d offset)
      offset
  | sampler s => SampledRecord.writeSampler s d offset

end WriteElement

/-- A set that is updated, or the failure that the update was interrupted by. -/
abbrev Updating := Except (Interruption DescriptorSet)

/-- A value that an update needs to go on; a fault leaves the set as it is. -/
def DescriptorSet.require {α : Type} (s : DescriptorSet) (x : Except Fault α) : Updating α :=
  x.mapError fun f => ⟨.fault f, s⟩

structure DescriptorWrite where
  binding : Nat
  first : Nat := 0
  elements : WriteElements
deriving DecidableEq, Repr

namespace DescriptorWrite

/-- The rules that a write can break. -/
inductive Violation where
  | noBinding
  | kind (binding : LayoutBinding)
  | tooMany
deriving DecidableEq, Repr

def Violation.error : Violation → ValidationError
  | noBinding =>
    { context := "binding"
      problem := "does not exist in the descriptor set layout"
      rules := ["VUID-VkWriteDescriptorSet-dstBinding-00315"] }
  | kind b =>
    { context := "elements"
      problem := s!"cannot be written to a binding of type {Catalogue.name b.kind}" ++
        if b.usesImmutableSamplers then " with immutable samplers" else ""
      rules := ["VUID-VkWriteDescriptorSet-descriptorType-00319"] }
  | tooMany =>
    { problem := "`first_array_element` + the number of provided elements is greater than the " ++
        "number of descriptors in the descriptor set binding"
      rules := ["VUID-VkWriteDescriptorSet-dstArrayElement-00321"] }

/-- The first range that does not lie in its buffer, where `index` ranges passed. -/
def checkRanges (index : Nat) : List BufferRange → Except ValidationError Unit
  | [] => .ok ()
  | r :: rest => do
    (r.buffer.checkRange r.range).mapError (·.within s!"elements[{index}]")
    checkRanges (index + 1) rest

/-- The first rule that a write to a set of the layout breaks. -/
def check (w : DescriptorWrite) (layout : SetLayout) : Except ValidationError Unit := do
  match layout.find? w.binding with
  | none => throw Violation.noBinding.error
  | some b =>
    if !w.elements.fits b then throw (Violation.kind b).error
    if b.count < w.first + w.elements.length then throw Violation.tooMany.error
    match w.elements with
    | .buffers ranges => checkRanges 0 ranges
    | _ => return

/-- Writes the records of elements to given places. -/
def performRecords (kind : DescriptorKind) (s : DescriptorSet) :
    List (Nat × WriteElement) → Updating DescriptorSet
  | [] => .ok s
  | (offset, e) :: rest => do
    let offset ← s.require (s.recordOffset (e.recordKind kind) offset)
    performRecords kind { s with data := e.write kind s.data offset } rest

/-- Keeps the resources of elements, which are given by their places in the write. -/
def performResources (w : DescriptorWrite) (s : DescriptorSet) :
    List Nat → Updating DescriptorSet
  | [] => .ok s
  | index :: rest =>
    match w.elements.toList[index]? with
    | some e =>
      w.performResources { s with
        resources := s.resources.insert ⟨w.binding, w.first + index⟩ e.resources } rest
    | none => .error ⟨.fault .indexOutOfRange, s⟩

/-- Makes a write: first all records, then what they refer to. -/
def perform (w : DescriptorWrite) (s : DescriptorSet) : Updating DescriptorSet := do
  let b ← s.require (s.layout.binding w.binding)
  let range ← s.require (s.layout.dataRange w.binding w.first w.elements.length)
  if b.stride = 0 then throw ⟨.fault .inlineUniformBlock, s⟩
  let s ← performRecords b.kind s ((range.steps b.stride).zip w.elements.toList)
  w.performResources s (List.range w.elements.length)

/-- Writes elements one after the other. -/
def applyFrom (b : LayoutBinding) (offset element : Nat) (s : DescriptorSet) :
    List WriteElement → DescriptorSet
  | [] => s
  | e :: rest =>
    let s := { s with
      data := e.write b.kind s.data offset
      resources := s.resources.insert ⟨b.number, element⟩ e.resources }
    applyFrom b (offset + b.stride) (element + 1) s rest

/-- The set after a write that passed its check; other writes change nothing. -/
def apply (w : DescriptorWrite) (s : DescriptorSet) : DescriptorSet :=
  match s.layout.find? w.binding, s.layout.dataRange w.binding w.first w.elements.length with
  | some b, .ok range => applyFrom b range.start w.first s w.elements.toList
  | _, _ => s

end DescriptorWrite

/-! ## Copies -/

structure DescriptorCopy where
  /-- The set to copy from; the updated set itself if there is none. -/
  source : Option DescriptorSet
  srcBinding : Nat := 0
  srcFirst : Nat := 0
  dstBinding : Nat := 0
  dstFirst : Nat := 0
  count : Nat := 1

namespace DescriptorCopy

/-- The rules that a copy can break. -/
inductive Violation where
  | noSource
  | pastSource
  | noDestination
  | pastDestination
  | kind
  | immutable
deriving DecidableEq, Repr

def Violation.error : Violation → ValidationError
  | noSource =>
    { context := "src_binding"
      problem := "does not exist in the descriptor set layout of `src_set`"
      rules := ["VUID-VkCopyDescriptorSet-srcBinding-00345"] }
  | pastSource =>
    { problem := "`src_first_array_element` + `descriptor_count` is greater than the number of " ++
        "descriptors in the source descriptor set binding"
      rules := ["VUID-VkCopyDescriptorSet-srcArrayElement-00346"] }
  | noDestination =>
    { context := "dst_binding"
      problem := "does not exist in the descriptor set layout of the destination set"
      rules := ["VUID-VkCopyDescriptorSet-dstBinding-00347"] }
  | pastDestination =>
    { problem := "`dst_first_array_element` + `descriptor_count` is greater than the number of " ++
        "descriptors in the destination descriptor set binding"
      rules := ["VUID-VkCopyDescriptorSet-dstArrayElement-00348"] }
  | kind =>
    { problem := "the descriptor type of the source binding does not equal the descriptor type " ++
        "of the destination binding"
      rules := ["VUID-VkCopyDescriptorSet-dstBinding-02632"] }
  | immutable =>
    { problem := "the destination binding holds immutable samplers"
      rules := ["VUID-VkCopyDescriptorSet-dstBinding-02753"] }

/-- The first rule that a copy to a set of the layout breaks. -/
def check (c : DescriptorCopy) (layout : SetLayout) : Except Violation Unit := do
  let source := c.source.elim layout (·.layout)
  match source.find? c.srcBinding with
  | none => throw .noSource
  | some src =>
    if src.count < c.srcFirst + c.count then throw .pastSource
    match layout.find? c.dstBinding with
    | none => throw .noDestination
    | some dst =>
      if dst.count < c.dstFirst + c.count then throw .pastDestination
      if src.kind ≠ dst.kind then throw .kind
      if dst.usesImmutableSamplers ∧ dst.kind = .sampler then throw .immutable

/-- Gives consecutive elements resources, or none. -/
def setResources (binding element : Nat) (t : ResourceTable) :
    List (Option (List Resource)) → ResourceTable
  | [] => t
  | r :: rest => setResources binding (element + 1) (t.set ⟨binding, element⟩ r) rest

/-- Makes a copy. Everything is read from the source before the first cell is written. -/
def perform (c : DescriptorCopy) (s : DescriptorSet) : Updating DescriptorSet := do
  let source := c.source.getD s
  let src ← s.require (source.layout.dataRange c.srcBinding c.srcFirst c.count)
  let dst ← s.require (s.layout.dataRange c.dstBinding c.dstFirst c.count)
  if src.length ≠ dst.length then throw ⟨.fault .accessOutOfRange, s⟩
  let moved := (List.range c.count).map fun i =>
    source.resources.find? ⟨c.srcBinding, c.srcFirst + i⟩
  return { s with
    data := s.data.write dst.start (source.data.cells src.start src.length)
    resources := setResources c.dstBinding c.dstFirst s.resources moved }

/-- The set after a copy that passed its check; other copies change nothing. -/
def apply (c : DescriptorCopy) (s : DescriptorSet) : DescriptorSet :=
  let source := c.source.getD s
  match source.layout.dataRange c.srcBinding c.srcFirst c.count,
      s.layout.dataRange c.dstBinding c.dstFirst c.count with
  | .ok src, .ok dst =>
    let moved := (List.range c.count).map fun i =>
      source.resources.find? ⟨c.srcBinding, c.srcFirst + i⟩
    { s with
      data := s.data.write dst.start (source.data.cells src.start src.length)
      resources := setResources c.dstBinding c.dstFirst s.resources moved }
  | _, _ => s

end DescriptorCopy

/-! ## Updates -/

namespace DescriptorSet

/-- The first write that breaks a rule, where `index` writes passed. -/
def checkWrites (layout : SetLayout) (index : Nat) :
    List DescriptorWrite → Except ValidationError Unit
  | [] => .ok ()
  | w :: rest => do
    (w.check layout).mapError (·.within s!"descriptor_writes[{index}]")
    checkWrites layout (index + 1) rest

/-- The first copy that breaks a rule, where `index` copies passed. -/
def checkCopies (layout : SetLayout) (index : Nat) :
    List DescriptorCopy → Except ValidationError Unit
  | [] => .ok ()
  | c :: rest => do
    (c.check layout).mapError fun v => v.error.within s!"descriptor_copies[{index}]"
    checkCopies layout (index + 1) rest

/-- The first write, or else the first copy, that breaks a rule. -/
def checkUpdate (s : DescriptorSet) (writes : List DescriptorWrite) (copies : List DescriptorCopy) :
    Except ValidationError Unit := do
  checkWrites s.layout 0 writes
  checkCopies s.layout 0 copies

/-- The set after all writes and then all copies. -/
def applyUpdate (s : DescriptorSet) (writes : List DescriptorWrite)
    (copies : List DescriptorCopy) : DescriptorSet :=
  copies.foldl (fun s c => c.apply s) (writes.foldl (fun s w => w.apply s) s)

/-- Makes all writes and then all copies. -/
def performUpdate (s : DescriptorSet) (writes : List DescriptorWrite)
    (copies : List DescriptorCopy) : Updating DescriptorSet := do
  let s ← writes.foldlM (fun s w => w.perform s) s
  copies.foldlM (fun s c => c.perform s) s

/-- Checks an update and makes it in place. -/
def updateInPlace (s : DescriptorSet) (writes : List DescriptorWrite)
    (copies : List DescriptorCopy) : Updating DescriptorSet := do
  (s.checkUpdate writes copies).mapError fun e => ⟨.invalid e, s⟩
  s.performUpdate writes copies

/-- What an update amounts to. -/
def update (s : DescriptorSet) (writes : List DescriptorWrite) (copies : List DescriptorCopy) :
    Except ValidationError DescriptorSet := do
  s.checkUpdate writes copies
  return s.applyUpdate writes copies

end DescriptorSet

end HostGpu
