import HostGpu.Session.Basic

/-!
# Queries

Commands that only look at objects: images, views, layouts, records of descriptor sets, and the
registries of devices.
-/

namespace HostGpu.Session

/-- A fault as the reason why a command failed. -/
def orFault {α : Type} (x : Except Fault α) : Except StepError α := x.mapError .fault

/-! ## Images and views -/

/-- The answer about an image. -/
def askImage (image : Image) : ImageQuery → Except Fault Quantity
  | .levelExtent level => .extent <$> image.info.levelExtent? level
  | .rowPitch a level => .number <$> image.info.rowPitch? a level
  | .slicePitch a level => .number <$> image.info.slicePitch? a level
  | .samplePitch a level => .number <$> image.info.samplePitch? a level
  | .layerPitch a => .number <$> image.info.layerPitch? a
  | .subresourceOffset a level layer => .number <$> image.info.subresourceOffset a level layer
  | .sizeFromSubresource a level layer => .number <$> image.info.sizeFromSubresource a level layer
  | .texelOffset p a level layer => .number <$> image.info.texelOffset p a level layer
  | .texelPointer p a level layer => do
    return .pointer ⟨image.block, ← image.info.texelAddress p a level layer⟩

/-- The answer about a view. -/
def askView (view : ImageView) : ViewQuery → Except Fault Quantity
  | .levelExtent level => .extent <$> view.levelExtent? level
  | .rowPitch a level => .number <$> view.rowPitch? a level
  | .slicePitch a level => .number <$> view.slicePitch? a level
  | .samplePitch a level => .number <$> view.samplePitch? a level
  | .layerPitch a => .number <$> view.layerPitch? a
  | .sizeInBytes a => .number <$> view.sizeInBytes? a
  | .texelPointer p a level layer => do
    return .pointer ⟨view.image.block, ← view.texelAddress p a level layer⟩

/-! ## Layouts -/

/-- The answer about a binding of a set layout. -/
def askLayout (l : SetLayout) (binding : Nat) : LayoutQuery → Except Fault Answer
  | .index => .number <$> l.bindingIndex binding
  | .binding => .binding <$> l.binding binding
  | .stride => .number <$> l.bindingStride binding
  | .offset element => .number <$> l.bindingOffset binding element
  | .isDynamic => .flag <$> l.isBindingDynamic binding
  | .dynamicOffset => .number <$> l.dynamicOffset binding

/-- The answer about a binding of a pipeline layout. -/
def askPipeline (p : PipelineLayout) (set binding : Nat) : PipelineQuery → Except Fault Answer
  | .kind => .kind <$> p.descriptorKind set binding
  | .offset => .number <$> p.bindingOffset set binding
  | .dynamicOffset => .number <$> p.dynamicOffsetIndex set binding

/-- The numbers that describe a new set layout. -/
def summarize (l : SetLayout) : Except Fault LayoutSummary := do
  return {
    bindings := l.bindings.length
    dataSize := l.dataSize
    setSize := l.allocationSize
    dynamic := ← l.dynamicCount
    immutableBytes := SetLayout.immutableSamplerBytes l.bindings
    offsets := ← l.bindings.mapM fun b => l.bindingOffset b.number 0 }

/-! ## Records -/

/-- A level of a sampled record. -/
def readLevel (d : SetData) (offset level : Nat) : Except Fault (Nat × LevelRecord) :=
  if level < maxLevels then .ok (level, SampledRecord.readLevel d offset level)
  else .error .indexOutOfRange

/-- The record at a place in a set. -/
def readRecord (set : DescriptorSet) (place : RecordPlace) (view : RecordView) :
    Except Fault Answer := do
  let offset ←
    match place with
    | .descriptor binding element => set.layout.bindingOffset binding element
    | .offset bytes => pure bytes
  match view with
  | .buffer => return .bufferRecord (.read set.data (← set.recordOffset .buffer offset))
  | .storage => return .storageRecord (.read set.data (← set.recordOffset .storage offset))
  | .sampled levels =>
    let offset ← set.recordOffset .sampled offset
    return .sampledRecord {
      record := .read set.data offset
      levels := ← levels.mapM (readLevel set.data offset) }

/-! ## Devices -/

/-- What a device knows under the identifiers that names had last. -/
def askRegistry (s : Session) (d : Device) (samplers views : List String) : Answer :=
  .registry d.functions.length
    (samplers.map fun name => s.samplerIds[name]?.bind (d.samplers[·]?))
    (views.map fun name => s.viewIds[name]?.bind (d.views[·]?))

/-- The entries of the constant tables of a device. -/
def askConstants (bytes masks : List Nat) : Except Fault Answer := do
  return .constants (← bytes.mapM Device.srgbByte) (← masks.mapM Device.laneMask)

end HostGpu.Session
