import HostGpu.Session.Query

/-!
# Steps of a session

`Session.step` executes one command. A command that fails changes nothing, with three exceptions:
what a run, an update or a call to a pool stored before a fault stays stored. After every command
whatever is no longer held ends.
-/

namespace HostGpu.Session

/-- What a command leads to. -/
structure Step where
  session : Session
  answer : Except StepError Answer
  /-- Who was asked for sampling functions and which were called. -/
  events : List SamplingEvent := []

/-- The session and the answer of a command that succeeds. -/
abbrev Attempt := Except StepError (Session × Answer)

/-- A command that changes nothing if it fails. -/
def attempt (s : Session) (a : Attempt) : Step :=
  match a with
  | .ok (session, answer) => { session, answer := .ok answer }
  | .error e => { session := s, answer := .error e }

/-! ## Making objects -/

def makeDevice (s : Session) (id : String) (robust : Bool)
    (builder : Option (SamplingRequest → SamplingFunction)) : Session × Answer :=
  let (number, store) := s.store.addDevice { robust, builder }
  ({ s with store, devices := s.devices.insert id number }, .device robust)

def makeImage (s : Session) (id device : String) (info : ImageInfo) : Attempt := do
  let device ← find s.devices device
  let made ← (s.store.createImage device info).mapError StepError.ofFailure
  let s := { s with store := made.store, images := s.images.insert id made.value }
  return (s.call made.value.block id, .image info)

def makeView (s : Session) (id image : String) (fields : ViewFields) : Attempt := do
  let image ← find s.images image
  let made ← (s.store.createView image (fields.info image.info)).mapError StepError.ofInvalid
  let view := made.value
  let s := { s with
    store := made.store
    views := s.views.insert id view
    viewIds := s.viewIds.insert id view.id }
  return (s.call view.id id, .view view (s.store.device image.device).views[view.id]?)

def makeSampler (s : Session) (id device : String) (info : SamplerInfo) : Attempt := do
  let device ← find s.devices device
  let made ← (s.store.createSampler device info).mapError StepError.ofInvalid
  let sampler := made.value
  let s := { s with
    store := made.store
    samplers := s.samplers.insert id sampler
    samplerIds := s.samplerIds.insert id sampler.id }
  return (s.call sampler.id id, .sampler (s.store.device device).samplers[sampler.id]?)

/-- Makes a buffer from the device by `create`. -/
def makeBuffer (s : Session) (id device : String)
    (create : Nat → Except (Refusal ResourceError) (Store.Made Buffer)) : Attempt := do
  let device ← find s.devices device
  let made ← (create device).mapError StepError.refused
  let s := { s with store := made.store, buffers := s.buffers.insert id made.value }
  return (s.call made.value.block id, .buffer made.value.size)

def makeBufferView (s : Session) (id buffer : String) (format : Format) (range : Span) :
    Attempt := do
  let buffer ← find s.buffers buffer
  let made ← (s.store.createBufferView buffer format range).mapError StepError.ofInvalid
  let view := made.value
  let s := { s with
    store := made.store
    bufferViews := s.bufferViews.insert id view
    viewIds := s.viewIds.insert id view.id }
  return (s.call view.id id, .bufferView view)

/-- The binding of a layout, with its samplers found by name. -/
def resolveBinding (s : Session) (b : BindingFields) : Except StepError LayoutBinding := do
  let immutableSamplers ← findAll s.samplers b.immutableSamplers
  return { number := b.number, kind := b.kind, count := b.count, immutableSamplers }

def makeSetLayout (s : Session) (id device : String) (bindings : List BindingFields) :
    Attempt := do
  let device ← find s.devices device
  let bindings ← bindings.mapM (resolveBinding s)
  let made ← (s.store.createSetLayout device bindings).mapError StepError.ofFailure
  let summary ← orFault (summarize made.value)
  let s := { s with store := made.store, setLayouts := s.setLayouts.insert id made.value }
  return (s, .layout summary)

def makePipelineLayout (s : Session) (id device : String) (setLayouts : List String) :
    Attempt := do
  let device ← find s.devices device
  let setLayouts ← findAll s.setLayouts setLayouts
  let made ← (s.store.createPipelineLayout device setLayouts).mapError StepError.ofFailure
  let layout := made.value
  let s := { s with store := made.store, pipelineLayouts := s.pipelineLayouts.insert id layout }
  return (s, .pipelineLayout layout.setLayouts.length layout.dynamicCount)

def makeShader (s : Session) (id device : String) (words : List UInt32) : Attempt := do
  let device ← find s.devices device
  let module ← (Spirv.Module.ofWords words).mapError StepError.malformed
  let shader ← orFault (Shader.ofModule device module)
  return ({ s with shaders := s.shaders.insert id shader }, .shader shader)

def makeRoutine (s : Session) (id shader layout : String) (f : RoutineFields) : Attempt := do
  let shader ← find s.shaders shader
  let layout ← find s.pipelineLayouts layout
  let routine ← (Routine.create {
    shader, layout, bound := [], resolver := f.resolver
    windowX := f.windowX, windowY := f.windowY, viewIndex := f.viewIndex
    attachmentFormats := f.attachmentFormats }).mapError StepError.ofInvalid
  return ({ s with routines := s.routines.insert id routine }, .done)

/-! ## Sets and pools -/

/-- Gives a new set a name. -/
def nameSet (s : Session) (id : String) (made : Store.Made Nat) : Session :=
  { s with store := made.store, sets := s.sets.insert id made.value }.call made.value id

def makeSet (s : Session) (id layout : String) : Attempt := do
  let layout ← find s.setLayouts layout
  let made ← (s.store.createSet layout).mapError StepError.ofResource
  return (s.nameSet id made, .set SetLayout.headerSize)

def makePool (s : Session) (id device : String) (maxSets : Nat)
    (sizes : List (DescriptorKind × Nat)) : Attempt := do
  let device ← find s.devices device
  let made ← (s.store.createPool device maxSets sizes).mapError StepError.ofFailure
  return ({ s with store := made.store, pools := s.pools.insert id made.value }, .pool made.value)

/-- The set of a name. -/
def findSet (s : Session) (name : String) : Except StepError DescriptorSet := do
  match s.store.sets[← find s.sets name]? with
  | some set => return set
  | none => throw (.missing name)

/-- Makes a call to a pool and goes on with what it gives. What the call changed stays changed. The
answer is how many sets the pool holds. -/
def callPool {α : Type} (s : Session) (name : String)
    (call : Except StepError (DescriptorPool.Call α)) (next : Session → α → Session) : Step :=
  match (do return (← find s.pools name, ← call) : Except StepError _) with
  | .error e => { session := s, answer := .error e }
  | .ok (pool, call) =>
    let (outcome, pool) := call.run pool
    let s := { s with pools := s.pools.insert name pool }
    match outcome with
    | .ok a => { session := next s a, answer := .ok (.setCount pool.ranges.length) }
    | .error e => { session := s, answer := .error (.ofFailure e) }

def allocate (s : Session) (id pool layout : String) : Step :=
  s.callPool pool (DescriptorPool.allocate <$> find s.setLayouts layout)
    fun s d => s.nameSet id (s.store.addSet d)

def free (s : Session) (pool set : String) : Step :=
  s.callPool pool (DescriptorPool.free <$> s.findSet set) fun s _ => s

def reset (s : Session) (pool : String) : Step :=
  s.callPool pool (.ok DescriptorPool.reset) fun s _ => s

/-! ## Updates -/

/-- The elements of a write, found by name. -/
def resolveElements (s : Session) : ElementNames → Except StepError WriteElements
  | .buffers names => do
    return .buffers ((← findAll s.buffers names).map BufferRange.whole)
  | .bufferRanges ranges => do
    return .buffers (← ranges.mapM fun (name, range) => do
      return ⟨← find s.buffers name, range⟩)
  | .bufferViews names => .bufferViews <$> findAll s.bufferViews names
  | .views names => .views <$> findAll s.views names
  | .viewSamplers pairs => do
    return .viewSamplers (← pairs.mapM fun (view, sampler) => do
      return (← find s.views view, ← find s.samplers sampler))
  | .samplers names => .samplers <$> findAll s.samplers names

def resolveWrite (s : Session) (w : WriteFields) : Except StepError DescriptorWrite := do
  return { binding := w.binding, first := w.first, elements := ← s.resolveElements w.elements }

/-- A copy whose source is found by name. -/
structure SetCopy where
  source : Nat
  fields : CopyFields

def resolveCopy (s : Session) (c : CopyFields) : Except StepError SetCopy := do
  return ⟨← find s.sets c.source, c⟩

/-- The copy as it is made to a set. -/
def SetCopy.to (c : SetCopy) (store : Store) (target : Nat) : DescriptorCopy where
  source := store.copySource target c.source
  srcBinding := c.fields.srcBinding
  srcFirst := c.fields.srcFirst
  dstBinding := c.fields.dstBinding
  dstFirst := c.fields.dstFirst
  count := c.fields.count

/-- An update whose sets and resources were found by name. -/
structure SetUpdate where
  set : Nat
  writes : List DescriptorWrite
  copies : List DescriptorCopy

def resolveUpdate (s : Session) (set : String) (writes : List WriteFields)
    (copies : List CopyFields) : Except StepError SetUpdate := do
  let writes ← writes.mapM s.resolveWrite
  let copies ← copies.mapM s.resolveCopy
  let set ← find s.sets set
  return { set, writes, copies := copies.map (·.to s.store set) }

/-- Updates a set in place. -/
def update (s : Session) (set : String) (writes : List WriteFields) (copies : List CopyFields) :
    Step :=
  match s.resolveUpdate set writes copies with
  | .error e => { session := s, answer := .error e }
  | .ok u =>
    match s.store.update u.set u.writes u.copies with
    | .ok store => { session := { s with store }, answer := .ok (.updated u.writes) }
    | .error i =>
      { session := { s with store := i.state }, answer := .error (.ofFailure i.failure) }

/-! ## Memory -/

def writeBytes (s : Session) (object : String) (offset : Nat) (data : List UInt8) : Attempt := do
  let block ← s.findBlock object
  let memory ← orFault ((s.store.memory block).write offset data)
  return ({ s with store := s.store.setMemory block memory }, .done)

def readBytes (s : Session) (object : String) (offset count : Nat) : Except StepError Answer := do
  let block ← s.findBlock object
  return .bytes (← orFault ((s.store.memory block).read offset count))

/-! ## Routines -/

/-- Replaces a routine. -/
def putRoutine (s : Session) (name : String) (r : Routine) : Session :=
  { s with routines := s.routines.insert name r }

def bind (s : Session) (set routine : String) (index : Nat) : Attempt := do
  let number ← find s.sets set
  let layout := (← s.findSet set).layout
  let r ← find s.routines routine
  let r ← (r.bind index number layout).mapError StepError.ofInvalid
  return (s.putRoutine routine r, .done)

def setMasks (s : Session) (routine : String) (active helper : Option WordLanes) : Attempt := do
  let r ← find s.routines routine
  let r := { r with active := active.getD r.active, helper := helper.getD r.helper }
  return (s.putRoutine routine r, .done)

/-- Runs a routine. -/
def runRoutine (s : Session) (routine : String) (inputs : Execution.InterfaceValues)
    (outputs : List Nat) : Step :=
  match find s.routines routine with
  | .error e => { session := s, answer := .error e }
  | .ok r =>
    let e := s.store.run r inputs
    let answer := (orFault e.outcome).map fun values => .outputs (outputs.map (values[·]?))
    { session := { s with store := e.store }.putRoutine routine e.routine
      answer, events := e.events }

/-- Asks a device for a sampling function. -/
def resolve (s : Session) (device : String) (signature : SamplingSignature)
    (sampler view : Option String) : Except StepError (Session × Answer × List SamplingEvent) := do
  let device ← find s.devices device
  let id (table : NameTable Nat) (name : Option String) : Nat := (name.bind (table[·]?)).getD 0
  let key : SamplingKey := ⟨signature, id s.samplerIds sampler, id s.viewIds view⟩
  let (events, store) ← orFault (s.store.resolve device key)
  return ({ s with store }, .resolved (store.device device).functions.length, events)

/-! ## All commands -/

/-- A command that only looks at the session. -/
def look (s : Session) (a : Except StepError Answer) : Step := { session := s, answer := a }

/-- Executes a command, whatever is no longer held still being there. -/
def execute (s : Session) : Command → Step
  | .device id robust builder => s.attempt (.ok (s.makeDevice id robust builder))
  | .constants device bytes masks => s.look do
    let _ ← find s.devices device
    orFault (askConstants bytes masks)
  | .image id device info => s.attempt (s.makeImage id device info)
  | .queryImage image query => s.look do
    return .quantity (← orFault (askImage (← find s.images image) query))
  | .view id image fields => s.attempt (s.makeView id image fields)
  | .queryView view query => s.look do
    return .quantity (← orFault (askView (← find s.views view) query))
  | .sampler id device info => s.attempt (s.makeSampler id device info)
  | .buffer id device size =>
    s.attempt (s.makeBuffer id device fun d => s.store.createBuffer d size)
  | .bufferOfBytes id device data =>
    s.attempt (s.makeBuffer id device fun d => s.store.createBufferOfBytes d data)
  | .bufferView id buffer format range => s.attempt (s.makeBufferView id buffer format range)
  | .write object offset data => s.attempt (s.writeBytes object offset data)
  | .read object offset count => s.look (s.readBytes object offset count)
  | .drop name => s.attempt (.ok (s.forget name, .dropped (s.holds name)))
  | .registry device samplers views => s.look do
    return s.askRegistry (s.store.device (← find s.devices device)) samplers views
  | .resolve device signature sampler view =>
    match s.resolve device signature sampler view with
    | .ok (session, answer, events) => { session, answer := .ok answer, events }
    | .error e => { session := s, answer := .error e }
  | .setLayout id device bindings => s.attempt (s.makeSetLayout id device bindings)
  | .queryLayout layout binding query => s.look do
    orFault (askLayout (← find s.setLayouts layout) binding query)
  | .set id layout => s.attempt (s.makeSet id layout)
  | .pool id device maxSets sizes => s.attempt (s.makePool id device maxSets sizes)
  | .allocate id pool layout => s.allocate id pool layout
  | .free pool set => s.free pool set
  | .reset pool => s.reset pool
  | .update set writes copies => s.update set writes copies
  | .dump set place record => s.look do
    orFault (readRecord (← s.findSet set) place record)
  | .pipelineLayout id device setLayouts => s.attempt (s.makePipelineLayout id device setLayouts)
  | .queryPipeline layout set binding query => s.look do
    orFault (askPipeline (← find s.pipelineLayouts layout) set binding query)
  | .shader id device words => s.attempt (s.makeShader id device words)
  | .routine id shader layout fields => s.attempt (s.makeRoutine id shader layout fields)
  | .bind set routine index => s.attempt (s.bind set routine index)
  | .masks routine active helper => s.attempt (s.setMasks routine active helper)
  | .run routine inputs outputs => s.runRoutine routine inputs outputs
  | .cache routine => s.look do return .cache (← find s.routines routine).cache

/-- Executes a command and ends whatever is no longer held. -/
def step (s : Session) (c : Command) : Step :=
  let r := s.execute c
  { r with session := r.session.sweep }

end HostGpu.Session
