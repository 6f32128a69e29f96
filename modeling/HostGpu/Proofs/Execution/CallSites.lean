import HostGpu.Proofs.Execution.Run

/-!
# The functions that call sites keep

A call site keeps the function that it used last, with the image descriptor and the sampler it was
found for.  The view that the descriptor shows is no part of this, although the function was built
for it.  So a function that is called was given by the resolver to the same instruction for the same
signature and sampler, and for the view that the descriptor showed then; an update of the descriptor
since then goes unnoticed.
-/

namespace HostGpu.Execution

open Outcome Spirv Shader

/-! ## Instructions that do not sample -/

/-- States that differ in nothing that sampling changes: the device, the call sites and the record
of events. -/
structure SameSampling (s s' : State) : Prop where
  device : s'.machine.device = s.machine.device
  cache : s'.machine.cache = s.machine.cache
  events : s'.machine.events = s.machine.events

namespace SameSampling

variable {s s' s'' : State}

theorem refl (s : State) : SameSampling s s := ⟨rfl, rfl, rfl⟩

theorem trans (h : SameSampling s s') (h' : SameSampling s' s'') : SameSampling s s'' :=
  ⟨h'.device.trans h.device, h'.cache.trans h.cache, h'.events.trans h.events⟩

end SameSampling

/-- A part of a run does not sample. -/
def Quiet {α : Type} (x : Run α) : Prop := ∀ s, SameSampling s (x.run s).2

variable {e : Environment} {i : Instruction} {α β : Type}

theorem quiet_pure (a : α) : Quiet (pure a : Run α) := .refl

theorem quiet_lift (x : Except Fault α) : Quiet (liftM x : Run α) := .refl

theorem quiet_inspect (f : State → Except Fault α) : Quiet (inspect f) := .refl

theorem quiet_throw (fault : Fault) : Quiet (throw fault : Run α) := .refl

theorem Quiet.bind {x : Run α} {f : α → Run β} (hx : Quiet x) (hf : ∀ a, Quiet (f a)) :
    Quiet (x >>= f) := by
  intro s
  rw [run_bind]
  have hs := hx s
  rcases hrun : x.run s with ⟨_ | a, s'⟩ <;> rw [hrun] at hs
  · exact hs
  · exact hs.trans (hf a s')

/-- What follows starts from the state that was inspected. -/
theorem quiet_inspect_bind {f : State → Except Fault α} {g : α → Run β}
    (h : ∀ s a, f s = .ok a → SameSampling s ((g a).run s).2) : Quiet (inspect f >>= g) := by
  intro s
  rw [run_bind, run_inspect]
  cases hf : f s with
  | error fault => exact .refl s
  | ok a => exact h s a hf

theorem quiet_define (id : Nat) (v : Value) : Quiet (define id v) := by
  refine quiet_inspect_bind fun s s' h => ?_
  simp only [State.define, ite_error_eq_ok, Except.ok.injEq] at h
  obtain ⟨-, rfl⟩ := h
  exact ⟨rfl, rfl, rfl⟩

theorem quiet_createVariable (id : Nat) (storage : List WordLanes) :
    Quiet (createVariable id storage) := by
  have hmodify : Quiet (modify (·.setStorage id storage) : Run Unit) := fun _ => ⟨rfl, rfl, rfl⟩
  exact hmodify.bind fun _ => quiet_define id _

theorem quiet_compute (i : Instruction) (f : State → Except Fault (List WordLanes)) :
    Quiet (compute i f) :=
  quiet_inspect_bind fun s _ _ =>
    ((quiet_lift _).bind fun _ => quiet_define _ _) s

theorem quiet_executeStore : Quiet (executeStore e i) := by
  refine quiet_inspect_bind fun s s' h => ?_
  simp only [bind_eq_ok] at h
  obtain ⟨_, -, target, -, _, -, value, -, h⟩ := h
  cases target with
  | descriptor address => cases h
  | «variable» id offsets =>
    simp only [storedState, bind_eq_ok, pure_eq_ok] at h
    obtain ⟨_, -, rfl⟩ := h
    exact ⟨rfl, rfl, rfl⟩
  | texel p =>
    simp only [storedState, bind_eq_ok, pure_eq_ok] at h
    obtain ⟨_, -, rfl⟩ := h
    exact ⟨rfl, rfl, rfl⟩

theorem quiet_executeAtomicAdd : Quiet (executeAtomicAdd e i) := by
  refine (quiet_lift _).bind fun result => quiet_inspect_bind ?_
  rintro s ⟨previous, s'⟩ h
  simp only [bind_eq_ok] at h
  obtain ⟨_, -, target, -, _, -, _, -, value, -, h⟩ := h
  have hadd : SameSampling s s' := by
    cases target with
    | descriptor address => cases h
    | «variable» id offsets =>
      simp only [atomicAdd, bind_eq_ok, pure_eq_ok, Prod.mk.injEq] at h
      obtain ⟨_, -, -, rfl⟩ := h
      exact ⟨rfl, rfl, rfl⟩
    | texel p =>
      simp only [atomicAdd, Except.ok.injEq, Prod.mk.injEq] at h
      obtain ⟨-, rfl⟩ := h
      exact ⟨rfl, rfl, rfl⟩
  exact hadd.trans (quiet_define _ _ s')

theorem quiet_imageWrite : Quiet (do set (← inspect fun s => e.imageWrite s i)) := by
  refine quiet_inspect_bind fun s s' h => ?_
  simp only [Environment.imageWrite, bind_eq_ok, pure_eq_ok] at h
  obtain ⟨_, -, rfl⟩ := h
  exact ⟨rfl, rfl, rfl⟩

/-- Instructions that do not sample leave the call sites as they are. -/
theorem quiet_execute {op : Opcode} (hop : op.isSampling = false) : Quiet (execute e i op) := by
  unfold execute
  split
  case h_1 | h_2 | h_3 | h_4 | h_5 => exact quiet_pure ()
  case h_6 =>
    exact (quiet_lift _).bind fun _ => (quiet_lift _).bind fun _ => quiet_createVariable _ _
  case h_8 =>
    exact (quiet_lift _).bind fun _ => (quiet_lift _).bind fun _ => (quiet_lift _).bind fun _ =>
      quiet_inspect_bind fun s _ _ => quiet_define _ _ s
  case h_9 => exact quiet_executeStore
  case h_10 | h_11 =>
    exact (quiet_lift _).bind fun _ => (quiet_lift _).bind fun _ =>
      quiet_inspect_bind fun s _ _ => quiet_define _ _ s
  case h_15 => exact (quiet_lift _).bind fun _ => quiet_compute _ _
  case h_20 => exact quiet_imageWrite
  case h_21 | h_22 | h_23 =>
    exact quiet_inspect_bind fun s _ _ => ((quiet_lift _).bind fun _ => quiet_define _ _) s
  case h_24 => exact quiet_executeAtomicAdd
  case h_25 =>
    split
    · exact quiet_compute _ _
    · exact quiet_compute _ _
    · rw [hop]
      exact quiet_throw _
  all_goals exact quiet_compute _ _

theorem quiet_initGlobal (inputs : InterfaceValues) (id : Nat) :
    Quiet (e.initGlobal inputs id) := by
  refine (quiet_lift _).bind ?_
  intro object
  cases object.kind with
  | «variable» storageClass =>
    dsimp only
    split
    · split
      · exact (quiet_lift _).bind fun _ => quiet_define _ _
      · exact quiet_pure ()
    · refine (quiet_lift _).bind fun storage => ?_
      split
      · exact (quiet_lift _).bind fun _ => quiet_createVariable _ _
      · exact (quiet_pure _).bind fun _ => quiet_createVariable _ _
  | _ => exact quiet_pure ()

theorem quiet_forM {f : α → Run Unit} (h : ∀ a, Quiet (f a)) (list : List α) :
    Quiet (list.forM f) := by
  induction list with
  | nil => exact quiet_pure ()
  | cons a list ih => exact (h a).bind fun _ => ih

/-! ## Instructions that sample -/

/-- What a call site samples: an image, with a sampler. -/
@[ext]
structure Sample where
  site : SamplingInstruction
  image : DescriptorAddress
  sampler : Nat

/-- The record of an image is read from a set that is bound. -/
theorem sampledRecord_of_find {a : DescriptorAddress} {d : DescriptorSet}
    (h : e.sets[a.set]? = some d) : e.sampledRecord a = SampledRecord.read d.data a.offset := by
  rw [Environment.sampledRecord, Environment.setData, h, Option.elim_some]

/-- The key of a function for a sample: the view is the one that the descriptor shows. -/
def Sample.key (x : Sample) (e : Environment) : SamplingKey :=
  ⟨x.site.signature, x.sampler, (e.sampledRecord x.image).view.toNat⟩

/-- The function that a call site keeps for a sample. -/
def State.kept (s : State) (x : Sample) : Option SamplingFunction :=
  s.machine.cache[x.site.callSite]?.bind (·.hit? x.image x.sampler)

/-- An instruction, executed with an active lane, samples something. -/
structure Samples (e : Environment) (s : State) (i : Instruction) (x : Sample) : Prop where
  active : e.active.anyOn = true
  site : ∃ op, i.op? = some op ∧ op.isSampling = true ∧
    SamplingInstruction.ofInstruction e.declarations i op = .ok x.site
  image : s.descriptor x.site.sampledImage = .ok x.image
  sampler : e.samplerOf s x.site.sampledImage x.image = .ok x.sampler

/-- An instruction samples one thing in a state. -/
theorem Samples.unique {e : Environment} {s : State} {i : Instruction} {x x' : Sample}
    (h : Samples e s i x) (h' : Samples e s i x') : x = x' := by
  obtain ⟨op, hop, -, hof⟩ := h.site
  obtain ⟨op', hop', -, hof'⟩ := h'.site
  cases hop.symm.trans hop'
  have hsite : x.site = x'.site := Except.ok.inj (hof.symm.trans hof')
  have himage : x.image = x'.image := Except.ok.inj (h.image.symm.trans (hsite ▸ h'.image))
  have hsampler := h'.sampler
  rw [← hsite, ← himage] at hsampler
  exact Sample.ext hsite himage (Except.ok.inj (h.sampler.symm.trans hsampler))

/-- A sampling instruction keeps no function that it can use, asks the resolver for one and is given
it. -/
structure Obtains (e : Environment) (s : State) (i : Instruction) (x : Sample)
    (f : SamplingFunction) : Prop where
  samples : Samples e s i x
  missing : s.kept x = none
  given : ∃ s', (ask e.resolver (x.key e)).run s = (.ok f, s')

/-- Nothing but requests is added to the record of events. -/
def NoCalls (s s' : State) : Prop :=
  ∃ requests, s'.machine.events = requests ++ s.machine.events ∧
    ∀ f texture inputs, SamplingEvent.called f texture inputs ∉ requests

/-- What becomes of the call sites: nothing, or one of them keeps a function that it obtained. -/
def KeepsObtained (e : Environment) (s : State) (i : Instruction) (s' : State) : Prop :=
  s'.machine.cache = s.machine.cache ∨ ∃ x f, Obtains e s i x f ∧
    s'.machine.cache = s.machine.cache.set x.site.callSite ⟨some x.image, x.sampler, some f⟩

/-- A step calls only functions that the call site keeps or obtains, and with the record of the
image that it samples. -/
def CallsWhatItHas (e : Environment) (s : State) (i : Instruction) (s' : State) : Prop :=
  ∀ new f texture inputs, s'.machine.events = new ++ s.machine.events →
    SamplingEvent.called f texture inputs ∈ new → ∃ x, Samples e s i x ∧
      texture = ⟨x.image, e.sampledRecord x.image⟩ ∧ (s.kept x = some f ∨ Obtains e s i x f)

variable {s s' s'' : State}

namespace NoCalls

theorem of_events_eq (h : s'.machine.events = s.machine.events) : NoCalls s s' :=
  ⟨[], h, fun _ _ _ => List.not_mem_nil⟩

theorem trans (h : NoCalls s s') (h' : NoCalls s' s'') : NoCalls s s'' := by
  obtain ⟨requests, hevents, hnone⟩ := h
  obtain ⟨requests', hevents', hnone'⟩ := h'
  refine ⟨requests' ++ requests, ?_, fun f texture inputs hmem => ?_⟩
  · rw [hevents', hevents, List.append_assoc]
  · rcases List.mem_append.mp hmem with hmem | hmem
    · exact hnone' f texture inputs hmem
    · exact hnone f texture inputs hmem

theorem callsWhatItHas (h : NoCalls s s') : CallsWhatItHas e s i s' := by
  intro new f texture inputs hnew hmem
  obtain ⟨requests, hevents, hnone⟩ := h
  rw [hevents, List.append_left_inj] at hnew
  exact absurd (hnew ▸ hmem) (hnone f texture inputs)

end NoCalls

/-! ### Asking -/

/-- A part of a run makes requests only: it calls nothing and leaves the call sites as they are. -/
def Requests (x : Run α) : Prop :=
  ∀ s, NoCalls s (x.run s).2 ∧ (x.run s).2.machine.cache = s.machine.cache

theorem Quiet.requests {x : Run α} (h : Quiet x) : Requests x :=
  fun s => ⟨.of_events_eq (h s).events, (h s).cache⟩

theorem Requests.bind {x : Run α} {f : α → Run β} (hx : Requests x) (hf : ∀ a, Requests (f a)) :
    Requests (x >>= f) := by
  intro s
  rw [run_bind]
  have hs := hx s
  rcases hrun : x.run s with ⟨_ | a, s'⟩ <;> rw [hrun] at hs
  · exact hs
  · exact ⟨hs.1.trans (hf a s').1, (hf a s').2.trans hs.2⟩

theorem requests_note {event : SamplingEvent}
    (h : ∀ f texture inputs, event ≠ .called f texture inputs) :
    Requests (modify (·.note event)) := fun _ =>
  ⟨⟨[event], rfl, fun f texture inputs hmem =>
    h f texture inputs (List.mem_singleton.mp hmem).symm⟩, rfl⟩

theorem requests_ask (resolver : Resolver) (key : SamplingKey) : Requests (ask resolver key) := by
  cases resolver with
  | own find =>
    exact (requests_note fun _ _ _ h => by cases h).bind fun _ => (quiet_pure _).requests
  | device =>
    refine (requests_note fun _ _ _ h => by cases h).bind fun _ => ?_
    refine (quiet_inspect _).requests.bind fun r => ?_
    have hdevice : Requests (modify fun s => { s with machine := { s.machine with
        device := r.device } }) := fun _ => ⟨.of_events_eq rfl, rfl⟩
    refine hdevice.bind fun _ => ?_
    cases r.request with
    | none => exact (quiet_pure _).requests
    | some request =>
      exact (requests_note fun _ _ _ h => by cases h).bind fun _ => (quiet_pure _).requests

theorem run_get (s : State) : (get : Run State).run s = (.ok s, s) := rfl

theorem run_findFunction_of_kept {x : Sample} {f : SamplingFunction} (h : s.kept x = some f) :
    (findFunction e x.site x.image x.sampler).run s = (.ok f, s) := by
  rw [State.kept] at h
  rw [findFunction, run_bind, run_get]
  dsimp only
  rw [h]
  rfl

theorem run_findFunction_of_missing {x : Sample} (h : s.kept x = none) :
    (findFunction e x.site x.image x.sampler).run s = (do
      let function ← ask e.resolver (x.key e)
      let entry : CallSiteEntry := ⟨some x.image, x.sampler, some function⟩
      modify fun s => { s with machine :=
        { s.machine with cache := s.machine.cache.set x.site.callSite entry } }
      return function : Run SamplingFunction).run s := by
  rw [State.kept] at h
  rw [findFunction, run_bind, run_get]
  dsimp only
  rw [h]
  rfl

/-- What finding a function does: it keeps what it obtains, and gives what it keeps or obtains. -/
theorem findFunction_spec {x : Sample} (hx : Samples e s i x) :
    NoCalls s ((findFunction e x.site x.image x.sampler).run s).2 ∧
      KeepsObtained e s i ((findFunction e x.site x.image x.sampler).run s).2 ∧
      ∀ f, ((findFunction e x.site x.image x.sampler).run s).1 = .ok f →
        s.kept x = some f ∨ Obtains e s i x f := by
  cases hkept : s.kept x with
  | some f =>
    rw [run_findFunction_of_kept hkept]
    refine ⟨.of_events_eq rfl, .inl rfl, fun f' h => .inl ?_⟩
    cases h
    rfl
  | none =>
    obtain ⟨hcalls, hcache⟩ := requests_ask e.resolver (x.key e) s
    rw [run_findFunction_of_missing hkept, run_bind]
    rcases hask : (ask e.resolver (x.key e)).run s with ⟨_ | f, t⟩ <;> rw [hask] at hcalls hcache
    · exact ⟨hcalls, .inl hcache, nofun⟩
    · have hobtains : Obtains e s i x f := ⟨hx, hkept, t, hask⟩
      refine ⟨hcalls.trans (.of_events_eq rfl), .inr ⟨x, f, hobtains, ?_⟩, fun f' h => .inr ?_⟩
      · exact congrArg (List.set · _ _) hcache
      · cases h
        exact hobtains

/-! ### Steps -/

/-- What a step does to call sites, and what it calls. -/
structure SiteEffect (e : Environment) (i : Instruction) (s s' : State) : Prop where
  keeps : KeepsObtained e s i s'
  calls : CallsWhatItHas e s i s'

theorem SameSampling.siteEffect (h : SameSampling s s') : SiteEffect e i s s' :=
  ⟨.inl h.cache, NoCalls.callsWhatItHas (.of_events_eq h.events)⟩

theorem SiteEffect.then (h : SiteEffect e i s s') (h' : SameSampling s' s'') :
    SiteEffect e i s s'' := by
  refine ⟨?_, fun new f texture inputs hnew => h.calls new f texture inputs ?_⟩
  · rw [KeepsObtained, h'.cache]
    exact h.keeps
  · rw [← h'.events, hnew]

theorem siteEffect_lift_bind {x : Except Fault α} {g : α → Run β}
    (h : ∀ a, x = .ok a → SiteEffect e i s ((g a).run s).2) :
    SiteEffect e i s ((liftM x >>= g).run s).2 := by
  rw [run_bind]
  cases x with
  | error fault => exact (SameSampling.refl s).siteEffect
  | ok a => exact h a rfl

/-- Sampling calls the function that was found. -/
theorem siteEffect_sampleTexels (hactive : e.active.anyOn = true) {site : SamplingInstruction}
    (hsite : ∃ op, i.op? = some op ∧ op.isSampling = true ∧
      SamplingInstruction.ofInstruction e.declarations i op = .ok site) :
    SiteEffect e i s ((sampleTexels e site).run s).2 := by
  refine siteEffect_lift_bind fun image himage => siteEffect_lift_bind fun sampler hsampler => ?_
  have hsamples : Samples e s i ⟨site, image, sampler⟩ := ⟨hactive, hsite, himage, hsampler⟩
  obtain ⟨hcalls, hkeeps, hfound⟩ := findFunction_spec hsamples
  rw [run_bind]
  rcases hfind : (findFunction e site image sampler).run s with ⟨_ | f, t⟩ <;>
    rw [hfind] at hcalls hkeeps hfound
  · exact ⟨hkeeps, hcalls.callsWhatItHas⟩
  · dsimp only
    rw [run_bind, run_inspect]
    cases e.samplingInputs t site with
    | error fault => exact ⟨hkeeps, hcalls.callsWhatItHas⟩
    | ok inputs =>
      obtain ⟨requests, hevents, hnone⟩ := hcalls
      refine ⟨hkeeps, fun new f' texture inputs' hnew hmem => ?_⟩
      have hnew :
          SamplingEvent.called f ⟨image, e.sampledRecord image⟩ inputs :: requests = new := by
        rw [← List.append_left_inj, ← hnew, List.cons_append, ← hevents]
        rfl
      rw [← hnew, List.mem_cons] at hmem
      rcases hmem with hmem | hmem
      · cases hmem
        exact ⟨_, hsamples, rfl, hfound f rfl⟩
      · exact absurd hmem (hnone f' texture inputs')

theorem siteEffect_executeSampling {op : Opcode} (hop : i.op? = some op)
    (hsampling : op.isSampling = true) :
    SiteEffect e i s ((executeSampling e i op).run s).2 := by
  refine siteEffect_lift_bind fun site hsite => siteEffect_lift_bind fun count _ => ?_
  have hdefine (texels : Lanes Texel) : Quiet
      (defineComponents site.result ((Texel.channels texels).take count)) := quiet_define _ _
  cases hactive : e.active.anyOn with
  | false => exact (hdefine _ s).siteEffect
  | true =>
    have heffect := siteEffect_sampleTexels (s := s) hactive ⟨op, hop, hsampling, hsite⟩
    rw [if_pos rfl, run_bind]
    rcases hrun : (sampleTexels e site).run s with ⟨_ | texels, s'⟩ <;> rw [hrun] at heffect
    · exact heffect
    · exact heffect.then (hdefine texels s')

theorem execute_of_isSampling {op : Opcode} (h : op.isSampling = true) :
    execute e i op = executeSampling e i op := by
  cases op <;> first | rfl | cases h

/-- Instructions that do not end a block are executed, and the next one follows. -/
theorem step_eq_execute {op : Opcode} (hop : i.op? = some op)
    (hinner : op ∉ [.opBranch, .opReturn, .opReturnValue]) :
    step e i = (do execute e i op; return .next) := by
  simp only [List.mem_cons, List.not_mem_nil, or_false, not_or] at hinner
  rw [step, hop]
  split
  case h_1 hnone => cases hnone
  case h_2 heq => exact absurd (Option.some.inj heq) hinner.1
  case h_3 heq => exact absurd (Option.some.inj heq) hinner.2.1
  case h_4 heq => exact absurd (Option.some.inj heq) hinner.2.2
  case h_5 heq =>
    cases heq
    rfl

/-- **Every instruction** keeps what it obtains, and calls what it keeps or obtains. -/
theorem step_siteEffect (e : Environment) (i : Instruction) (s : State) :
    SiteEffect e i s ((step e i).run s).2 := by
  unfold step
  split
  case h_1 | h_3 | h_4 => exact (SameSampling.refl s).siteEffect
  case h_2 => exact siteEffect_lift_bind fun label _ => (SameSampling.refl s).siteEffect
  case h_5 op _ _ _ hop =>
    have heffect : SiteEffect e i s ((execute e i op).run s).2 := by
      cases hsampling : op.isSampling with
      | false => exact (quiet_execute hsampling s).siteEffect
      | true =>
        rw [execute_of_isSampling hsampling]
        exact siteEffect_executeSampling hop hsampling
    rw [run_bind]
    rcases hrun : (execute e i op).run s with ⟨_ | _, s'⟩ <;> rw [hrun] at heffect
    · exact heffect
    · exact heffect

/-! ## Runs one after the other -/

/-- A run: what it is given, and what it starts with. -/
structure Launch where
  environment : Environment
  inputs : InterfaceValues
  machine : Machine

namespace Launch

/-- The states that the run visits, with the instructions that it executes there. -/
def Executes (l : Launch) (s : State) (i : Instruction) : Prop :=
  ∃ offset, Visits l.environment l.inputs l.machine s offset ∧
    l.environment.shader.definition offset = .ok i

/-- What a trace of the run says is executed. -/
theorem executes_of_mem_trace {l : Launch} {start : Except Fault Unit × State} {fuel : Nat}
    {p : State × Instruction}
    (hstart : (l.environment.declarations.globals.forM (l.environment.initGlobal l.inputs)).run
      { machine := l.machine } = start) (hok : start.1 = .ok ())
    (h : p ∈ trace l.environment fuel l.environment.shader.entryBlock start.2) :
    l.Executes p.1 p.2 := by
  rcases start with ⟨_, first⟩
  cases hok
  exact Visits.of_mem_trace (.start hstart) h

/-- The state at the end of the run, whether it ends with a fault or not. -/
def last (l : Launch) : State :=
  ((run l.environment l.inputs).run { machine := l.machine }).2

/-- Some call site of the run obtains a function for a sample. -/
def Obtained (l : Launch) (x : Sample) (f : SamplingFunction) : Prop :=
  ∃ s i, l.Executes s i ∧ Obtains l.environment s i x f

end Launch

/-- Runs of one shader, the latest first, and the call sites that they leave. Every run starts with
the call sites that the one before it left, and the first one with empty ones; whatever else a run
is given may have changed since then. -/
inductive History (shader : Shader) : List Launch → List CallSiteEntry → Prop
  | start : History shader [] (shader.declarations.callSites.map fun _ => {})
  | run {earlier : List Launch} {l : Launch} (h : History shader earlier l.machine.cache)
      (hshader : l.environment.shader = shader) :
      History shader (l :: earlier) l.last.machine.cache

/-- Call sites keep only functions that were given for some sample, together with its image and its
sampler. -/
def Supplied (given : Sample → SamplingFunction → Prop) (cache : List CallSiteEntry) : Prop :=
  ∀ (site : Nat) (entry : CallSiteEntry) (f : SamplingFunction), cache[site]? = some entry →
    entry.function = some f → ∃ x, given x f ∧ x.site.callSite = site ∧
      entry.image = some x.image ∧ entry.sampler = x.sampler

namespace Supplied

variable {given given' : Sample → SamplingFunction → Prop} {cache : List CallSiteEntry}

theorem mono (h : Supplied given cache) (hgiven : ∀ x f, given x f → given' x f) :
    Supplied given' cache := by
  intro site entry f hentry hf
  obtain ⟨x, hx, hrest⟩ := h site entry f hentry hf
  exact ⟨x, hgiven x f hx, hrest⟩

theorem set (h : Supplied given cache) {x : Sample} {f : SamplingFunction} (hx : given x f) :
    Supplied given (cache.set x.site.callSite ⟨some x.image, x.sampler, some f⟩) := by
  intro site entry f' hentry hf
  rw [List.getElem?_set] at hentry
  split at hentry
  · split at hentry
    · cases hentry
      cases hf
      exact ⟨x, hx, ‹_›, rfl, rfl⟩
    · cases hentry
  · exact h site entry f' hentry hf

/-- What a call site keeps for a sample was given for the same image and sampler. -/
theorem kept {s : State} (h : Supplied given s.machine.cache) {x : Sample} {f : SamplingFunction}
    (hkept : s.kept x = some f) : ∃ x', given x' f ∧ x'.site.callSite = x.site.callSite ∧
      x'.image = x.image ∧ x'.sampler = x.sampler := by
  obtain ⟨entry, hentry, hhit⟩ := Option.bind_eq_some_iff.mp hkept
  rw [CallSiteEntry.hit?, Option.ite_none_right_eq_some] at hhit
  obtain ⟨⟨himage, hsampler⟩, hf⟩ := hhit
  obtain ⟨x', hx', hsite, himage', hsampler'⟩ := h _ entry f hentry hf
  exact ⟨x', hx', hsite, Option.some.inj (himage'.symm.trans himage), hsampler'.symm.trans hsampler⟩

/-- Steps keep it up, as long as what they obtain counts as given. -/
theorem step (h : Supplied given s.machine.cache)
    (hobtains : ∀ x f, Obtains e s i x f → given x f) :
    Supplied given ((Execution.step e i).run s).2.machine.cache := by
  rcases (step_siteEffect e i s).keeps with hsame | ⟨x, f, hx, hset⟩
  · rw [hsame]
    exact h
  · rw [hset]
    exact h.set (hobtains x f hx)

end Supplied

namespace Launch

variable {l : Launch} {given : Sample → SamplingFunction → Prop}

section

variable (h : Supplied given l.machine.cache) (hobtained : ∀ x f, l.Obtained x f → given x f)
include h hobtained

theorem supplied_of_visits {s : State} {offset : Nat}
    (hs : Visits l.environment l.inputs l.machine s offset) : Supplied given s.machine.cache := by
  induction hs with
  | start hrun =>
    have hquiet := quiet_forM (quiet_initGlobal (e := l.environment) l.inputs)
      l.environment.declarations.globals { machine := l.machine }
    rw [hrun] at hquiet
    rw [hquiet.cache]
    exact h
  | @next s s' offset i hs hi hstep ih =>
    have hnext := ih.step (e := l.environment) (i := i)
      fun x f hx => hobtained x f ⟨s, i, ⟨offset, hs, hi⟩, hx⟩
    rwa [hstep] at hnext
  | @branch s s' offset label start i hs hi hstep hstart ih =>
    have hnext := ih.step (e := l.environment) (i := i)
      fun x f hx => hobtained x f ⟨s, i, ⟨offset, hs, hi⟩, hx⟩
    rwa [hstep] at hnext

theorem supplied_runFrom (fuel : Nat) {s : State} {offset : Nat}
    (hs : Visits l.environment l.inputs l.machine s offset) :
    Supplied given ((runFrom l.environment fuel offset).run s).2.machine.cache := by
  -- a step that faults may have filled its call site, so the state after it counts as well
  have hbefore := supplied_of_visits h hobtained hs
  induction fuel generalizing s offset with
  | zero => exact hbefore
  | succ fuel ih =>
    rw [runFrom, run_bind]
    cases hi : l.environment.shader.definition offset with
    | error fault => exact hbefore
    | ok i =>
      have hafter := hbefore.step (e := l.environment) (i := i)
        fun x f hx => hobtained x f ⟨s, i, ⟨offset, hs, hi⟩, hx⟩
      change Supplied given
        ((Execution.step l.environment i >>= _ : Run Unit).run s).2.machine.cache
      rw [run_bind]
      rcases hstep : (Execution.step l.environment i).run s with ⟨_ | _ | label | _, s'⟩ <;>
        rw [hstep] at hafter
      case error | stop => exact hafter
      case next => exact ih (.next hs hi hstep) hafter
      case branch =>
        dsimp only
        rw [run_bind]
        cases hstart : blockStart l.environment label with
        | error fault => exact hafter
        | ok start => exact ih (.branch hs hi hstep hstart) hafter

/-- However a run ends, its call sites keep functions that were given. -/
theorem supplied_last : Supplied given l.last.machine.cache := by
  have hquiet := quiet_forM (quiet_initGlobal (e := l.environment) l.inputs)
    l.environment.declarations.globals { machine := l.machine }
  rw [last, Execution.run, run_bind]
  rcases hglobals : (l.environment.declarations.globals.forM
    (l.environment.initGlobal l.inputs)).run { machine := l.machine } with ⟨_ | _, s⟩
  · rw [hglobals] at hquiet
    rw [hquiet.cache]
    exact h
  · have hrun := supplied_runFrom h hobtained (enough l.environment.shader.module) (.start hglobals)
    dsimp only
    rw [run_bind]
    generalize (runFrom l.environment (enough l.environment.shader.module)
      l.environment.shader.entryBlock).run s = r at hrun ⊢
    rcases r with ⟨_ | _, s'⟩ <;> exact hrun

end

end Launch

/-- **Call sites keep functions that earlier runs obtained.** -/
theorem History.supplied {shader : Shader} {list : List Launch} {cache : List CallSiteEntry}
    (h : History shader list cache) :
    Supplied (fun x f => ∃ l ∈ list, l.Obtained x f) cache := by
  induction h with
  | start =>
    intro site entry f hentry hf
    rw [List.getElem?_map, Option.map_eq_some_iff] at hentry
    obtain ⟨-, -, rfl⟩ := hentry
    cases hf
  | @run earlier l h hshader ih =>
    refine Launch.supplied_last (ih.mono fun x f hx => ?_) fun x f hx => ?_
    · obtain ⟨l', hl', hx⟩ := hx
      exact ⟨l', List.mem_cons_of_mem _ hl', hx⟩
    · exact ⟨l, List.mem_cons_self, hx⟩

/-! ### One call site for each instruction -/

theorem offset_of_definition {shader : Shader} {offset : Nat}
    (h : shader.definition offset = .ok i) : i.offset = offset := by
  rw [Shader.definition, Spirv.Module.fetch] at h
  split at h
  · cases h
  · dsimp only at h
    split at h
    · cases h
    · cases h
      rfl

/-- What a sampling instruction is read from: its call site, and operands that are identifiers.  Its
operation has a variant and a method for them. -/
structure ReadFrom (d : Declarations) (i : Instruction) (op : Opcode) (site : SamplingInstruction) :
    Prop where
  callSite : d.callSite i.offset = .ok site.callSite
  resultType : i.id 1 = .ok site.resultType
  result : i.id 2 = .ok site.result
  sampledImage : i.id 3 = .ok site.sampledImage
  coordinate : i.id 4 = .ok site.coordinate
  dref : ∀ id ∈ site.dref, i.id 5 = .ok id
  isSome_dref : site.dref.isSome = op.hasDepthReference
  operands : SamplingInstruction.readOperands i op = .ok site.operands
  classify : Shader.classify op site.operands =
    .ok (site.signature.variant, site.signature.method)

theorem readFrom_of_ofInstruction {d : Declarations} {op : Opcode} {site : SamplingInstruction}
    (h : SamplingInstruction.ofInstruction d i op = .ok site) : ReadFrom d i op site := by
  simp only [SamplingInstruction.ofInstruction, bind_eq_ok] at h
  obtain ⟨operands, hoperands, ⟨_, _⟩, hclassify, h⟩ := h
  split at h
  all_goals
    simp only [bind_eq_ok, pure_eq_ok] at h
    split at h
  all_goals
    simp only [bind_eq_ok, pure_eq_ok, map_eq_ok] at h
    grind [ReadFrom]

theorem callSite_of_ofInstruction {d : Declarations} {op : Opcode} {site : SamplingInstruction}
    (h : SamplingInstruction.ofInstruction d i op = .ok site) :
    d.callSite i.offset = .ok site.callSite := (readFrom_of_ofInstruction h).callSite

theorem getElem?_of_callSite {d : Declarations} {offset site : Nat}
    (h : d.callSite offset = .ok site) : d.callSites[site]? = some offset := by
  rw [Declarations.callSite] at h
  split at h
  case h_1 found hfound =>
    cases h
    obtain ⟨hbound, heq, -⟩ := List.findIdx?_eq_some_iff_getElem.mp hfound
    rw [List.getElem?_eq_getElem hbound, eq_of_beq heq]
  case h_2 => cases h

theorem offset_eq_of_callSite {d : Declarations} {offset offset' site : Nat}
    (h : d.callSite offset = .ok site) (h' : d.callSite offset' = .ok site) : offset = offset' :=
  Option.some.inj ((getElem?_of_callSite h).symm.trans (getElem?_of_callSite h'))

/-- Instructions with one call site are one instruction, and sample in one way. -/
theorem site_eq_of_callSite {shader : Shader} {i i' : Instruction} {x x' : Sample}
    {e e' : Environment} {s s' : State} (he : e.shader = shader) (he' : e'.shader = shader)
    {offset offset' : Nat} (hi : shader.definition offset = .ok i)
    (hi' : shader.definition offset' = .ok i') (hx : Samples e s i x) (hx' : Samples e' s' i' x')
    (hsite : x.site.callSite = x'.site.callSite) : x.site = x'.site := by
  subst he
  obtain ⟨op, hop, -, hof⟩ := hx.site
  obtain ⟨op', hop', -, hof'⟩ := hx'.site
  have hdeclarations : e'.declarations = e.declarations := congrArg Shader.declarations he'
  rw [hdeclarations] at hof'
  have hoffset : i.offset = i'.offset :=
    offset_eq_of_callSite (callSite_of_ofInstruction hof)
      (hsite ▸ callSite_of_ofInstruction hof')
  rw [offset_of_definition hi, offset_of_definition hi'] at hoffset
  subst hoffset
  cases hi.symm.trans hi'
  cases hop.symm.trans hop'
  exact Except.ok.inj (hof.symm.trans hof')

theorem History.shader_eq {shader : Shader} {list : List Launch} {cache : List CallSiteEntry}
    (h : History shader list cache) : ∀ l ∈ list, l.environment.shader = shader := by
  induction h with
  | start => exact fun _ h => absurd h List.not_mem_nil
  | run _ hshader ih =>
    rw [List.forall_mem_cons]
    exact ⟨hshader, ih⟩

/-- **The function that a call site calls** was given to the same call site by the resolver, in this
run or in an earlier one. -/
theorem History.exists_obtained {shader : Shader} {earlier : List Launch} {l : Launch}
    (h : History shader earlier l.machine.cache) (hshader : l.environment.shader = shader)
    {s : State} {i : Instruction} (hs : l.Executes s i) {new : List SamplingEvent}
    {f : SamplingFunction} {texture : Texture} {inputs : List WordLanes}
    (hnew : ((step l.environment i).run s).2.machine.events = new ++ s.machine.events)
    (hcall : .called f texture inputs ∈ new) :
    ∃ x, Samples l.environment s i x ∧
      texture = ⟨x.image, l.environment.sampledRecord x.image⟩ ∧
      ∃ l' ∈ l :: earlier, l'.Obtained x f := by
  obtain ⟨x, hx, htexture, hhas⟩ := (step_siteEffect l.environment i s).calls new f texture inputs
    hnew hcall
  refine ⟨x, hx, htexture, ?_⟩
  rcases hhas with hkept | hobtains
  · -- what is kept was given to the call site, and a call site belongs to one instruction
    have hall := (h.run hshader).shader_eq
    obtain ⟨offset, hvisits, hi⟩ := hs
    have hsupplied : Supplied (fun y g => ∃ l' ∈ l :: earlier, l'.Obtained y g) s.machine.cache :=
      Launch.supplied_of_visits
        (h.supplied.mono fun y g ⟨l', hl', hy⟩ => ⟨l', List.mem_cons_of_mem l hl', hy⟩)
        (fun y g hy => ⟨l, List.mem_cons_self, hy⟩) hvisits
    obtain ⟨x', ⟨l', hl', s', i', hs', hx'⟩, hsite, himage, hsampler⟩ := hsupplied.kept hkept
    have hsites : x'.site = x.site := by
      obtain ⟨offset', -, hi'⟩ := hs'
      rw [hall l' hl'] at hi'
      rw [hshader] at hi
      exact site_eq_of_callSite (hall l' hl') hshader hi' hi hx'.samples hx hsite
    obtain rfl : x' = x := Sample.ext hsites himage hsampler
    exact ⟨l', hl', s', i', hs', hx'⟩
  · exact ⟨l, List.mem_cons_self, s, i, hs, hobtains⟩

end HostGpu.Execution
