import HostGpu.Proofs.Descriptor.LodRange
import HostGpu.Proofs.Execution.CallSites
import HostGpu.Proofs.Session.Liveness
import HostGpu.Proofs.Session.Routines

/-!
# The range of levels of detail that a sampling function is given

Samplers are made by commands, and only these get into names, layouts and descriptors
(`Session.samplers_made`).  A sampling function is given the record of the image.  If the record
names the sampler as well, as that of a combined image sampler does, then its range of levels of
detail is that of the sampler (`Session.called_with_lod_range`).  A sampler that an instruction
joins to an image has its range in a record of its own, which the function is not given.
-/

namespace HostGpu

open Outcome Execution Spirv Shader DescriptorSet

/-! ## What is sampled -/

namespace Execution

/-- The sampler was joined to its image by an instruction of the module. -/
def Sample.Joined (x : Sample) (e : Environment) : Prop :=
  ∃ object definition, e.declarations.object x.site.sampledImage = .ok object ∧
    e.shader.definition object.offset = .ok definition ∧ definition.op? = some .opSampledImage

/-- A sampler that was not joined to the image is named by the record of the image. -/
theorem Samples.sampler_eq {e : Environment} {s : State} {i : Instruction} {x : Sample}
    (h : Samples e s i x) (hne : x.sampler ≠ 0) (hjoined : ¬ x.Joined e) :
    (e.sampledRecord x.image).sampler.toNat = x.sampler := by
  have hsampler := h.sampler
  simp only [Environment.samplerOf, bind_eq_ok] at hsampler
  obtain ⟨object, hobject, type, -, hsampler⟩ := hsampler
  split at hsampler
  · simp only [bind_eq_ok] at hsampler
    obtain ⟨definition, hdefinition, hsampler⟩ := hsampler
    have hop : definition.op? ≠ some .opSampledImage := fun hop =>
      hjoined ⟨object, definition, hobject, hdefinition, hop⟩
    rw [if_neg hop] at hsampler
    exact Except.ok.inj hsampler
  · exact absurd (Except.ok.inj hsampler).symm hne

end Execution

namespace Session

variable {s s' : Session} {y : Sampler} {c : Command}

/-! ## What commands do to samplers -/

/-- A command makes a sampler. -/
inductive Makes (s : Session) (y : Sampler) : Command → Prop
  | sampler {name device : String} {info : SamplerInfo} {number : Nat} {store : Store}
      (hdevice : s.devices[device]? = some number)
      (hcreate : s.store.createSampler number info = .ok ⟨y, store⟩) :
      Makes s y (.sampler name device info)

/-- One of the commands made a sampler. -/
def Made (commands : List Command) (y : Sampler) : Prop :=
  ∃ before c rest, commands = before ++ c :: rest ∧ (after before).Makes y c

theorem Made.append {commands : List Command} (h : Made commands y) (rest : List Command) :
    Made (commands ++ rest) y := by
  obtain ⟨before, c, rest', rfl, hmakes⟩ := h
  exact ⟨before, c, rest' ++ rest, by simp, hmakes⟩

/-- Where the samplers come from that names and layouts have after a command. -/
structure SamplersFrom (s : Session) (c : Command) (s' : Session) : Prop where
  named : ∀ y ∈ s'.samplers.values, y ∈ s.samplers.values ∨ s.Makes y c
  fixed : ∀ l ∈ s'.setLayouts.values, l ∈ s.setLayouts.values ∨
    ∀ b ∈ l.bindings, ∀ y ∈ b.immutableSamplers, y ∈ s.samplers.values

namespace SamplersFrom

theorem of_eq (h : s'.samplers = s.samplers ∧ s'.setLayouts = s.setLayouts) :
    s.SamplersFrom c s' :=
  ⟨fun _ hy => .inl (h.1 ▸ hy), fun _ hl => .inl (h.2 ▸ hl)⟩

theorem makeSampler (id device : String) (info : SamplerInfo) :
    s.SamplersFrom (.sampler id device info) (s.execute (.sampler id device info)).session := by
  refine session_attempt (P := s.SamplersFrom _) (.of_eq ⟨rfl, rfl⟩) ?_
  rintro ⟨s', answer⟩ hmake
  simp only [Session.makeSampler, bind_eq_ok, mapError_eq_ok, pure_eq_ok, Prod.mk.injEq] at hmake
  obtain ⟨number, hdevice, made, hmade, rfl, -⟩ := hmake
  refine ⟨fun y hy => ?_, fun l hl => .inl hl⟩
  rcases mem_values_insert hy with rfl | hy
  · exact .inr (.sampler (find_eq_ok.mp hdevice) hmade)
  · exact .inl hy

theorem makeSetLayout (id device : String) (bindings : List BindingFields) :
    s.SamplersFrom (.setLayout id device bindings)
      (s.execute (.setLayout id device bindings)).session := by
  refine session_attempt (P := s.SamplersFrom _) (.of_eq ⟨rfl, rfl⟩) ?_
  rintro ⟨s', answer⟩ hmake
  simp only [Session.makeSetLayout, Store.createSetLayout, SetLayout.create, bind_eq_ok,
    mapError_eq_ok, throw_eq_error, error_bind, ite_error_eq_ok, pure_eq_ok,
    Prod.mk.injEq] at hmake
  obtain ⟨device, -, list, hlist, made, ⟨layout, ⟨-, -, -, rfl⟩, rfl⟩, summary, -, rfl, -⟩ := hmake
  refine ⟨fun y hy => .inl hy, fun l hl => ?_⟩
  rcases mem_values_insert hl with rfl | hl
  · refine .inr fun b hb y hy => ?_
    obtain ⟨fields, -, hfields⟩ := exists_of_mapM hlist b hb
    simp only [resolveBinding, bind_eq_ok, pure_eq_ok] at hfields
    obtain ⟨samplers, hsamplers, rfl⟩ := hfields
    exact mem_of_findAll hsamplers y hy
  · exact .inl hl

end SamplersFrom

/-- Every command leaves samplers as they are, makes one, or gives some to a layout. -/
theorem samplersFrom_execute (s : Session) (c : Command) :
    s.SamplersFrom c (s.execute c).session := by
  cases c with
  | drop =>
    exact ⟨fun _ hy => .inl (mem_values_erase hy), fun _ hl => .inl (mem_values_erase hl)⟩
  | sampler => exact .makeSampler _ _ _
  | setLayout => exact .makeSetLayout _ _ _
  | _ => exact .of_eq ⟨s.execute_leaves (p := .samplers) rfl, s.execute_leaves (p := .setLayouts) rfl⟩

/-- **Samplers that names and layouts have** were made by commands. -/
theorem samplers_made (commands : List Command) :
    (∀ y ∈ (after commands).samplers.values, Made commands y) ∧
      ∀ l ∈ (after commands).setLayouts.values, ∀ b ∈ l.bindings, ∀ y ∈ b.immutableSamplers,
        Made commands y := by
  induction commands using List.reverseRecOn with
  | nil => constructor <;> simp [after, mem_values_iff]
  | append_singleton commands c ih =>
    obtain ⟨hnamed, hfixed⟩ := ih
    have hfrom := (after commands).samplersFrom_execute c
    rw [after_append]
    constructor
    · intro y hy
      rcases hfrom.named y hy with hy | hmakes
      · exact (hnamed y hy).append [c]
      · exact ⟨commands, c, [], rfl, hmakes⟩
    · intro l hl b hb y hy
      rcases hfrom.fixed l hl with hl | hsamplers
      · exact (hfixed l hl b hb y hy).append [c]
      · exact (hnamed y (hsamplers b hb y hy)).append [c]

/-! ## Records of sets -/

/-- Records that name a sampler name one that was made, and have its range. -/
theorem hasLodRange_after (commands : List Command) {n : Nat} {d : DescriptorSet}
    (hd : (after commands).store.sets[n]? = some d) : d.Each (HasLodRange (Made commands)) := by
  refine forall_sets_after commands ?_ ?_ n d hd
  · rintro before c rest rfl layout hlayout place d hcreate
    have hmade := (samplers_made before).2 layout hlayout
    exact hasLodRange_of_create ((sound_after before).layouts layout hlayout)
      (fun b hb y hy => (hmade b hb y hy).append _) hcreate
  · rintro before c rest rfl n d d' writes copies hupdates h hsources
    refine Each.update local_hasLodRange h hupdates.update_eq_ok ?_ hsources ?_
    · intro w hw b e he hfits d o kept ho hkept
      refine hasLodRange_write hfits (fun y hy => ?_) ho hkept
      have hnamed := Roots.mem_resources.mp (hupdates.mem_resources w hw e he _ hy)
      exact ((samplers_made before).1 y hnamed).append _
    · intro x _ b b' _ _ hkinds d o kept hrange
      exact ⟨fun hkind => hrange.named (hkinds ▸ hkind), fun hkind => hrange.plain (hkinds ▸ hkind)⟩

/-! ## What is called -/

/-- **The range of levels of detail that a sampling function is given** is that of the record of the
image.  Where this record names the sampler that is used, as it does if no instruction joined the
two, it is the range of the sampler.  Where it is that of a sampled image, it is empty, whatever
sampler is used. -/
theorem called_with_lod_range (commands : List Command) (r : Routine) (inputs : InterfaceValues)
    {l : Launch} (hl : (after commands).store.launch r inputs = l) {s : State} {i : Instruction}
    {new : List SamplingEvent} {f : SamplingFunction} {texture : Texture} {given : List WordLanes}
    (hnew : ((Execution.step l.environment i).run s).2.machine.events = new ++ s.machine.events)
    (hcall : .called f texture given ∈ new) :
    ∃ x, Samples l.environment s i x ∧
      texture = ⟨x.image, l.environment.sampledRecord x.image⟩ ∧
      ∀ d k b, (after commands).store.sets[x.image.set]? = some d →
        d.layout.Element k b x.image.offset → b.kind.record? = some .sampled →
        (x.sampler ≠ 0 →
          ¬ x.Joined l.environment ∨ texture.record.sampler.toNat = x.sampler →
          ∃ y, Made commands y ∧ x.sampler = (wordOf y.id).toNat ∧
            (texture.record.minLod, texture.record.maxLod) = y.lodRange) ∧
        (b.kind = .sampledImage → texture.record.minLod = 0 ∧ texture.record.maxLod = 0) := by
  subst hl
  obtain ⟨x, hx, htexture, -⟩ := (step_siteEffect _ i s).calls new f texture given hnew hcall
  refine ⟨x, hx, htexture, fun d k b hd helement hkind => ?_⟩
  have hrecord : texture.record = SampledRecord.read d.data x.image.offset :=
    htexture ▸ sampledRecord_of_find hd
  have hrange := hasLodRange_after commands hd k b x.image.offset helement
  rw [hrecord]
  refine ⟨fun hne hnames => ?_, hrange.plain⟩
  have hsampler : (SampledRecord.read d.data x.image.offset).sampler.toNat = x.sampler := by
    rcases hnames with hjoined | hnames
    · have hnamed := hx.sampler_eq hne hjoined
      rw [htexture] at hrecord
      rwa [← hrecord]
    · exact hnames
  have hnonzero : (SampledRecord.read d.data x.image.offset).sampler ≠ 0 := by
    intro hzero
    rw [hzero] at hsampler
    exact hne hsampler.symm
  obtain ⟨y, hmade, hid, hmin, hmax⟩ := hrange.named hkind hnonzero
  exact ⟨y, hmade, by rw [← hsampler, hid], by rw [hmin, hmax]⟩

/-! ### A sampler beside its image, and one apart -/

namespace SampleOnce

/-- A module that samples a texture of one dimension.  It joins an image to a sampler, or else has
both in one descriptor. -/
def words (joins : Bool) : List UInt32 := [
  0x07230203, 0x00010000, 0, 20, 0,
  0x0004000F, 4, 8, 0, -- the entry point
  0x00040047, 7, 34, 0, 0x00040047, 7, 33, 0] ++ -- set 0 and binding 0
  (if joins then [0x00040047, 14, 34, 0, 0x00040047, 14, 33, 1] else []) ++ [ -- and binding 1
  0x00030016, 1, 32, 0x00040017, 2, 1, 4, -- numbers, and four of them
  0x00090019, 3, 1, 0, 0, 0, 0, 1, 0, 0x0003001B, 4, 3,
  0x0004002B, 1, 6, 0] ++
  (if joins then [
    0x00040020, 5, 0, 3, 0x0004003B, 5, 7, 0, -- the image
    0x0002001A, 15, 0x00040020, 16, 0, 15, 0x0004003B, 16, 14, 0] -- the sampler
  else [0x00040020, 5, 0, 4, 0x0004003B, 5, 7, 0]) ++ [ -- both
  0x00050036, 13, 8, 0, 9, 0x000200F8, 10] ++
  (if joins then [0x0004003D, 3, 17, 7, 0x0004003D, 15, 18, 14, 0x00050056, 4, 11, 17, 18]
  else [0x0004003D, 4, 11, 7]) ++ [
  0x00070058, 2, 12, 11, 6, 2, 6, -- the texel
  0x000100FD, 0x00010038]

/-- A session that gives the module a texture and a sampler.  All names are empty. -/
def commands (joins : Bool) : List Command := [
  .device "" true none,
  .image "" "" { kind := .dim1, format := .r8Unorm, extent := ⟨4, 1, 1⟩ },
  .view "" "" { preset := .wholeImage },
  .sampler "" "" {},
  .setLayout "" "" (if joins then
    [{ number := 0, kind := .sampledImage }, { number := 1, kind := .sampler }]
    else [{ number := 0, kind := .combinedImageSampler }]),
  .set "" "",
  .update "" (if joins then
    [{ binding := 0, elements := .views [""] }, { binding := 1, elements := .samplers [""] }]
    else [{ binding := 0, elements := .viewSamplers [("", "")] }]) [],
  .pipelineLayout "" "" [""],
  .shader "" "" (words joins),
  .routine "" "" "" { resolver := some InputCopy.echo },
  .bind "" "" 0]

def routine (joins : Bool) : Routine :=
  ((after (commands joins)).routines[""]?).get (by cases joins <;> decide +kernel)

/-- The set that it samples. -/
def set (joins : Bool) : DescriptorSet :=
  ((after (commands joins)).store.sets[6]?).get (by cases joins <;> decide +kernel)

theorem set_found (joins : Bool) : (after (commands joins)).store.sets[6]? = some (set joins) :=
  (Option.some_get _).symm

theorem set_bindings (joins : Bool) : (set joins).layout.bindings =
    if joins then [{ number := 0, kind := .sampledImage }, { number := 1, kind := .sampler }]
    else [{ number := 0, kind := .combinedImageSampler }] := by
  cases joins <;> decide +kernel

/-- The run that would come next. -/
def launch (joins : Bool) : Launch := (after (commands joins)).store.launch (routine joins) ∅

/-- The start of the run. -/
def start (joins : Bool) : Except Fault Unit × State :=
  ((launch joins).environment.declarations.globals.forM
    ((launch joins).environment.initGlobal (launch joins).inputs)).run
      { machine := (launch joins).machine }

/-- Where the run samples. -/
def sampling? (joins : Bool) : Option (State × Instruction) :=
  (trace (launch joins).environment 8 (launch joins).environment.shader.entryBlock
    (start joins).2).find? fun p => p.2.op?.any (·.isSampling)

def sampling (joins : Bool) : State × Instruction :=
  (sampling? joins).get (by cases joins <;> decide +kernel)

theorem executes (joins : Bool) :
    (launch joins).Executes (sampling joins).1 (sampling joins).2 := by
  have hok : (start joins).1 = .ok () := by cases joins <;> decide +kernel
  have hfind : sampling? joins = some (sampling joins) := (Option.some_get _).symm
  exact Launch.executes_of_mem_trace rfl hok (List.mem_of_find?_eq_some hfind)

/-- What happens there. -/
def events (joins : Bool) : List SamplingEvent :=
  ((Execution.step (launch joins).environment (sampling joins).2).run
    (sampling joins).1).2.machine.events

/-- One sampling function is called, and nothing happened before. -/
theorem exists_called (joins : Bool) :
    events joins = events joins ++ (sampling joins).1.machine.events ∧
      ∃ f texture given, .called f texture given ∈ events joins := by
  constructor
  · have hbefore : (sampling joins).1.machine.events.isEmpty = true := by
      cases joins <;> decide +kernel
    rw [List.isEmpty_iff.mp hbefore, List.append_nil]
  · have hcalls : (events joins).any (fun | .called .. => true | _ => false) = true := by
      cases joins <;> decide +kernel
    obtain ⟨event, hevent, hcall⟩ := List.any_eq_true.mp hcalls
    cases event with
    | called f texture given => exact ⟨f, texture, given, hevent⟩
    | _ => cases hcall

/-- What is sampled. -/
def sample : Sample where
  site := ⟨⟨.plain, .lod, 0⟩, 0, 2, 12, 11, 6, none, { mask := 2, lod := some 6 }⟩
  image := ⟨6, 0⟩
  sampler := 4

theorem samples (joins : Bool) :
    Samples (launch joins).environment (sampling joins).1 (sampling joins).2 sample := by
  refine ⟨?_, ⟨.opImageSampleExplicitLod, ?_, rfl, ?_⟩, ?_, ?_⟩
  all_goals cases joins <;> decide +kernel

end SampleOnce

open SampleOnce in
/-- The record of a combined image sampler has the range of its sampler. -/
theorem combined_sampler_range : ∃ y, Made (commands false) y ∧
    ((launch false).environment.sampledRecord sample.image).maxLod = y.lodRange.2 := by
  obtain ⟨hnew, f, texture, given, hcall⟩ := exists_called false
  obtain ⟨x, hx, rfl, hrange⟩ := called_with_lod_range (commands false) (routine false) ∅
    (l := launch false) rfl hnew hcall
  obtain rfl := hx.unique (samples false)
  have hjoined : ¬ sample.Joined (launch false).environment := by
    rintro ⟨object, definition, hobject, hdefinition, hop⟩
    have hload : ((launch false).environment.declarations.object sample.site.sampledImage >>=
        fun object => (launch false).environment.shader.definition object.offset).toOption.map
          (·.op?) = some (some .opLoad) := by decide +kernel
    rw [hobject, ok_bind, hdefinition, Except.toOption, Option.map_some, hop] at hload
    cases hload
  obtain ⟨hnamed, -⟩ := hrange _ _ _ (set_found false)
    (.first (set_bindings false) Nat.one_pos) rfl
  obtain ⟨y, hmade, -, hlods⟩ := hnamed (by decide) (.inl hjoined)
  exact ⟨y, hmade, congrArg Prod.snd hlods⟩

open SampleOnce in
/-- A sampler of its own does not give its range to the image that it is joined to. -/
theorem joined_sampler_ignored : ¬ ∀ (commands : List Command) (name : String) (r : Routine)
    (inputs : InterfaceValues) (l : Launch) (s : State) (i : Instruction)
    (new : List SamplingEvent) (f : SamplingFunction) (texture : Texture) (given : List WordLanes),
    (after commands).routines[name]? = some r → (after commands).store.launch r inputs = l →
    l.Executes s i →
    ((Execution.step l.environment i).run s).2.machine.events = new ++ s.machine.events →
    .called f texture given ∈ new →
    ∃ x, Samples l.environment s i x ∧
      texture = ⟨x.image, l.environment.sampledRecord x.image⟩ ∧
      (x.sampler ≠ 0 → ∃ y, Made commands y ∧ x.sampler = (wordOf y.id).toNat ∧
        (texture.record.minLod, texture.record.maxLod) = y.lodRange) := by
  intro hclaim
  obtain ⟨hnew, f, texture, given, hcall⟩ := exists_called true
  obtain ⟨x, hx, rfl, hrange⟩ := hclaim (commands true) "" (routine true) ∅ (launch true) _ _ _ f
    texture given (Option.some_get _).symm rfl (executes true) hnew hcall
  obtain rfl := hx.unique (samples true)
  obtain ⟨y, ⟨before, c, rest, heq, hmakes⟩, -, hlods⟩ := hrange (by decide)
  -- one command makes a sampler, and gives it the range up to thirteen
  have hc : c ∈ commands true := heq ▸ List.mem_append_right _ List.mem_cons_self
  have hinfo : y.info = {} := by
    cases hmakes with
    | sampler hdevice hcreate =>
      simp only [commands, List.mem_cons, Command.sampler.injEq, reduceCtorEq, List.not_mem_nil,
        false_or, or_false] at hc
      obtain ⟨-, -, rfl⟩ := hc
      simp only [Store.createSampler, bind_eq_ok, mapError_eq_ok, pure_eq_ok] at hcreate
      obtain ⟨-, -, hmade⟩ := hcreate
      cases hmade
      rfl
  have hzero : ((launch true).environment.sampledRecord sample.image).maxLod = 0 := by
    rw [sampledRecord_of_find (a := sample.image) (set_found true)]
    exact ((hasLodRange_after _ (set_found true) _ _ _
      (.first (set_bindings true) Nat.one_pos)).plain rfl).2
  have hrangeEnd : y.lodRange.2 = Sampler.clampLod ({} : SamplerInfo).maxLod := by
    rw [Sampler.lodRange, hinfo]
  have hmax := congrArg Prod.snd hlods
  rw [hrangeEnd] at hmax
  exact absurd (hmax.symm.trans hzero) (by decide +kernel)

end Session

end HostGpu
