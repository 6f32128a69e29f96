import HostGpu.Proofs.Execution.Progress

/-!
# What call sites used last

A sampling instruction that is executed with an active lane looks up a function for its image
descriptor and its sampler, and if it finds one, that is a use of its call site.  Every call site
keeps what it used last (`entries`), so that the uses of a routine, the latest first, say of the next
look-up whether the resolver is asked: exactly if there was no use or the last one had another
image descriptor or another sampler.
-/

namespace HostGpu.Execution

open Outcome Spirv Shader

/-! ## Events -/

/-- The event of asking a resolver. -/
def request : Resolver → SamplingKey → SamplingEvent
  | .own _, key => .askedOwn key
  | .device, key => .askedDevice key

/-- The requests among events. -/
def requests (events : List SamplingEvent) : List SamplingEvent :=
  events.filter fun
    | .askedOwn _ | .askedDevice _ => true
    | _ => false

/-- The functions that events are calls of. -/
def functions (events : List SamplingEvent) : List SamplingFunction :=
  events.filterMap fun
    | .askedDevice _ | .askedOwn _ | .built _ => none
    | .called f _ _ => some f

/-! ## Look-ups and uses -/

variable {e : Environment} {s s' : State} {i : Instruction} {x : Sample} {f : SamplingFunction}

/-- What a sampling instruction with an active lane samples, if its operands and its type are known. -/
def sampleOf (e : Environment) (s : State) (i : Instruction) (op : Opcode) :
    Except Fault Sample := do
  let site ← SamplingInstruction.ofInstruction e.declarations i op
  let _ ← e.declarations.componentCount site.resultType
  let image ← s.descriptor site.sampledImage
  let sampler ← e.samplerOf s site.sampledImage image
  return ⟨site, image, sampler⟩

/-- What an instruction looks up a function for. -/
def lookUp? (e : Environment) (s : State) (i : Instruction) : Option Sample :=
  i.op?.bind fun op =>
    if op.isSampling ∧ e.active.anyOn then (sampleOf e s i op).toOption else none

/-- A use of a call site: what was sampled, and the function that was found for it. -/
structure Use where
  sample : Sample
  function : SamplingFunction

/-- The use of a call site that an instruction makes. -/
def use? (e : Environment) (s : State) (i : Instruction) : Option Use :=
  (lookUp? e s i).bind fun x =>
    ((findFunction e x.site x.image x.sampler).run s).1.toOption.map (⟨x, ·⟩)

theorem lookUp?_eq_some : lookUp? e s i = some x ↔ Samples e s i x ∧
    ∃ count, e.declarations.componentCount x.site.resultType = .ok count := by
  simp only [lookUp?, Option.bind_eq_some_iff, Option.ite_none_right_eq_some, toOption_eq_some,
    sampleOf, bind_eq_ok, pure_eq_ok]
  constructor
  · rintro ⟨op, hop, ⟨hsampling, hactive⟩, site, hsite, count, hcount, image, himage, sampler,
      hsampler, rfl⟩
    exact ⟨⟨hactive, ⟨op, hop, hsampling, hsite⟩, himage, hsampler⟩, count, hcount⟩
  · rintro ⟨⟨hactive, ⟨op, hop, hsampling, hsite⟩, himage, hsampler⟩, count, hcount⟩
    exact ⟨op, hop, ⟨hsampling, hactive⟩, x.site, hsite, count, hcount, x.image, himage, x.sampler,
      hsampler, rfl⟩

theorem use?_eq_some {u : Use} : use? e s i = some u ↔ lookUp? e s i = some u.sample ∧
    ((findFunction e u.sample.site u.sample.image u.sample.sampler).run s).1 = .ok u.function := by
  simp only [use?, Option.bind_eq_some_iff, Option.map_eq_some_iff, toOption_eq_some]
  constructor
  · rintro ⟨x, hx, f, hf, rfl⟩
    exact ⟨hx, hf⟩
  · rintro ⟨hx, hf⟩
    exact ⟨u.sample, hx, u.function, hf, rfl⟩

/-! ### What a look-up does -/

/-- A resolver is asked. -/
structure Asks (event : SamplingEvent) (s s' : State) : Prop where
  requests : requests s'.machine.events = event :: requests s.machine.events
  functions : functions s'.machine.events = functions s.machine.events
  cache : s'.machine.cache = s.machine.cache

/-- Whether or not it is answered, a resolver is asked once. -/
theorem asks_ask (resolver : Resolver) (key : SamplingKey) (s : State) :
    Asks (request resolver key) s ((ask resolver key).run s).2 := by
  cases resolver with
  | own find => exact ⟨rfl, rfl, rfl⟩
  | device =>
    rw [ask, run_bind]
    change Asks _ s ((inspect _ >>= _ : Run SamplingFunction).run (s.note (.askedDevice key))).2
    rw [run_bind, run_inspect]
    cases (s.note (.askedDevice key)).machine.device.resolve key with
    | error fault => exact ⟨rfl, rfl, rfl⟩
    | ok r =>
      obtain ⟨function, device, _ | made⟩ := r
      · exact ⟨rfl, rfl, rfl⟩
      · exact ⟨rfl, rfl, rfl⟩

/-- What is left of a sampling instruction when its function is found. -/
def call (e : Environment) (x : Sample) (count : Nat) (f : SamplingFunction) : Run Unit := do
  let inputs ← inspect fun s => e.samplingInputs s x.site
  let texture : Texture := ⟨x.image, e.sampledRecord x.image⟩
  modify (·.note (.called f texture inputs))
  let s ← get
  defineComponents x.site.result ((Texel.channels (f s.machine.blocks texture inputs)).take count)

/-- An instruction that looks up a function finds it first and then calls it. -/
theorem run_step_of_lookUp (h : lookUp? e s i = some x) : ∃ count, (step e i).run s =
    (do call e x count (← findFunction e x.site x.image x.sampler); return .next : Run Flow).run
      s := by
  obtain ⟨⟨hactive, ⟨op, hop, hsampling, hsite⟩, himage, hsampler⟩, count, hcount⟩ :=
    lookUp?_eq_some.mp h
  have hinner : op ∉ [.opBranch, .opReturn, .opReturnValue] := by
    intro hmem
    simp only [List.mem_cons, List.not_mem_nil, or_false] at hmem
    rcases hmem with rfl | rfl | rfl <;> cases hsampling
  refine ⟨count, ?_⟩
  rw [step_eq_execute hop hinner, execute_of_isSampling hsampling, executeSampling, hactive]
  simp only [sampleTexels, call, bind_assoc, pure_bind, if_true]
  rw [run_lift_bind hsite, run_lift_bind hcount, run_inspect_bind himage, run_inspect_bind hsampler]

/-- What a call does to call sites and events: it calls one function, or faults before. -/
structure Calls {α : Type} (f : SamplingFunction) (s : State) (r : Except Fault α × State) :
    Prop where
  requests : requests r.2.machine.events = requests s.machine.events
  cache : r.2.machine.cache = s.machine.cache
  functions : functions r.2.machine.events = f :: functions s.machine.events ∨
    (∀ a, r.1 ≠ .ok a) ∧ functions r.2.machine.events = functions s.machine.events

theorem calls_call (e : Environment) (x : Sample) (count : Nat) (f : SamplingFunction)
    (s : State) : Calls f s ((call e x count f).run s) := by
  rw [call, run_bind, run_inspect]
  cases e.samplingInputs s x.site with
  | error fault => exact ⟨rfl, rfl, .inr ⟨nofun, rfl⟩⟩
  | ok inputs =>
    have hquiet (list : List WordLanes) := quiet_define x.site.result (.components list)
      (s.note (.called f ⟨x.image, e.sampledRecord x.image⟩ inputs))
    exact ⟨(congrArg requests (hquiet _).events).trans rfl, (hquiet _).cache,
      .inl ((congrArg functions (hquiet _).events).trans rfl)⟩

theorem Calls.next {x : Run Unit} {t : State} (h : Calls f s (x.run t)) :
    Calls f s ((do x; return .next : Run Flow).run t) := by
  rw [run_bind]
  rcases hrun : x.run t with ⟨_ | _, t'⟩ <;> rw [hrun] at h
  · exact ⟨h.requests, h.cache, h.functions.imp_right fun hfault => ⟨nofun, hfault.2⟩⟩
  · exact ⟨h.requests, h.cache, h.functions.imp_right fun hfault => absurd rfl (hfault.1 ())⟩

/-- **A function that is kept** is called, and no resolver is asked. -/
theorem calls_of_kept (hx : lookUp? e s i = some x) (hkept : s.kept x = some f) :
    use? e s i = some ⟨x, f⟩ ∧ Calls f s ((step e i).run s) := by
  have hfind := run_findFunction_of_kept (e := e) hkept
  refine ⟨use?_eq_some.mpr ⟨hx, congrArg Prod.fst hfind⟩, ?_⟩
  obtain ⟨count, hrun⟩ := run_step_of_lookUp hx
  rw [hrun, run_bind, hfind]
  exact (calls_call e x count f s).next

/-- The entry that a use leaves in its call site. -/
def Use.entry (u : Use) : CallSiteEntry := ⟨some u.sample.image, u.sample.sampler, some u.function⟩

/-- **Where no function is kept** the resolver is asked once.  If it answers, the call site keeps the
function, which is called; otherwise the instruction faults. -/
theorem asks_of_missing (hx : lookUp? e s i = some x) (hkept : s.kept x = none) :
    ∃ t, Asks (request e.resolver (x.key e)) s t ∧
      ((∃ u, use? e s i = some u ∧ u.sample = x ∧ Calls u.function { t with machine :=
          { t.machine with cache := t.machine.cache.set x.site.callSite u.entry } }
          ((step e i).run s)) ∨
        ∃ fault, use? e s i = none ∧ (step e i).run s = (.error fault, t)) := by
  have hfind := run_findFunction_of_missing (e := e) hkept
  rw [run_bind] at hfind
  have hasks := asks_ask e.resolver (x.key e) s
  obtain ⟨count, hrun⟩ := run_step_of_lookUp hx
  rcases hask : (ask e.resolver (x.key e)).run s with ⟨fault | f, t⟩ <;> rw [hask] at hasks hfind
  · refine ⟨t, hasks, .inr ⟨fault, ?_, ?_⟩⟩
    · rw [use?, hx, Option.bind_some, hfind]
      rfl
    · rw [hrun, run_bind, hfind]
  · refine ⟨t, hasks, .inl ⟨⟨x, f⟩, use?_eq_some.mpr ⟨hx, congrArg Prod.fst hfind⟩, rfl, ?_⟩⟩
    rw [hrun, run_bind, hfind]
    exact (calls_call e x count f _).next

theorem sameSampling_lift_bind {α β : Type} {r : Except Fault α} {g : α → Run β}
    (h : ∀ a, r = .ok a → SameSampling s ((g a).run s).2) :
    SameSampling s ((liftM r >>= g).run s).2 := by
  cases hr : r with
  | error fault => exact .refl s
  | ok a => exact h a hr

theorem sameSampling_inspect_bind {α β : Type} {r : State → Except Fault α} {g : α → Run β}
    (h : ∀ a, r s = .ok a → SameSampling s ((g a).run s).2) :
    SameSampling s ((inspect r >>= g).run s).2 := by
  rw [run_bind, run_inspect]
  cases hr : r s with
  | error fault => exact .refl s
  | ok a => exact h a hr

/-- Sampling with no active lane, or of something that is not known, changes no call site. -/
theorem sameSampling_executeSampling {op : Opcode}
    (h : e.active.anyOn = true → ∀ x, sampleOf e s i op ≠ .ok x) :
    SameSampling s ((executeSampling e i op).run s).2 := by
  refine sameSampling_lift_bind fun site hsite => sameSampling_lift_bind fun count hcount => ?_
  cases hactive : e.active.anyOn with
  | false => exact quiet_define site.result _ s
  | true =>
    rw [if_pos rfl]
    simp only [sampleTexels, bind_assoc]
    refine sameSampling_inspect_bind fun image himage => ?_
    refine sameSampling_inspect_bind fun sampler hsampler => ?_
    refine absurd ?_ (h hactive ⟨site, image, sampler⟩)
    simp only [sampleOf, bind_eq_ok, pure_eq_ok]
    exact ⟨site, hsite, count, hcount, image, himage, sampler, hsampler, rfl⟩

/-- **Instructions that look up nothing** leave call sites and events as they are. -/
theorem sameSampling_of_lookUp_eq_none (h : lookUp? e s i = none) :
    SameSampling s ((step e i).run s).2 := by
  unfold step
  split
  case h_1 | h_3 | h_4 => exact .refl s
  case h_2 =>
    rw [run_bind]
    cases i.id 1 <;> exact .refl s
  case h_5 op _ _ _ hop =>
    have hexecute : SameSampling s ((execute e i op).run s).2 := by
      cases hsampling : op.isSampling with
      | false => exact quiet_execute hsampling s
      | true =>
        rw [execute_of_isSampling hsampling]
        refine sameSampling_executeSampling fun hactive x hx => ?_
        rw [lookUp?, hop, Option.bind_some, if_pos ⟨hsampling, hactive⟩, hx] at h
        cases h
    rw [run_bind]
    rcases hrun : (execute e i op).run s with ⟨_ | _, s'⟩ <;> rw [hrun] at hexecute <;>
      exact hexecute

/-! ## What call sites keep -/

/-- The last use of a call site among uses, of which the latest comes first. -/
def lastUse? (uses : List Use) (site : Nat) : Option Use :=
  uses.find? fun u => u.sample.site.callSite = site

/-- Call sites that keep what they used last. -/
def entries (count : Nat) (uses : List Use) : List CallSiteEntry :=
  (List.range count).map fun site => (lastUse? uses site).elim {} Use.entry

/-- A use was of the same image descriptor, with the same sampler. -/
def Use.Serves (u : Use) (x : Sample) : Prop :=
  u.sample.image = x.image ∧ u.sample.sampler = x.sampler

instance (u : Use) (x : Sample) : Decidable (u.Serves x) := inferInstanceAs (Decidable (_ ∧ _))

variable {count : Nat} {uses : List Use} {u : Use}

theorem length_entries (count : Nat) (uses : List Use) : (entries count uses).length = count := by
  rw [entries, List.length_map, List.length_range]

theorem entries_getElem? {site : Nat} (hsite : site < count) :
    (entries count uses)[site]? = some ((lastUse? uses site).elim {} Use.entry) := by
  rw [entries, List.getElem?_map, List.getElem?_range hsite, Option.map_some]

/-- Call sites that were not used are empty. -/
theorem entries_nil {α : Type} (list : List α) : entries list.length [] = list.map fun _ => {} := by
  have hnone : (fun site => (lastUse? [] site).elim ({} : CallSiteEntry) Use.entry) =
      fun _ => {} := rfl
  rw [entries, hnone, List.map_const', List.map_const', List.length_range]

theorem lastUse?_cons (u : Use) (uses : List Use) (site : Nat) :
    lastUse? (u :: uses) site = if u.sample.site.callSite = site then some u else
      lastUse? uses site := by
  rw [lastUse?, List.find?_cons]
  split <;> simp_all [lastUse?]

/-- A use replaces what its call site keeps. -/
theorem entries_cons (u : Use) : entries count (u :: uses) =
    (entries count uses).set u.sample.site.callSite u.entry := by
  refine List.ext_getElem? fun site => ?_
  rcases Nat.lt_or_ge site count with hlt | hge
  · rw [entries_getElem? hlt, lastUse?_cons, List.getElem?_set, length_entries]
    split
    · rename_i heq
      rw [heq, if_pos hlt]
      rfl
    · rw [entries_getElem? hlt]
  · rw [List.getElem?_eq_none (by rwa [length_entries]),
      List.getElem?_eq_none (by rwa [List.length_set, length_entries])]

/-- What is kept for a sample is the function of the last use, if that was of the same image
descriptor and sampler. -/
theorem kept_of_entries (hs : s.machine.cache = entries count uses)
    (hsite : x.site.callSite < count) : s.kept x =
      (lastUse? uses x.site.callSite).bind fun u => if u.Serves x then some u.function else none := by
  rw [State.kept, hs, entries_getElem? hsite, Option.bind_some]
  cases lastUse? uses x.site.callSite with
  | none => simp [CallSiteEntry.hit?]
  | some u =>
    simp only [Option.elim_some, Option.bind_some, CallSiteEntry.hit?, Use.entry,
      Option.some.injEq]
    rfl

/-! ### Steps -/

/-- Look-ups are of call sites that the shader has. -/
theorem callSites_getElem? (h : lookUp? e s i = some x) :
    e.declarations.callSites[x.site.callSite]? = some i.offset := by
  obtain ⟨op, -, -, hsite⟩ := (lookUp?_eq_some.mp h).1.site
  exact getElem?_of_callSite (callSite_of_ofInstruction hsite)

theorem callSite_lt (h : lookUp? e s i = some x) :
    x.site.callSite < e.declarations.callSites.length :=
  (List.getElem?_eq_some_iff.mp (callSites_getElem? h)).1

theorem use?_of_lookUp_eq_none (h : lookUp? e s i = none) : use? e s i = none := by
  rw [use?, h, Option.bind_none]

/-- **After an instruction** every call site keeps what it used last. -/
theorem entries_step (hs : s.machine.cache = entries e.declarations.callSites.length uses) :
    ((step e i).run s).2.machine.cache =
      entries e.declarations.callSites.length ((use? e s i).toList ++ uses) := by
  cases hx : lookUp? e s i with
  | none =>
    rw [(sameSampling_of_lookUp_eq_none hx).cache, hs, use?_of_lookUp_eq_none hx]
    rfl
  | some x =>
    cases hkept : s.kept x with
    | some f =>
      -- the call site keeps just what is used once more
      obtain ⟨huse, hcalls⟩ := calls_of_kept hx hkept
      rw [hcalls.cache, huse, Option.toList_some, List.singleton_append, entries_cons, hs]
      rw [kept_of_entries hs (callSite_lt hx), Option.bind_eq_some_iff] at hkept
      obtain ⟨u, hu, hserves⟩ := hkept
      rw [Option.ite_none_right_eq_some] at hserves
      obtain ⟨⟨himage, hsampler⟩, hf⟩ := hserves
      have hentry : (⟨x, f⟩ : Use).entry = u.entry := by
        rw [Use.entry, Use.entry, himage, hsampler, Option.some.inj hf]
      have hat : (entries e.declarations.callSites.length uses)[x.site.callSite]? = some u.entry := by
        rw [entries_getElem? (callSite_lt hx), hu, Option.elim_some]
      rw [hentry]
      obtain ⟨hbound, hat⟩ := List.getElem?_eq_some_iff.mp hat
      rw [← hat, List.set_getElem_self]
    | none =>
      obtain ⟨t, hasks, hfound⟩ := asks_of_missing hx hkept
      rcases hfound with ⟨u, huse, rfl, hcalls⟩ | ⟨fault, huse, hstep⟩
      · rw [hcalls.cache, huse, Option.toList_some, List.singleton_append, entries_cons, ← hs,
          ← hasks.cache]
      · rw [hstep, hasks.cache, hs, huse]
        rfl

/-! ### Runs -/

/-- The uses of call sites by what is executed, the latest first. -/
def usesOf (e : Environment) (list : List (State × Instruction)) : List Use :=
  (list.filterMap fun p => use? e p.1 p.2).reverse

theorem usesOf_cons (e : Environment) (p : State × Instruction)
    (list : List (State × Instruction)) :
    usesOf e (p :: list) = usesOf e list ++ (use? e p.1 p.2).toList := by
  rw [usesOf, List.filterMap_cons]
  cases use? e p.1 p.2 with
  | none => exact (List.append_nil _).symm
  | some u => exact List.reverse_cons

open Progress in
/-- **During a run** every call site keeps what it used last, and so it does after any number of
fetches. -/
theorem entries_executed {p : Progress} (fuel : Nat)
    (hp : p.state.machine.cache = entries e.declarations.callSites.length uses) :
    (∀ before s i after, executed e fuel p = before ++ (s, i) :: after →
      s.machine.cache = entries e.declarations.callSites.length (usesOf e before ++ uses)) ∧
    ((fetch e)^[fuel] p).state.machine.cache =
      entries e.declarations.callSites.length (usesOf e (executed e fuel p) ++ uses) := by
  induction fuel generalizing p uses with
  | zero =>
    refine ⟨fun before s i after h => by simp at h, ?_⟩
    rw [executed_zero]
    exact hp
  | succ fuel ih =>
    rw [Function.iterate_succ_apply]
    cases p with
    | ended outcome s =>
      refine ⟨fun before s i after h => by simp [executed] at h, ?_⟩
      rw [fetch, iterate_fetch_ended]
      exact hp
    | going offset s =>
      cases hi : e.shader.definition offset with
      | error fault =>
        have hnone : executed e (fuel + 1) (going offset s) = [] := by rw [executed, trace, hi]
        refine ⟨fun before s i after h => by simp [hnone] at h, ?_⟩
        rw [hnone, fetch, hi, iterate_fetch_ended]
        exact hp
      | ok i =>
        have hnext := entries_step (i := i) hp
        rw [state, ← state_fetch hi] at hnext
        obtain ⟨hbefore, hlast⟩ := ih hnext
        rw [executed, trace_succ hi]
        refine ⟨fun before s' i' after h => ?_, ?_⟩
        · cases before with
          | nil =>
            cases h
            exact hp
          | cons first before =>
            obtain ⟨rfl, htail⟩ := List.cons.inj h
            rw [usesOf_cons, List.append_assoc]
            exact hbefore before s' i' after htail
        · rw [usesOf_cons, List.append_assoc]
          exact hlast

namespace Launch

/-- What the run executes, by a number of fetches. -/
def executed (l : Launch) (fuel : Nat) : List (State × Instruction) :=
  Execution.executed l.environment fuel (Progress.start l.environment l.inputs l.machine)

/-- The uses of call sites by the whole run, the latest first. -/
def used (l : Launch) : List Use :=
  usesOf l.environment (l.executed (enough l.environment.shader.module))

/-- Everything that the run executes is executed by some number of fetches. -/
theorem exists_executed {l : Launch} (h : l.Executes s i) :
    ∃ fuel before after, l.executed fuel = before ++ (s, i) :: after := by
  obtain ⟨offset, hs, hi⟩ := h
  obtain ⟨k, hk⟩ := visits_iff.mp hs
  exact ⟨k + 1, List.append_of_mem (mem_executed hk hi)⟩

theorem executes_of_mem_executed {l : Launch} {fuel : Nat} (h : (s, i) ∈ l.executed fuel) :
    l.Executes s i := by
  rw [executed, Progress.start] at h
  split at h
  case h_1 hrun => exact Visits.of_mem_trace (.start hrun) h
  case h_2 => cases h

/-- Where the run first executes an operation, within a number of fetches. -/
def first? (l : Launch) (op : Opcode) (fuel : Nat) : Option (State × Instruction) :=
  (l.executed fuel).find? fun p => p.2.op? = some op

theorem executes_of_first? {l : Launch} {op : Opcode} {fuel : Nat} {p : State × Instruction}
    (h : l.first? op fuel = some p) : l.Executes p.1 p.2 :=
  executes_of_mem_executed (List.mem_of_find?_eq_some h)

variable {l : Launch} {earlier : List Use}

/-- The call sites of a run before its first instruction are those that it was given. -/
theorem cache_start (l : Launch) :
    (Progress.start l.environment l.inputs l.machine).state.machine.cache = l.machine.cache := by
  have hquiet := quiet_forM (quiet_initGlobal (e := l.environment) l.inputs)
    l.environment.declarations.globals { machine := l.machine }
  rw [Progress.start]
  split <;> rename_i hrun <;> rw [hrun] at hquiet <;> exact hquiet.cache

theorem last_eq (l : Launch) : l.last = ((Progress.fetch l.environment)^[enough
    l.environment.shader.module] (Progress.start l.environment l.inputs l.machine)).state := by
  rw [last, run_run]
  generalize (Progress.fetch l.environment)^[enough l.environment.shader.module]
    (Progress.start l.environment l.inputs l.machine) = p
  rcases p with ⟨offset, s⟩ | ⟨_ | _, s⟩ <;> rfl

/-- Every call site has what it used last when an instruction is executed. -/
theorem entries_before {fuel : Nat} {before after : List (State × Instruction)}
    (hl : l.machine.cache = entries l.environment.declarations.callSites.length earlier)
    (h : l.executed fuel = before ++ (s, i) :: after) :
    s.machine.cache = entries l.environment.declarations.callSites.length
      (usesOf l.environment before ++ earlier) :=
  (entries_executed fuel (l.cache_start.trans hl)).1 before s i after h

/-- **A run leaves in every call site** what it used last, in this run or before. -/
theorem entries_last
    (h : l.machine.cache = entries l.environment.declarations.callSites.length earlier) :
    l.last.machine.cache =
      entries l.environment.declarations.callSites.length (l.used ++ earlier) := by
  rw [last_eq]
  exact (entries_executed _ (l.cache_start.trans h)).2

end Launch

/-! ## What a look-up leads to -/

/-- What an instruction does that looks up a function, after a last use of its call site. -/
structure FollowsLastUse (e : Environment) (s : State) (i : Instruction) (x : Sample)
    (last : Option Use) : Prop where
  /-- No resolver is asked if the last use was of the same image descriptor and sampler. -/
  again : ∀ u, last = some u → u.Serves x → use? e s i = some ⟨x, u.function⟩ ∧
    requests ((step e i).run s).2.machine.events = requests s.machine.events ∧
    ((step e i).run s).2.machine.cache = s.machine.cache
  /-- Otherwise the resolver is asked, and once. -/
  anew : (∀ u, last = some u → ¬ u.Serves x) →
    requests ((step e i).run s).2.machine.events =
      request e.resolver (x.key e) :: requests s.machine.events
  /-- The function that is kept or given is called, unless there is a fault before, and kept. -/
  used : ∀ u, use? e s i = some u → u.sample = x ∧
    ((step e i).run s).2.machine.cache = s.machine.cache.set x.site.callSite u.entry ∧
    (functions ((step e i).run s).2.machine.events = u.function :: functions s.machine.events ∨
      (∀ flow, ((step e i).run s).1 ≠ .ok flow) ∧
        functions ((step e i).run s).2.machine.events = functions s.machine.events)
  /-- A resolver that gives no function leaves the call sites as they are. -/
  unused : use? e s i = none → (∃ fault, ((step e i).run s).1 = .error fault) ∧
    ((step e i).run s).2.machine.cache = s.machine.cache ∧
    functions ((step e i).run s).2.machine.events = functions s.machine.events

/-- **A look-up follows the last use** of its call site. -/
theorem followsLastUse (hs : s.machine.cache = entries e.declarations.callSites.length uses)
    (hx : lookUp? e s i = some x) :
    FollowsLastUse e s i x (lastUse? uses x.site.callSite) := by
  have hlast := kept_of_entries hs (callSite_lt hx)
  have hsample : ∀ u, use? e s i = some u → u.sample = x := fun u hu =>
    Option.some.inj ((use?_eq_some.mp hu).1.symm.trans hx)
  have hset : ∀ u, use? e s i = some u →
      ((step e i).run s).2.machine.cache = s.machine.cache.set x.site.callSite u.entry := by
    intro u hu
    rw [entries_step hs, hu, hs, ← hsample u hu]
    exact entries_cons u
  cases hkept : s.kept x with
  | some f =>
    obtain ⟨huse, hcalls⟩ := calls_of_kept hx hkept
    rw [hkept, eq_comm, Option.bind_eq_some_iff] at hlast
    obtain ⟨u, hu, hserves⟩ := hlast
    rw [Option.ite_none_right_eq_some] at hserves
    obtain ⟨hserves, hf⟩ := hserves
    refine ⟨fun u' hu' _ => ?_, fun hnone => absurd hserves (hnone u hu), fun u' hu' => ?_,
      fun hnone => ?_⟩
    · cases hu.symm.trans hu'
      cases hf
      exact ⟨huse, hcalls.requests, hcalls.cache⟩
    · refine ⟨hsample u' hu', hset u' hu', ?_⟩
      cases huse.symm.trans hu'
      exact hcalls.functions
    · cases hnone.symm.trans huse
  | none =>
    obtain ⟨t, hasks, hfound⟩ := asks_of_missing hx hkept
    rw [hkept] at hlast
    refine ⟨fun u hu hserves => ?_, fun _ => ?_, fun u hu => ⟨hsample u hu, hset u hu, ?_⟩,
      fun hnone => ?_⟩
    · rw [hu, Option.bind_some, if_pos hserves] at hlast
      cases hlast
    · rcases hfound with ⟨u, -, -, hcalls⟩ | ⟨fault, -, hstep⟩
      · exact hcalls.requests.trans hasks.requests
      · rw [hstep]
        exact hasks.requests
    · rcases hfound with ⟨u', hu', -, hcalls⟩ | ⟨fault, hnone, -⟩
      · cases hu.symm.trans hu'
        rw [← hasks.functions]
        exact hcalls.functions
      · cases hu.symm.trans hnone
    · rcases hfound with ⟨u', hu', -, -⟩ | ⟨fault, -, hstep⟩
      · cases hnone.symm.trans hu'
      · rw [hstep]
        exact ⟨⟨fault, rfl⟩, hasks.cache, hasks.functions⟩

end HostGpu.Execution
