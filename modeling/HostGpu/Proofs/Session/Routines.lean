import HostGpu.Proofs.Execution.CallSites
import HostGpu.Proofs.Session.Liveness

/-!
# Routines of sessions

Commands make routines with empty call sites, bind sets to them, change their masks and run them;
nothing else happens to a routine.  So its call sites are what its earlier runs left
(`Session.history_after`), and a function that a run calls was given by the resolver to the same
call site, in this run or in an earlier one.  If descriptors were not updated between these runs,
that is a function for the view that the image descriptor shows.  If they were, it may be one for a
view that the descriptor showed before.
-/

namespace HostGpu

open Outcome Execution Spirv Shader

/-- The run of a routine that a store starts. -/
def Store.launch (s : Store) (r : Routine) (inputs : InterfaceValues) : Launch where
  environment := { r.toSetup with sets := s.sets }
  inputs
  machine :=
    { blocks := s.blocks, device := s.device r.shader.device, cache := r.cache, events := [] }

theorem Routine.bind_keeps {r r' : Routine} {index set : Nat} {layout : SetLayout}
    (h : r.bind index set layout = .ok r') : r'.shader = r.shader ∧ r'.cache = r.cache := by
  rw [Routine.bind] at h
  split at h
  · cases h
  · rw [ite_ok_error, Except.ok.injEq] at h
    obtain ⟨-, rfl⟩ := h
    exact ⟨rfl, rfl⟩

namespace Session

/-! ## What commands do to routines -/

/-- Where a routine comes from that has a name after a command. -/
inductive RoutineFrom (s : Session) (name : String) (r : Routine) : Command → Prop
  /-- It was there, with other sets or masks perhaps. -/
  | kept {c : Command} {r' : Routine} (hr' : s.routines[name]? = some r')
      (hshader : r.shader = r'.shader) (hcache : r.cache = r'.cache) : RoutineFrom s name r c
  /-- It was made. -/
  | made {shader layout : String} {fields : RoutineFields}
      (hshader : s.shaders[shader]? = some r.shader)
      (hcache : r.cache = r.shader.declarations.callSites.map fun _ => {}) :
      RoutineFrom s name r (.routine name shader layout fields)
  /-- It was run. -/
  | ran {inputs : InterfaceValues} {outputs : List Nat} {r' : Routine}
      (hr' : s.routines[name]? = some r')
      (hrun : r = { r' with cache := (s.store.launch r' inputs).last.machine.cache }) :
      RoutineFrom s name r (.run name inputs outputs)

variable {s : Session} {name : String} {r : Routine} {c : Command}

theorem RoutineFrom.of_routines_eq {s' : Session} (h : s'.routines = s.routines)
    (hr : s'.routines[name]? = some r) : s.RoutineFrom name r c :=
  .kept (h ▸ hr) rfl rfl

theorem find_attempt {a : Attempt} (h : (s.attempt a).session.routines[name]? = some r) :
    s.routines[name]? = some r ∨
      ∃ s' answer, a = .ok (s', answer) ∧ s'.routines[name]? = some r := by
  cases a with
  | error e => exact .inl h
  | ok made => exact .inr ⟨made.1, made.2, rfl, h⟩

/-- A routine that is found after a routine of some name was replaced. -/
theorem find_insert {t : NameTable Routine} {replaced : String} {r' : Routine}
    (h : (t.insert replaced r')[name]? = some r) :
    replaced = name ∧ r' = r ∨ t[name]? = some r := by
  rw [Std.TreeMap.getElem?_insert] at h
  split at h
  case isTrue heq => exact .inl ⟨Std.LawfulEqOrd.eq_of_compare heq, Option.some.inj h⟩
  case isFalse => exact .inr h

/-- Every command leaves a routine as it is, makes it, or runs it. -/
theorem routineFrom_execute (h : (s.execute c).session.routines[name]? = some r) :
    s.RoutineFrom name r c := by
  cases c with
  | drop dropped =>
    change (s.routines.erase dropped)[name]? = some r at h
    rw [Std.TreeMap.getElem?_erase, Option.ite_none_left_eq_some] at h
    exact .kept h.2 rfl rfl
  | routine id shader layout fields =>
    rcases find_attempt h with h | ⟨s', _, hmade, h⟩
    · exact .of_routines_eq rfl h
    · simp only [makeRoutine, Routine.create, bind_eq_ok, mapError_eq_ok, pure_eq_ok,
        Prod.mk.injEq] at hmade
      obtain ⟨_, hshader, _, -, r', ⟨-, -, rfl⟩, rfl, -⟩ := hmade
      rcases find_insert h with ⟨rfl, rfl⟩ | h
      · exact .made (find_eq_ok.mp hshader) rfl
      · exact .of_routines_eq rfl h
  | bind set routine index =>
    rcases find_attempt h with h | ⟨s', _, hbind, h⟩
    · exact .of_routines_eq rfl h
    · simp only [Session.bind, bind_eq_ok, mapError_eq_ok, pure_eq_ok, Prod.mk.injEq] at hbind
      obtain ⟨_, -, _, -, r', hr', r'', hr'', rfl, -⟩ := hbind
      rcases find_insert h with ⟨rfl, rfl⟩ | h
      · exact .kept (find_eq_ok.mp hr') (Routine.bind_keeps hr'').1 (Routine.bind_keeps hr'').2
      · exact .of_routines_eq rfl h
  | masks routine active helper =>
    rcases find_attempt h with h | ⟨s', _, hmasks, h⟩
    · exact .of_routines_eq rfl h
    · simp only [setMasks, bind_eq_ok, pure_eq_ok, Prod.mk.injEq] at hmasks
      obtain ⟨r', hr', rfl, -⟩ := hmasks
      rcases find_insert h with ⟨rfl, rfl⟩ | h
      · exact .kept (find_eq_ok.mp hr') rfl rfl
      · exact .of_routines_eq rfl h
  | run routine inputs outputs =>
    simp only [Session.execute, runRoutine] at h
    split at h
    case h_1 => exact .of_routines_eq rfl h
    case h_2 r' hr' =>
      rcases find_insert h with ⟨rfl, rfl⟩ | h
      · exact .ran (find_eq_ok.mp hr') rfl
      · exact .of_routines_eq rfl h
  | _ => exact .of_routines_eq (s.execute_leaves (p := .routines) rfl) h

/-! ## Earlier runs -/

/-- One of the commands ran a routine of a name. -/
def Ran (commands : List Command) (name : String) (l : Launch) : Prop :=
  ∃ before inputs outputs rest r, commands = before ++ .run name inputs outputs :: rest ∧
    (after before).routines[name]? = some r ∧ l = (after before).store.launch r inputs

theorem Ran.append {commands : List Command} {l : Launch} (h : Ran commands name l)
    (c : Command) : Ran (commands ++ [c]) name l := by
  obtain ⟨before, inputs, outputs, rest, r, rfl, hr, hl⟩ := h
  exact ⟨before, inputs, outputs, rest ++ [c], r, by simp, hr, hl⟩

/-- **The call sites of a routine** are what its earlier runs left. -/
theorem history_after (commands : List Command) {name : String} {r : Routine}
    (hr : (after commands).routines[name]? = some r) :
    ∃ earlier, History r.shader earlier r.cache ∧ ∀ l ∈ earlier, Ran commands name l := by
  -- a binding or a change of masks keeps the call sites, so only runs enter the history
  induction commands using List.reverseRecOn generalizing r with
  | nil => simp [after] at hr
  | append_singleton commands c ih =>
    rw [after_append] at hr
    cases routineFrom_execute hr with
    | kept hr' hshader hcache =>
      obtain ⟨earlier, hhistory, hran⟩ := ih hr'
      rw [hshader, hcache]
      exact ⟨earlier, hhistory, fun l hl => (hran l hl).append c⟩
    | made _ hcache =>
      rw [hcache]
      exact ⟨[], .start, fun _ h => absurd h List.not_mem_nil⟩
    | @ran inputs outputs r' hr' hrun =>
      obtain ⟨earlier, hhistory, hran⟩ := ih hr'
      rw [hrun]
      refine ⟨_, .run (l := (after commands).store.launch r' inputs) hhistory rfl, ?_⟩
      rw [List.forall_mem_cons]
      refine ⟨⟨commands, inputs, outputs, [], r', rfl, hr', rfl⟩, ?_⟩
      exact fun l hl => (hran l hl).append _

/-! ## What is called -/

/-- **A sampling function that is called** was given by the resolver to the same call site for its
signature, for the sampler that the sampler descriptor holds, and for the view that the image
descriptor showed when it was given: in this run, or in an earlier one of the routine.  If the image
descriptor showed the present view in all earlier runs, it was given for exactly that view. -/
theorem called_function_was_given (commands : List Command) {name : String} {r : Routine}
    (hr : (after commands).routines[name]? = some r) (inputs : InterfaceValues) {l : Launch}
    (hl : (after commands).store.launch r inputs = l) {s : State} {i : Instruction}
    (hs : l.Executes s i) {new : List SamplingEvent} {f : SamplingFunction} {texture : Texture}
    {given : List WordLanes}
    (hnew : ((Execution.step l.environment i).run s).2.machine.events = new ++ s.machine.events)
    (hcall : .called f texture given ∈ new) :
    ∃ x, Samples l.environment s i x ∧
      texture = ⟨x.image, l.environment.sampledRecord x.image⟩ ∧
      ∃ l', (l' = l ∨ Ran commands name l') ∧ l'.Obtained x f ∧
        ((∀ l'', Ran commands name l'' →
            (l''.environment.sampledRecord x.image).view = texture.record.view) →
          x.key l'.environment = x.key l.environment) := by
  subst hl
  obtain ⟨earlier, hhistory, hran⟩ := history_after commands hr
  obtain ⟨x, hx, htexture, l', hl', hobtained⟩ := hhistory.exists_obtained rfl hs hnew hcall
  have horigin : l' = (after commands).store.launch r inputs ∨ Ran commands name l' :=
    (List.mem_cons.mp hl').imp_right (hran l')
  refine ⟨x, hx, htexture, l', horigin, hobtained, fun hview => ?_⟩
  rcases horigin with rfl | hl'
  · rfl
  · rw [Sample.key, Sample.key, hview l' hl', htexture]

/-! ### A routine that fetches a texel twice -/

namespace FetchTwice

/-- A module that fetches the second texel of a texture of one dimension. -/
def words : List UInt32 := [
  0x07230203, 0x00010000, 0, 14, 0,
  0x0004000F, 4, 8, 0, -- the entry point
  0x00040047, 7, 34, 0, 0x00040047, 7, 33, 0, -- set 0 and binding 0
  0x00040015, 1, 32, 0, 0x00040017, 2, 1, 4, -- words, and four of them
  0x00090019, 3, 1, 0, 0, 0, 0, 1, 0, 0x00040020, 5, 0, 3, -- the texture
  0x0004002B, 1, 6, 1,
  0x0004003B, 5, 7, 0,
  0x00050036, 13, 8, 0, 9, 0x000200F8, 10,
  0x0004003D, 3, 11, 7,
  0x0005005F, 2, 12, 11, 6, -- the texel
  0x000100FD, 0x00010038]

/-- A session that gives the module a texture of four texels.  The functions of the resolver differ
from view to view.  All names are empty. -/
def first : List Command := [
  .device "" true none,
  .image "" "" { kind := .dim1, format := .r32Uint, extent := ⟨4, 1, 1⟩ },
  .view "" "" { preset := .wholeImage },
  .setLayout "" "" [{ number := 0, kind := .sampledImage }],
  .set "" "",
  .update "" [{ binding := 0, elements := .views [""] }] [],
  .pipelineLayout "" "" [""],
  .shader "" "" words,
  .routine "" "" "" { resolver := .own fun key => .copyInputs key.view },
  .bind "" "" 0]

/-- The routine is run. -/
def again : List Command := first ++ [.run "" ∅ []]

/-- The descriptor is given another view of the same image. -/
def updated : List Command := again ++ [
  .view "" "" { preset := .wholeImage },
  .update "" [{ binding := 0, elements := .views [""] }] []]

/-- The run that would come next. -/
def launch (commands : List Command) (h : (after commands).routines[""]?.isSome) : Launch :=
  (after commands).store.launch ((after commands).routines[""]?.get h) ∅

def launchFirst : Launch := launch first (by decide +kernel)
def launchAgain : Launch := launch again (by decide +kernel)
def launchUpdated : Launch := launch updated (by decide +kernel)

/-- The state after some instructions. -/
def state (l : Launch) (list : List Instruction) : State :=
  list.foldl (fun s i => ((Execution.step l.environment i).run s).2)
    ((l.environment.declarations.globals.forM (l.environment.initGlobal l.inputs)).run
      { machine := l.machine }).2

/-- The label, and the instructions that load the texture and fetch the texel. -/
def label : Instruction := ⟨51, [0x000200F8, 10]⟩
def load : Instruction := ⟨53, [0x0004003D, 3, 11, 7]⟩
def fetch : Instruction := ⟨57, [0x0005005F, 2, 12, 11, 6]⟩

/-- What is sampled. -/
def sample : Sample where
  site := ⟨⟨.plain, .fetch, 0⟩, 0, 2, 12, 11, 6, none, {}⟩
  image := ⟨5, 0⟩
  sampler := 0

/-- What happens when the texel is fetched. -/
def events (l : Launch) : List SamplingEvent :=
  ((Execution.step l.environment fetch).run (state l [label, load])).2.machine.events

theorem globals_ok {l : Launch} (hl : l = launchAgain ∨ l = launchUpdated) :
    (l.environment.declarations.globals.forM (l.environment.initGlobal l.inputs)).run
      { machine := l.machine } = (.ok (), state l []) := by
  refine Prod.ext ?_ rfl
  rcases hl with rfl | rfl <;> decide +kernel

theorem entryBlock_eq {l : Launch} (hl : l = launchAgain ∨ l = launchUpdated) :
    l.environment.shader.entryBlock = 51 := by
  rcases hl with rfl | rfl <;> decide +kernel

theorem definition_eq {l : Launch} (hl : l = launchAgain ∨ l = launchUpdated) :
    ∀ i ∈ [label, load, fetch], l.environment.shader.definition i.offset = .ok i := by
  rcases hl with rfl | rfl <;> decide +kernel

theorem step_label {l : Launch} (hl : l = launchAgain ∨ l = launchUpdated) :
    (Execution.step l.environment label).run (state l []) = (.ok .next, state l [label]) := by
  refine Prod.ext ?_ rfl
  rcases hl with rfl | rfl <;> decide +kernel

theorem step_load {l : Launch} (hl : l = launchAgain ∨ l = launchUpdated) :
    (Execution.step l.environment load).run (state l [label]) =
      (.ok .next, state l [label, load]) := by
  refine Prod.ext ?_ rfl
  rcases hl with rfl | rfl <;> decide +kernel

theorem executes_fetch {l : Launch} (hl : l = launchAgain ∨ l = launchUpdated) :
    l.Executes (state l [label, load]) fetch := by
  have hstart : Visits l.environment l.inputs l.machine (state l []) 51 :=
    entryBlock_eq hl ▸ .start (globals_ok hl)
  have hdefined := definition_eq hl
  rw [List.forall_mem_cons, List.forall_mem_cons, List.forall_mem_singleton] at hdefined
  obtain ⟨hi, hi', hi''⟩ := hdefined
  exact ⟨57, .next (.next hstart hi (step_label hl)) hi' (step_load hl), hi''⟩

/-- One sampling function is called, and nothing else happens. -/
theorem exists_called {l : Launch} (hl : l = launchAgain ∨ l = launchUpdated) :
    events l = events l ++ (state l [label, load]).machine.events ∧
      ∃ f texture given, .called f texture given ∈ events l := by
  constructor
  · have hbefore : (state l [label, load]).machine.events.isEmpty = true := by
      rcases hl with rfl | rfl <;> decide +kernel
    rw [List.isEmpty_iff.mp hbefore, List.append_nil]
  · have hcalls : (events l).any (fun | .called .. => true | _ => false) = true := by
      rcases hl with rfl | rfl <;> decide +kernel
    obtain ⟨event, hevent, hcall⟩ := List.any_eq_true.mp hcalls
    cases event with
    | called f texture given => exact ⟨f, texture, given, hevent⟩
    | _ => cases hcall

/-- What the texel is fetched from is the view that the descriptor shows. -/
theorem samples_fetch {l : Launch} (hl : l = launchAgain ∨ l = launchUpdated) :
    Samples l.environment (state l [label, load]) fetch sample := by
  refine ⟨?_, ⟨.opImageFetch, rfl, rfl, ?_⟩, ?_, ?_⟩
  all_goals rcases hl with rfl | rfl <;> decide +kernel

/-- The routine ran once before. -/
theorem eq_launchFirst {rest : List Command} {l : Launch}
    (hrest : ∀ inputs outputs, .run "" inputs outputs ∉ rest)
    (h : Ran (first ++ .run "" ∅ [] :: rest) "" l) : l = launchFirst := by
  obtain ⟨before, inputs, outputs, rest', r, heq, hr, rfl⟩ := h
  have hfirst : .run "" inputs outputs ∉ first := by simp [first]
  obtain ⟨rfl, hrun, -⟩ := (List.append_cons_inj_of_notMem hfirst (hrest inputs outputs)).mp heq
  cases hrun
  have hlaunch (h : (after first).routines[""]?.isSome) : r = (after first).routines[""]?.get h :=
    (Option.get_of_eq_some h hr).symm
  rw [launchFirst, launch, ← hlaunch]

/-- The descriptor shows the same view in the second run as in the first one. -/
theorem sampledRecord_again :
    launchAgain.environment.sampledRecord sample.image =
      launchFirst.environment.sampledRecord sample.image := by
  have hpresent : (launchAgain.environment.sets[5]?).isSome = true := by decide +kernel
  obtain ⟨d, hd⟩ := Option.isSome_iff_exists.mp hpresent
  have hbefore : launchFirst.environment.sets[5]? = some d := by
    change (after (first ++ [.run "" ∅ []])).store.sets[5]? = some d at hd
    rw [after_append] at hd
    have hrun : ((after first).execute (.run "" ∅ [])).session.store.sets =
        (after first).store.sets := execute_leaves (p := .sets) _ rfl
    have hkept := (Store.of_sets_sweep hd).2
    rwa [hrun] at hkept
  rw [sampledRecord_of_find (a := sample.image) hd, sampledRecord_of_find (a := sample.image) hbefore]

/-- The descriptor shows the view that is kept. -/
theorem view_eq (commands : List Command) {l : Launch} {id : Nat}
    (hl : l.environment.sets = (after commands).store.sets)
    (hkept : ((after commands).store.sets[5]?).map (fun d =>
      (d.layout.bindings, (d.resources.find? ⟨0, 0⟩).map (·.map (·.viewId?)))) =
        some ([{ number := 0, kind := .sampledImage }], some [some id])) :
    (l.environment.sampledRecord sample.image).view = wordOf id := by
  obtain ⟨d, hd, hboth⟩ := Option.map_eq_some_iff.mp hkept
  obtain ⟨hbindings, hresources⟩ := Prod.mk.inj hboth
  obtain ⟨list, hlist, hids⟩ := Option.map_eq_some_iff.mp hresources
  obtain ⟨x, rfl, hid⟩ := List.map_eq_singleton_iff.mp hids
  have hnames := namesKept_after commands hd _ _ _ (.first hbindings Nat.one_pos) rfl x
    (by rw [hlist]; exact List.mem_singleton_self x)
  rw [sampledRecord_of_find (a := sample.image) (hl ▸ hd)]
  exact hnames.1 id hid

theorem views_differ :
    (sample.key launchFirst.environment).view ≠ (sample.key launchUpdated.environment).view := by
  have hfirst : (launchFirst.environment.sampledRecord sample.image).view = wordOf 3 :=
    view_eq first rfl (by decide +kernel)
  have hupdated : (launchUpdated.environment.sampledRecord sample.image).view = wordOf 7 :=
    view_eq updated rfl (by decide +kernel)
  rw [Sample.key, Sample.key, hfirst, hupdated]
  decide

/-- After the update the call site keeps its function throughout the run. -/
theorem keeps_function {s : State} {offset : Nat} {i : Instruction}
    (hs : Visits launchUpdated.environment launchUpdated.inputs launchUpdated.machine s offset)
    (hi : launchUpdated.environment.shader.definition offset = .ok i) : s.kept sample ≠ none := by
  have hrun : (runFrom launchUpdated.environment 5 launchUpdated.environment.shader.entryBlock).run
      (state launchUpdated []) = (.ok (), ((runFrom launchUpdated.environment 5
        launchUpdated.environment.shader.entryBlock).run (state launchUpdated [])).2) :=
    Prod.ext (by decide +kernel) rfl
  have hall : (trace launchUpdated.environment 5 launchUpdated.environment.shader.entryBlock
      (state launchUpdated [])).all (fun p => (p.1.kept sample).isSome) = true := by decide +kernel
  have hkept := List.all_eq_true.mp hall _ (hs.mem_trace (globals_ok (.inr rfl)) hrun hi)
  exact Option.isSome_iff_ne_none.mp hkept

end FetchTwice

open FetchTwice in
/-- The second run calls the function that was given in the first one, for the view that the
descriptor still shows. -/
theorem kept_function_is_called : ∃ f texture given l,
    .called f texture given ∈ events launchAgain ∧ (l = launchAgain ∨ Ran again "" l) ∧
      l.Obtained sample f ∧ sample.key l.environment = sample.key launchAgain.environment := by
  have hl : launchAgain = launchAgain ∨ launchAgain = launchUpdated := .inl rfl
  obtain ⟨hnew, f, texture, given, hcall⟩ := exists_called hl
  have hr := Option.some_get (x := (after again).routines[""]?) (by decide +kernel)
  obtain ⟨x, hx, rfl, l, horigin, hobtained, hkey⟩ := called_function_was_given again hr.symm ∅
    (l := launchAgain) rfl (executes_fetch hl) hnew hcall
  obtain rfl := hx.unique (samples_fetch hl)
  refine ⟨f, _, given, l, hcall, horigin, hobtained, hkey fun l' hl' => ?_⟩
  rw [eq_launchFirst (fun _ _ => List.not_mem_nil) hl']
  exact congrArg (·.view) sampledRecord_again.symm

open FetchTwice in
/-- After the update the run calls that function once more, although the descriptor shows another
view, for which no run was given any. -/
theorem kept_function_outlives_view : ¬ ∀ (commands : List Command) (name : String) (r : Routine)
    (inputs : InterfaceValues) (l : Launch) (s : State) (i : Instruction)
    (new : List SamplingEvent) (f : SamplingFunction) (texture : Texture) (given : List WordLanes),
    (after commands).routines[name]? = some r → (after commands).store.launch r inputs = l →
    l.Executes s i →
    ((Execution.step l.environment i).run s).2.machine.events = new ++ s.machine.events →
    .called f texture given ∈ new →
    ∃ x, Samples l.environment s i x ∧
      texture = ⟨x.image, l.environment.sampledRecord x.image⟩ ∧
      ∃ l', (l' = l ∨ Ran commands name l') ∧ l'.Obtained x f ∧
        x.key l'.environment = x.key l.environment := by
  intro hclaim
  have hl : launchUpdated = launchAgain ∨ launchUpdated = launchUpdated := .inr rfl
  obtain ⟨hnew, f, texture, given, hcall⟩ := exists_called hl
  have hr := Option.some_get (x := (after updated).routines[""]?) (by decide +kernel)
  obtain ⟨x, hx, -, l, horigin, hobtained, hkey⟩ := hclaim updated "" _ ∅ launchUpdated _ _ _ f
    texture given hr.symm rfl (executes_fetch hl) hnew hcall
  obtain rfl := hx.unique (samples_fetch hl)
  rcases horigin with rfl | hran
  · obtain ⟨s, i, ⟨offset, hs, hi⟩, hobtains⟩ := hobtained
    exact keeps_function hs hi hobtains.missing
  · have hfirst : l = launchFirst := by
      refine eq_launchFirst (fun inputs outputs => ?_) hran
      simp
    rw [hfirst] at hkey
    exact views_differ (congrArg (·.view) hkey)

end Session

end HostGpu
