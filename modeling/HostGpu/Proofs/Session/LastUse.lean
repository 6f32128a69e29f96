import HostGpu.Proofs.Execution.LastUse
import HostGpu.Proofs.Session.Routines
import HostGpu.Proofs.Shader.Analysis

/-!
# Call sites across the runs of a routine

A routine is made with empty call sites, and its runs are the only commands that change them
(`routine_cases`).  So its call sites keep what they used last in all of these runs, whatever was
bound or updated in between, and the uses say of every look-up whether the resolver is asked.
-/

namespace HostGpu

open Outcome Execution Spirv Shader

namespace Session

variable {s : Session} {name : String} {r : Routine} {c : Command}

/-! ## The runs of a routine -/

/-- The run of a routine that a command starts. -/
def started? (s : Session) (name : String) : Command → Option Launch
  | .run routine inputs _ =>
    if routine = name then s.routines[name]?.map (s.store.launch · inputs) else none
  | _ => none

/-- Whether a command makes a routine. -/
def makes (s : Session) (name : String) : Command → Bool
  | .routine id shader layout fields =>
    id = name && (s.makeRoutine id shader layout fields).toOption.isSome
  | _ => false

/-- The runs of a routine that commands start, the latest first, until it is made anew. -/
def runsFrom (name : String) (s : Session) (runs : List Launch) : List Command → List Launch
  | [] => runs
  | c :: rest => runsFrom name (s.step c).session
      (if s.makes name c then [] else (s.started? name c).toList ++ runs) rest

/-- The runs of a routine since it was made, the latest first. -/
def runs (commands : List Command) (name : String) : List Launch := runsFrom name {} [] commands

theorem runs_append (commands : List Command) (c : Command) : runs (commands ++ [c]) name =
    if (after commands).makes name c then [] else
      ((after commands).started? name c).toList ++ runs commands name := by
  have hgo (s : Session) (list : List Launch) : runsFrom name s list (commands ++ [c]) =
      if (commands.foldl (fun s c => (s.step c).session) s).makes name c then [] else
        ((commands.foldl (fun s c => (s.step c).session) s).started? name c).toList ++
          runsFrom name s list commands := by
    induction commands generalizing s list with
    | nil => rfl
    | cons first rest ih => exact ih _ _
  exact hgo {} []

/-- A run of a routine starts with its shader and its call sites. -/
theorem launch_of_started {l : Launch} (h : s.started? name c = some l)
    (hr : s.routines[name]? = some r) :
    l.machine.cache = r.cache ∧ l.environment.shader = r.shader := by
  cases c with
  | run routine inputs outputs =>
    rw [started?, hr] at h
    split at h
    · cases h
      exact ⟨rfl, rfl⟩
    · cases h
  | _ => cases h

/-- What a command does to a routine: it makes it, or runs it or not and leaves it otherwise. -/
theorem routine_cases (h : (s.execute c).session.routines[name]? = some r) :
    (s.makes name c = true ∧ r.cache = r.shader.declarations.callSites.map fun _ => {}) ∨
      s.makes name c = false ∧ ∃ r', s.routines[name]? = some r' ∧ r.shader = r'.shader ∧
        r.cache = (s.started? name c).elim r'.cache (·.last.machine.cache) := by
  cases c with
  | run routine inputs outputs =>
    refine .inr ⟨rfl, ?_⟩
    by_cases hname : routine = name
    · subst hname
      simp only [Session.execute, runRoutine] at h
      split at h
      case h_1 hnone =>
        rw [find_eq_ok.mpr h] at hnone
        cases hnone
      case h_2 r' hr' =>
        have hr' := find_eq_ok.mp hr'
        change (s.routines.insert routine _)[routine]? = some r at h
        rw [Std.TreeMap.getElem?_insert_self] at h
        cases h
        refine ⟨r', hr', rfl, ?_⟩
        rw [started?, if_pos rfl, hr']
        rfl
    · have hstarted : s.started? name (.run routine inputs outputs) = none := if_neg hname
      rw [hstarted]
      cases routineFrom_execute h with
      | kept hr' hshader hcache => exact ⟨_, hr', hshader, hcache⟩
      | ran => exact absurd rfl hname
  | routine id shader layout fields =>
    cases hmade : s.makeRoutine id shader layout fields with
    | error e =>
      refine .inr ⟨by rw [makes, hmade]; exact Bool.and_false _, r, ?_, rfl, rfl⟩
      rw [Session.execute, hmade] at h
      exact h
    | ok made =>
      by_cases hname : id = name
      · subst hname
        refine .inl ⟨by rw [makes, hmade, decide_eq_true rfl]; rfl, ?_⟩
        rw [Session.execute, hmade] at h
        simp only [makeRoutine, Routine.create, bind_eq_ok, mapError_eq_ok, pure_eq_ok] at hmade
        obtain ⟨_, -, _, -, r', ⟨-, -, rfl⟩, rfl⟩ := hmade
        change (s.routines.insert id _)[id]? = some r at h
        rw [Std.TreeMap.getElem?_insert_self] at h
        cases h
        rfl
      · refine .inr ⟨by rw [makes, decide_eq_false hname]; rfl, ?_⟩
        cases routineFrom_execute h with
        | kept hr' hshader hcache => exact ⟨_, hr', hshader, hcache⟩
        | made => exact absurd rfl hname
  | _ =>
    cases routineFrom_execute h with
    | kept hr' hshader hcache => exact .inr ⟨rfl, _, hr', hshader, hcache⟩

/-- The uses of the call sites of a routine since it was made, the latest first. -/
def usesBefore (commands : List Command) (name : String) : List Use :=
  (runs commands name).flatMap Launch.used

/-- **The call sites of a routine** keep what they used last. -/
theorem entries_after (commands : List Command) {name : String} {r : Routine}
    (hr : (after commands).routines[name]? = some r) :
    r.cache = entries r.shader.declarations.callSites.length (usesBefore commands name) := by
  induction commands using List.reverseRecOn generalizing r with
  | nil => simp [after] at hr
  | append_singleton commands c ih =>
    rw [after_append] at hr
    rw [usesBefore, runs_append]
    rcases routine_cases hr with ⟨hmakes, hcache⟩ | ⟨hmakes, r', hr', hshader, hcache⟩
    · rw [hmakes, if_pos rfl, hcache, List.flatMap_nil, entries_nil]
    · rw [hmakes, if_neg Bool.false_ne_true, hcache, hshader]
      have hbefore := ih hr'
      cases hstarted : (after commands).started? name c with
      | none => exact hbefore
      | some l =>
        obtain ⟨hcache', hshader'⟩ := launch_of_started hstarted hr'
        rw [Option.elim_some, Option.toList_some, List.singleton_append, List.flatMap_cons]
        rw [← hshader'] at hbefore ⊢
        exact Launch.entries_last (hcache'.trans hbefore)

/-! ## Shaders of sessions -/

theorem isAnalysed_of_makeShader {id device : String} {words : List UInt32}
    {made : Session × Answer} (h : s.makeShader id device words = .ok made) :
    ∃ shader : Shader, shader.IsAnalysed ∧ made.1.shaders = s.shaders.insert id shader := by
  simp only [makeShader, orFault, bind_eq_ok, mapError_eq_ok, pure_eq_ok] at h
  obtain ⟨number, -, m, hm, shader, hshader, rfl⟩ := h
  obtain ⟨hdevice, hmodule, -⟩ := ofModule_eq_ok hshader
  subst hdevice hmodule
  exact ⟨shader, ⟨words, hm, hshader⟩, rfl⟩

variable {shader : Shader}

theorem find_shader_of_eq {s' : Session} (heq : s'.shaders = s.shaders)
    (h : s'.shaders[name]? = some shader) : s.shaders[name]? = some shader := heq ▸ h

/-- Every command leaves a shader as it is, or makes it of words. -/
theorem shader_execute (h : (s.execute c).session.shaders[name]? = some shader) :
    s.shaders[name]? = some shader ∨ shader.IsAnalysed := by
  cases c with
  | shader id device words =>
    cases hmade : s.makeShader id device words with
    | error e =>
      rw [Session.execute, hmade] at h
      exact .inl h
    | ok made =>
      obtain ⟨made', hanalysed, hinsert⟩ := isAnalysed_of_makeShader hmade
      rw [Session.execute, hmade] at h
      change made.1.shaders[name]? = some shader at h
      rw [hinsert, Std.TreeMap.getElem?_insert] at h
      split at h
      · cases h
        exact .inr hanalysed
      · exact .inl h
  | drop dropped =>
    change (s.shaders.erase dropped)[name]? = some shader at h
    rw [Std.TreeMap.getElem?_erase, Option.ite_none_left_eq_some] at h
    exact .inl h.2
  | _ => exact .inl (find_shader_of_eq (s.execute_leaves (p := .shaders) rfl) h)

/-- **The shaders of a session** were made of words. -/
theorem isAnalysed_after (commands : List Command) : (∀ (name : String) (shader : Shader),
      (after commands).shaders[name]? = some shader → shader.IsAnalysed) ∧
    ∀ (name : String) (r : Routine), (after commands).routines[name]? = some r →
      r.shader.IsAnalysed := by
  induction commands using List.reverseRecOn with
  | nil => exact ⟨fun _ _ h => by simp [after] at h, fun _ _ h => by simp [after] at h⟩
  | append_singleton commands c ih =>
    rw [after_append]
    refine ⟨fun name shader h => ?_, fun name r h => ?_⟩
    · rcases shader_execute h with hbefore | hanalysed
      · exact ih.1 name shader hbefore
      · exact hanalysed
    · cases routineFrom_execute h with
      | kept hr' hshader _ => exact hshader ▸ ih.2 name _ hr'
      | made hshader _ => exact ih.1 _ _ hshader
      | ran hr' hrun =>
        have hbefore := ih.2 name _ hr'
        rwa [hrun]

/-! ## Look-ups -/

/-- **The call sites of a routine** are numbered in the order of the sampling instructions of its
module, so that every sampling instruction has one of its own.  What a run executes with an active
lane follows the last use of its call site, in this run or in an earlier one: the resolver is asked
once if there was none or it was of another image descriptor or another sampler, and otherwise the
function of that use is called again and nobody is asked.  With no active lane nothing is looked up,
and what looks up nothing calls nothing and changes no call site.  The commands name any resolvers
and builders, so that the functions may differ from key to key. -/
theorem call_sites_follow_last_use (commands : List Command) {name : String} {r : Routine}
    (hr : (after commands).routines[name]? = some r) (inputs : InterfaceValues) {l : Launch}
    (hl : (after commands).store.launch r inputs = l) :
    (∀ k i, r.shader.samplingInstructions[k]? = some i →
      r.shader.declarations.callSite i.offset = .ok k) ∧
    ∀ fuel before s i rest, l.executed fuel = before ++ (s, i) :: rest →
      (l.environment.active.anyOn = false → lookUp? l.environment s i = none) ∧
      (lookUp? l.environment s i = none →
        SameSampling s ((Execution.step l.environment i).run s).2) ∧
      ∀ x, lookUp? l.environment s i = some x →
        r.shader.samplingInstructions[x.site.callSite]? = some i ∧
        x.site.callSite < s.machine.cache.length ∧
        FollowsLastUse l.environment s i x (lastUse?
          (usesOf l.environment before ++ usesBefore commands name) x.site.callSite) := by
  subst hl
  have hanalysed := (isAnalysed_after commands).2 name r hr
  refine ⟨fun k i hk => hanalysed.callSite_of_getElem? hk, fun fuel before s i rest h => ?_⟩
  refine ⟨fun hactive => ?_, sameSampling_of_lookUp_eq_none, fun x hx => ?_⟩
  · cases hx : lookUp? ((after commands).store.launch r inputs).environment s i with
    | none => rfl
    | some x => exact absurd (lookUp?_eq_some.mp hx).1.active (by rw [hactive]; exact nofun)
  · have hcache := Launch.entries_before (entries_after commands hr) h
    obtain ⟨offset, -, hi⟩ := Launch.executes_of_mem_executed
      (h ▸ List.mem_append_right before List.mem_cons_self)
    have hsite := callSites_getElem? hx
    rw [offset_of_definition hi] at hsite
    refine ⟨hanalysed.getElem?_of_callSites hi hsite, ?_, followsLastUse hcache hx⟩
    rw [hcache, length_entries]
    exact callSite_lt hx

/-! ### A routine that fetches a texel twice -/

namespace FetchTwice

/-- What the second run executes before it fetches the texel. -/
def before : List (State × Instruction) :=
  [(state launchAgain [], label), (state launchAgain [label], load)]

theorem executed_again :
    launchAgain.executed 3 = before ++ [(state launchAgain [label, load], fetch)] := by
  have hl : launchAgain = launchAgain ∨ launchAgain = launchUpdated := .inl rfl
  have hdefined := definition_eq hl
  rw [List.forall_mem_cons, List.forall_mem_cons, List.forall_mem_singleton] at hdefined
  obtain ⟨hi, hi', hi''⟩ := hdefined
  have hlabel : Progress.fetch launchAgain.environment (.going label.offset (state launchAgain [])) =
      .going load.offset (state launchAgain [label]) :=
    fetch_eq_going.mpr ⟨label, .next, hi, step_label hl, .next⟩
  have hload : Progress.fetch launchAgain.environment
      (.going load.offset (state launchAgain [label])) =
        .going fetch.offset (state launchAgain [label, load]) :=
    fetch_eq_going.mpr ⟨load, .next, hi', step_load hl, .next⟩
  rw [Launch.executed, Progress.start, globals_ok hl, entryBlock_eq hl]
  change executed _ 3 (.going label.offset _) = _
  rw [executed, trace_succ hi, hlabel, executed, trace_succ hi', hload, executed, trace_succ hi'',
    executed_zero]
  rfl

/-- The first run used the call site with the same image descriptor and sampler. -/
theorem lastUse_again : ∃ u, lastUse? (usesBefore again "") sample.site.callSite = some u ∧
    u.Serves sample := by
  have hserves : ((lastUse? (usesBefore again "") sample.site.callSite).any
      fun u => decide (u.Serves sample)) = true := by
    decide +kernel
  cases hlast : lastUse? (usesBefore again "") sample.site.callSite with
  | none => rw [hlast] at hserves; cases hserves
  | some u =>
    rw [hlast] at hserves
    exact ⟨u, rfl, of_decide_eq_true hserves⟩

end FetchTwice

open FetchTwice in
/-- The second run asks nobody, and calls the function that the first run used. -/
theorem second_fetch_asks_nobody : ∃ u, lastUse? (usesBefore again "") 0 = some u ∧
    requests (events launchAgain) = [] ∧ functions (events launchAgain) = [u.function] := by
  have hr := Option.some_get (x := (after again).routines[""]?) (by decide +kernel)
  obtain ⟨-, hexecuted⟩ := call_sites_follow_last_use again hr.symm ∅ (l := launchAgain) rfl
  obtain ⟨-, -, hlook⟩ := hexecuted 3 before _ fetch [] executed_again
  have hlookUp : lookUp? launchAgain.environment (state launchAgain [label, load]) fetch =
      some sample :=
    lookUp?_eq_some.mpr ⟨samples_fetch (.inl rfl), 4, by decide +kernel⟩
  obtain ⟨-, -, hfollows⟩ := hlook sample hlookUp
  -- the label and the load use no call site
  have hnone : (usesOf launchAgain.environment before).isEmpty = true := by decide +kernel
  rw [List.isEmpty_iff.mp hnone, List.nil_append] at hfollows
  obtain ⟨u, hu, hserves⟩ := lastUse_again
  obtain ⟨huse, hrequests, -⟩ := hfollows.again u hu hserves
  obtain ⟨-, -, hcalled⟩ := hfollows.used _ huse
  have hnothing : (state launchAgain [label, load]).machine.events.isEmpty = true := by
    decide +kernel
  have hok : ((Execution.step launchAgain.environment fetch).run
      (state launchAgain [label, load])).1 = .ok .next := by
    decide +kernel
  rw [List.isEmpty_iff.mp hnothing] at hrequests hcalled
  rcases hcalled with hcalled | ⟨hfault, -⟩
  · exact ⟨u, hu, hrequests, hcalled⟩
  · exact absurd hok (hfault .next)

end Session

end HostGpu
