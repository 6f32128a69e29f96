import HostGpu.Proofs.Execution.Lockstep
import HostGpu.Proofs.Session.Reachable

/-!
# Inactive lanes do not matter

What a run does is decided by its active lanes.  Values, loads and inputs have lanes that are off,
and these hold whatever they hold, but nothing that a run leaves behind depends on them: not its
outcome, not memory, not the functions that it asks for, and not the active lanes of its outputs.
-/

namespace HostGpu

open Lanes Outcome Execution

/-! ## Results of runs -/

/-- Who is asked for a function or makes one; calls are left out. -/
def SamplingEvent.isRequest : SamplingEvent → Bool
  | .called .. => false
  | .askedDevice .. | .askedOwn .. | .built .. => true

theorem SamplingEvent.filter_isRequest_eq {on : Lane → Prop} {list list' : List SamplingEvent}
    (h : List.Forall₂ (AgreeOn on) list list') :
    list.filter isRequest = list'.filter isRequest := by
  induction h with
  | nil => rfl
  | cons hevent _ ih =>
    cases hevent with
    | same event => rw [List.filter_cons, List.filter_cons, ih]
    | called function texture hinputs => exact ih

namespace RunResult

/-- The requests that a run made, in order. -/
def requests (r : RunResult) : List SamplingEvent := r.events.filter SamplingEvent.isRequest

/-- Two runs end with the same fault or with outputs that agree in the lanes of a set, and leave the
same behind.  They call the same functions, with inputs that agree in these lanes. -/
structure AgreeOn (on : Lane → Prop) (r r' : RunResult) : Prop where
  outcome : Alike (InterfaceValues.AgreeOn on) r.outcome r'.outcome
  blocks : r.blocks = r'.blocks
  device : r.device = r'.device
  cache : r.routine.cache = r'.routine.cache
  events : List.Forall₂ (SamplingEvent.AgreeOn on) r.events r'.events

/-- Runs that agree make the same requests. -/
theorem AgreeOn.requests {on : Lane → Prop} {r r' : RunResult} (h : r.AgreeOn on r') :
    r.requests = r'.requests := SamplingEvent.filter_isRequest_eq h.events

end RunResult

namespace Routine

/-- The lanes of a routine that are active. -/
def IsActive (r : Routine) (l : Lane) : Prop := r.active.get l ≠ 0

/-- What a run starts with. -/
def machine (r : Routine) (blocks : BlockTable) (device : Device) : Machine :=
  { blocks, device, cache := r.cache, events := [] }

/-- Every sampling function that runs of a routine find, build or keep has a property. -/
structure Samples (r : Routine) (device : Device) (P : SamplingFunction → Prop) : Prop where
  found : Supplies P r.resolver
  kept : ∀ blocks, (r.machine blocks device).Keeps P

/-- Runs end alike if their instructions do the same, side by side. -/
theorem agreeOn_run (r : Routine) {x y : WordLanes} (mask : WordLanes) {on : Lane → Prop}
    {P : SamplingFunction → Prop} (sets : SetTable) (blocks : BlockTable) (device : Device)
    {inputs inputs' : InterfaceValues}
    (h : Environment.AgreeOn on P { r.toSetup with sets } x y mask)
    (hkept : (r.machine blocks device).Keeps P) (hinputs : inputs.AgreeOn on inputs')
    (hstep : ∀ (s : State) (offset : Nat) (i : Spirv.Instruction),
      Visits { r.toSetup with sets } inputs (r.machine blocks device) s offset →
      r.shader.definition offset = .ok i → InStep on P { r.toSetup with sets } x y mask s i) :
    RunResult.AgreeOn on (r.run sets blocks device inputs)
      ({ r with windowX := x, windowY := y, active := mask }.run sets blocks device inputs') := by
  have hmachine : (r.machine blocks device).AgreeOn on P (r.machine blocks device) :=
    ⟨rfl, rfl, rfl, .nil, hkept⟩
  obtain ⟨houtcome, hstate⟩ := run_agree h hstep hmachine hinputs
  exact ⟨houtcome, hstate.machine.blocks, hstate.machine.device, hstate.machine.cache,
    List.rel_reverse hstate.machine.events⟩

/-! ## Noninterference -/

/-- **Inactive lanes never influence active ones.**  If some lane is active, two runs from the same
memory, descriptor sets, device and cache, whose inputs and positions in the window agree in the
active lanes, end with the same fault or both with outputs that agree in the active lanes.  They
leave the same memory, device and cache, and make the same requests for sampling functions.  These
functions are taken to compute the active lanes of texels from the active lanes of their inputs. -/
theorem active_lanes_decide_run (r : Routine) (sets : SetTable) (blocks : BlockTable)
    (device : Device) (x y : WordLanes) (inputs inputs' : InterfaceValues)
    (hactive : ∃ l, r.IsActive l) (hx : r.windowX.AgreeOn r.IsActive x)
    (hy : r.windowY.AgreeOn r.IsActive y) (hinputs : inputs.AgreeOn r.IsActive inputs')
    (hsamples : r.Samples device (LaneLocal r.IsActive)) :
    RunResult.AgreeOn r.IsActive (r.run sets blocks device inputs)
        ({ r with windowX := x, windowY := y }.run sets blocks device inputs') ∧
      (r.run sets blocks device inputs).requests =
        ({ r with windowX := x, windowY := y }.run sets blocks device inputs').requests := by
  have hlead : r.IsActive (Environment.leadLane { r.toSetup with sets }) :=
    Environment.active_leadLane hactive
  have hresult := r.agreeOn_run (x := x) (y := y) r.active sets blocks device
    ⟨hx, hy, fun l hl => hl, fun l hl => hl, hlead, hsamples.found⟩ (hsamples.kept blocks) hinputs
    fun s offset i _ _ => ⟨fun index _ => rfl, fun _ => ⟨rfl, fun l hl => hl⟩, fun _ _ _ f hf => hf⟩
  exact ⟨hresult, hresult.requests⟩

/-! ### One active lane that samples -/

namespace SampleOne

/-- A module that samples a texture at its input and stores the texel to its output. -/
def words : List UInt32 := [
  0x07230203, 0x00010000, 0, 23, 0,
  0x0004000F, 4, 20, 0, -- the entry point
  0x00040047, 9, 34, 0, 0x00040047, 9, 33, 0, -- set 0 and binding 0
  0x00040047, 10, 30, 0, 0x00040047, 11, 30, 0, -- locations 0
  0x00030016, 1, 32, 0x00040017, 2, 1, 4, 0x00040017, 3, 1, 2, -- vectors of floats
  0x00090019, 4, 1, 1, 0, 0, 0, 1, 0, 0x0003001B, 5, 4, -- a sampled image
  0x00040020, 6, 0, 5, 0x00040020, 7, 1, 3, 0x00040020, 8, 3, 2, -- pointers to these
  0x0004003B, 6, 9, 0, 0x0004003B, 7, 10, 1, 0x0004003B, 8, 11, 3, -- texture, input, output
  0x00050036, 21, 20, 0, 22, 0x000200F8, 12,
  0x0004003D, 5, 13, 9, 0x0004003D, 3, 14, 10,
  0x00050057, 2, 15, 13, 14, -- the texel
  0x0003003E, 11, 15,
  0x000100FD, 0x00010038]

/-- A session that gives the module a texture of one texel.  All names are empty. -/
def commands : List Session.Command := [
  .device "" true none,
  .image "" "" { kind := .dim2, format := .r8g8b8a8Unorm, extent := ⟨1, 1, 1⟩ },
  .view "" "" { preset := .wholeImage },
  .sampler "" "" {},
  .setLayout "" "" [{ number := 0, kind := .combinedImageSampler }],
  .set "" "",
  .update "" [{ binding := 0, elements := .viewSamplers [("", "")] }] [],
  .pipelineLayout "" "" [""],
  .shader "" "" words,
  .routine "" "" "" {},
  .bind "" "" 0]

/-- The routine of the session with its lowest lane active.  The others stand somewhere, and
functions return their inputs. -/
def routine (others : UInt32) : Routine :=
  { ((Session.after commands).routines[""]?).get (by decide +kernel) with
    resolver := .own fun _ => .copyInputs 0
    windowX := ⟨0, others, others, others⟩
    windowY := ⟨0, others, others, others⟩
    active := ⟨0xFFFFFFFF, 0, 0, 0⟩
    cache := [{}] }

/-- The lowest lane samples at 1 and 2, and the others somewhere. -/
def inputs (others : UInt32) : InterfaceValues :=
  Std.TreeMap.empty.insert 0 [⟨1, others, others, others⟩, ⟨2, others, others, others⟩]

def result (others : UInt32) : RunResult :=
  (routine others).run (Session.after commands).store.sets (Session.after commands).store.blocks {}
    (inputs others)

theorem inputs_agree : (inputs 7).AgreeOn (routine 7).IsActive (inputs 9) := by
  intro location
  rw [inputs, inputs, Std.TreeMap.getElem?_insert, Std.TreeMap.getElem?_insert]
  split
  · refine .some (.cons ?_ (.cons ?_ .nil)) <;>
    · intro l hl
      match l with
      | 0 => rfl
      | 1 | 2 | 3 => exact absurd rfl hl
  · exact .none

end SampleOne

open SampleOne in
/-- Whatever the other lanes do, the lowest one stores the texel it sampled. -/
theorem lowest_lane_decides_sample :
    RunResult.AgreeOn (routine 7).IsActive (result 7) (result 9) ∧
      (result 7).requests = (result 9).requests ∧
      (result 9).outcome.toOption.bind (·[0]?) =
        some [⟨1, 0, 0, 0⟩, ⟨2, 0, 0, 0⟩, .splat 0, .splat 0] := by
  have hposition : (routine 7).windowX.AgreeOn (routine 7).IsActive ⟨0, 9, 9, 9⟩ := by
    intro l hl
    match l with
    | 0 => rfl
    | 1 | 2 | 3 => exact absurd rfl hl
  have hsamples : (routine 7).Samples {} (LaneLocal (routine 7).IsActive) := by
    refine ⟨fun _ => laneLocal_copyInputs 0, fun blocks => ⟨nofun, nofun, ?_⟩⟩
    intro entry hentry f hf
    rw [List.mem_singleton.mp hentry] at hf
    cases hf
  have hresult := active_lanes_decide_run (routine 7) (Session.after commands).store.sets
    (Session.after commands).store.blocks {} ⟨0, 9, 9, 9⟩ ⟨0, 9, 9, 9⟩ (inputs 7) (inputs 9)
    ⟨0, fun h => absurd h (by decide)⟩ hposition hposition inputs_agree hsamples
  exact ⟨hresult.1, hresult.2, by decide +kernel⟩

end Routine

end HostGpu
