import HostGpu.Execution.Run
import HostGpu.Proofs.Execution.Changes
import HostGpu.Proofs.Lanes.Agreement

/-!
# Agreement of two runs

Two runs of a shader go side by side if everything they hold is equal up to lanes that do not count.
This module says what that means for values, machines and states, and how parts of two runs that
end alike are put together.  A machine is also required to keep only sampling functions with some
property, because whatever it keeps may be called later.  Values and states are related in general
first, given what is asked of the targets of pointers and of machines.
-/

namespace HostGpu

open Lanes Outcome

variable (on : Lane → Prop)

/-! ## Values -/

/-- Pointers that differ in their offsets only, and there only in lanes that do not count. -/
structure LanePointer.AgreeOn (p p' : LanePointer) : Prop where
  base : p.base = p'.base
  limit : p.limit = p'.limit
  offsets : p.offsets.AgreeOn on p'.offsets

/-- The same event, but for the inputs that a function is called with in lanes that do not count. -/
inductive SamplingEvent.AgreeOn : SamplingEvent → SamplingEvent → Prop
  | same (event : SamplingEvent) : AgreeOn event event
  | called (function : SamplingFunction) (texture : Texture) {inputs inputs' : List WordLanes}
      (hinputs : RowsAgree on inputs inputs') :
      AgreeOn (.called function texture inputs) (.called function texture inputs')

namespace Execution

structure TexelPointer.AgreeOn (p p' : TexelPointer) : Prop where
  block : p.block = p'.block
  lanes : p.lanes.AgreeOn on p'.lanes

inductive Target.AgreeOn : Target → Target → Prop
  | descriptor (address : DescriptorAddress) : AgreeOn (.descriptor address) (.descriptor address)
  | variable (id : Nat) {offsets offsets' : WordLanes} (hoffsets : offsets.AgreeOn on offsets') :
      AgreeOn (.variable id offsets) (.variable id offsets')
  | texel {p p' : TexelPointer} (hp : p.AgreeOn on p') : AgreeOn (.texel p) (.texel p')

theorem Target.AgreeOn.refl {on : Lane → Prop} : ∀ t : Target, t.AgreeOn on t
  | .descriptor address => .descriptor address
  | .variable id offsets => .variable id (Lanes.AgreeOn.refl offsets)
  | .texel p => .texel ⟨rfl, rfl, rfl, Lanes.AgreeOn.refl p.lanes.offsets⟩

/-- Components that agree, or pointers to targets that are related. -/
inductive Value.Related (T : Target → Target → Prop) : Value → Value → Prop
  | components {list list' : List WordLanes} (hlist : RowsAgree on list list') :
      Related T (.components list) (.components list')
  | pointer {t t' : Target} (ht : T t t') : Related T (.pointer t) (.pointer t')

abbrev Value.AgreeOn : Value → Value → Prop := Value.Related on (Target.AgreeOn on)

/-- Operands that agree. Constants are equal, for what a constant is may decide more than values. -/
structure Operand.AgreeOn (o o' : Operand) : Prop where
  isConstant : o.isConstant = o'.isConstant
  constant : o.isConstant = true → o.components = o'.components
  components : RowsAgree on o.components o'.components

/-- Values by location that agree: the same locations have values. -/
def InterfaceValues.AgreeOn (values values' : InterfaceValues) : Prop :=
  ∀ location : Nat, Option.Rel (RowsAgree on) values[location]? values'[location]?

/-! ## States -/

/-- Every sampling function that a resolver of a routine's own finds has a property. -/
def Supplies (P : SamplingFunction → Prop) : Resolver → Prop
  | .device => True
  | .own find => ∀ key, P (find key)

/-- Every sampling function that a machine keeps or builds has a property. -/
structure Machine.Keeps (P : SamplingFunction → Prop) (m : Machine) : Prop where
  built : ∀ build, m.device.builder = some build → ∀ request, P (build request)
  kept : ∀ entry ∈ m.device.functions, P entry.2
  cached : ∀ entry ∈ m.cache, ∀ f, entry.function = some f → P f

variable (P : SamplingFunction → Prop)

/-- Equal machines, but for the events. -/
structure Machine.AgreeOn (m m' : Machine) : Prop where
  blocks : m.blocks = m'.blocks
  device : m.device = m'.device
  cache : m.cache = m'.cache
  events : List.Forall₂ (SamplingEvent.AgreeOn on) m.events m'.events
  keeps : m.Keeps P

/-- States with related machines and values, and with storages that agree. -/
structure State.Related (M : Machine → Machine → Prop) (T : Target → Target → Prop)
    (s s' : State) : Prop where
  machine : M s.machine s'.machine
  values : ∀ id : Nat, Option.Rel (Value.Related on T) s.values[id]? s'.values[id]?
  storages : ∀ id : Nat, Option.Rel (RowsAgree on) s.storages[id]? s'.storages[id]?

/-- Without values and storages only machines are compared. -/
theorem State.Related.initial {M : Machine → Machine → Prop} {T : Target → Target → Prop}
    {machine machine' : Machine} (h : M machine machine') :
    State.Related on M T { machine } { machine := machine' } := by
  refine ⟨h, fun id => ?_, fun id => ?_⟩ <;> rw [Std.TreeMap.getElem?_emptyc] <;> exact .none

abbrev State.AgreeOn (s s' : State) : Prop :=
  s.Related on (Machine.AgreeOn on P) (Target.AgreeOn on) s'

namespace Environment

/-- An environment with other positions in the window and another mask of active lanes. -/
def moved (e : Environment) (x y mask : WordLanes) : Environment :=
  { e with windowX := x, windowY := y, active := mask }

section

variable (e : Environment) (x y mask : WordLanes)

@[simp] theorem moved_shader : (e.moved x y mask).shader = e.shader := rfl

@[simp] theorem moved_declarations : (e.moved x y mask).declarations = e.declarations := rfl

@[simp] theorem moved_layout : (e.moved x y mask).layout = e.layout := rfl

@[simp] theorem moved_resolver : (e.moved x y mask).resolver = e.resolver := rfl

@[simp] theorem moved_viewIndex : (e.moved x y mask).viewIndex = e.viewIndex := rfl

@[simp] theorem moved_windowX : (e.moved x y mask).windowX = x := rfl

@[simp] theorem moved_windowY : (e.moved x y mask).windowY = y := rfl

@[simp] theorem moved_active : (e.moved x y mask).active = mask := rfl

end

/-- The moved environment agrees with the old one in lanes that are active in both, and the lane
that leads there is one of them. -/
structure AgreeOn (e : Environment) (x y mask : WordLanes) : Prop where
  windowX : e.windowX.AgreeOn on x
  windowY : e.windowY.AgreeOn on y
  active : ∀ l, on l → e.active.get l ≠ 0
  moved : ∀ l, on l → mask.get l ≠ 0
  lead : on (Environment.moved e x y mask).leadLane
  supplies : Supplies P e.resolver

/-- The lane that leads is active if any lane is. -/
theorem active_leadLane {e : Environment} (h : ∃ l, e.active.get l ≠ 0) :
    e.active.get e.leadLane ≠ 0 := by
  obtain ⟨l, hl⟩ := h
  rw [leadLane, firstOn?]
  cases hfind : Lane.all.find? fun l => e.active.get l ≠ 0 with
  | none => exact absurd hl (by simpa using List.find?_eq_none.mp hfind l l.mem_all)
  | some lead => simpa using List.find?_some hfind

/-- Both runs have the same lanes active, and all of these count. -/
structure SameStores (e : Environment) (mask : WordLanes) : Prop where
  mask_eq : mask = e.active
  on_of_active : ∀ l, e.active.get l ≠ 0 → on l

end Environment

/-! ## Ends of parts of runs -/

variable {α β γ δ : Type}

/-- Parts of two runs end alike, in states that are related. -/
structure EndsAlike (S : State → State → Prop) (R : α → β → Prop)
    (r : Except Fault α × State) (r' : Except Fault β × State) : Prop where
  outcome : Alike R r.1 r'.1
  state : S r.2 r'.2

namespace EndsAlike

variable {S : State → State → Prop} {R : α → β → Prop} {Q : γ → δ → Prop} {s s' : State}

theorem pure {a : α} {b : β} (hs : S s s') (h : R a b) :
    EndsAlike S R ((Pure.pure a : Run α).run s) ((Pure.pure b : Run β).run s') := ⟨.ok h, hs⟩

theorem throw (hs : S s s') (fault : Fault) :
    EndsAlike S R ((MonadExcept.throw fault : Run α).run s)
      ((MonadExcept.throw fault : Run β).run s') := ⟨.error fault, hs⟩

/-- What follows parts that end alike. -/
theorem bind {x : Run α} {y : Run β} {f : α → Run γ} {g : β → Run δ}
    (hxy : EndsAlike S R (x.run s) (y.run s'))
    (hfg : ∀ a b t t', x.run s = (.ok a, t) → R a b → S t t' →
      EndsAlike S Q ((f a).run t) ((g b).run t')) :
    EndsAlike S Q ((x >>= f).run s) ((y >>= g).run s') := by
  obtain ⟨houtcome, hstate⟩ := hxy
  rw [run_bind, run_bind]
  rcases hx : x.run s with ⟨r, t⟩
  rcases hy : y.run s' with ⟨r', t'⟩
  rw [hx, hy] at houtcome hstate
  cases houtcome with
  | ok h => exact hfg _ _ t t' hx h hstate
  | error fault => exact ⟨.error fault, hstate⟩

/-- What follows two computations that leave the states as they are. -/
theorem lift_bind {x : Except Fault α} {y : Except Fault β} {f : α → Run γ} {g : β → Run δ}
    (hs : S s s') (hxy : Alike R x y)
    (hfg : ∀ a b, x = .ok a → R a b → EndsAlike S Q ((f a).run s) ((g b).run s')) :
    EndsAlike S Q ((liftM x >>= f : Run γ).run s) ((liftM y >>= g : Run δ).run s') := by
  rw [run_bind, run_bind]
  cases hxy with
  | ok h => exact hfg _ _ rfl h
  | error fault => exact ⟨.error fault, hs⟩

/-- What follows the same computation in both runs. -/
theorem lift_bind_same {x : Except Fault α} {f : α → Run γ} {g : α → Run δ}
    (hs : S s s') (hfg : ∀ a, x = .ok a → EndsAlike S Q ((f a).run s) ((g a).run s')) :
    EndsAlike S Q ((liftM x >>= f : Run γ).run s) ((liftM x >>= g : Run δ).run s') :=
  lift_bind hs (.same x fun _ => rfl) fun a _ ha hab => hab ▸ hfg a ha

/-- What follows two inspections of the states. -/
theorem inspect_bind {f : State → Except Fault α} {f' : State → Except Fault β} {g : α → Run γ}
    {g' : β → Run δ} (hs : S s s') (hf : Alike R (f s) (f' s'))
    (hg : ∀ a b, f s = .ok a → R a b → EndsAlike S Q ((g a).run s) ((g' b).run s')) :
    EndsAlike S Q ((inspect f >>= g).run s) ((inspect f' >>= g').run s') :=
  lift_bind hs hf hg

/-- What follows looking at the whole states. -/
theorem get_bind {g : State → Run γ} {g' : State → Run δ}
    (h : EndsAlike S Q ((g s).run s) ((g' s').run s')) :
    EndsAlike S Q ((get >>= g : Run γ).run s) ((get >>= g' : Run δ).run s') := h

/-- Going through a list. -/
theorem forM {f g : α → Run Unit} (list : List α)
    (hfg : ∀ a t t', S t t' → EndsAlike S Eq ((f a).run t) ((g a).run t')) (hs : S s s') :
    EndsAlike S Eq ((list.forM f).run s) ((list.forM g).run s') := by
  induction list generalizing s s' with
  | nil => exact .pure hs rfl
  | cons a list ih => exact (hfg a s s' hs).bind fun _ _ t t' _ _ ht => ih ht

end EndsAlike

/-! ### Runs that one fault parts -/

/-- Parts of two runs end alike, unless one of them ends with a fault of its own. -/
inductive EndsAlikeUnless (F F' : Fault → Prop) (S : State → State → Prop) (R : α → β → Prop)
    (r : Except Fault α × State) (r' : Except Fault β × State) : Prop
  | alike (h : EndsAlike S R r r')
  | left {fault : Fault} (hfault : F fault) (h : r.1 = .error fault)
  | right {fault : Fault} (hfault : F' fault) (h : r'.1 = .error fault)

namespace EndsAlikeUnless

variable {F F' : Fault → Prop} {S : State → State → Prop} {R : α → β → Prop} {Q : γ → δ → Prop}
  {s s' : State}

theorem bind {x : Run α} {y : Run β} {f : α → Run γ} {g : β → Run δ}
    (hxy : EndsAlikeUnless F F' S R (x.run s) (y.run s'))
    (hfg : ∀ a b t t', x.run s = (.ok a, t) → y.run s' = (.ok b, t') → R a b → S t t' →
      EndsAlikeUnless F F' S Q ((f a).run t) ((g b).run t')) :
    EndsAlikeUnless F F' S Q ((x >>= f).run s) ((y >>= g).run s') := by
  rw [run_bind, run_bind]
  rcases hx : x.run s with ⟨r, t⟩
  rcases hy : y.run s' with ⟨r', t'⟩
  rw [hx, hy] at hxy
  cases hxy with
  | alike h =>
    obtain ⟨houtcome, hstate⟩ := h
    cases houtcome with
    | ok h => exact hfg _ _ t t' hx hy h hstate
    | error fault => exact .alike ⟨.error fault, hstate⟩
  | left hfault h =>
    obtain rfl : r = .error _ := h
    exact .left hfault rfl
  | right hfault h =>
    obtain rfl : r' = .error _ := h
    exact .right hfault rfl

theorem lift_bind_same {x : Except Fault α} {f : α → Run γ} {g : α → Run δ} (hs : S s s')
    (hfg : ∀ a, x = .ok a → EndsAlikeUnless F F' S Q ((f a).run s) ((g a).run s')) :
    EndsAlikeUnless F F' S Q ((liftM x >>= f : Run γ).run s)
      ((liftM x >>= g : Run δ).run s') := by
  cases x with
  | ok a => exact hfg a rfl
  | error fault => exact .alike ⟨.error fault, hs⟩

theorem mono {G G' : Fault → Prop} {r : Except Fault α × State} {r' : Except Fault β × State}
    (h : EndsAlikeUnless F F' S R r r') (hF : ∀ fault, F fault → G fault)
    (hF' : ∀ fault, F' fault → G' fault) : EndsAlikeUnless G G' S R r r' := by
  cases h with
  | alike h => exact .alike h
  | left hfault h => exact .left (hF _ hfault) h
  | right hfault h => exact .right (hF' _ hfault) h

/-- Faults that no run ends with do not part runs. -/
theorem endsAlike {r : Except Fault α × State} {r' : Except Fault β × State}
    (h : EndsAlikeUnless (fun _ => False) (fun _ => False) S R r r') : EndsAlike S R r r' := by
  cases h with
  | alike h => exact h
  | left hfault | right hfault => exact hfault.elim

end EndsAlikeUnless

end Execution

end HostGpu
