import HostGpu.Proofs.Device
import HostGpu.Proofs.Outcome

/-!
# The registries of devices

In every history of making and ending samplers and views and of asking devices for sampling
functions, a device has the records of exactly those samplers and views of it that live, and keeps
exactly the functions that were built since something that their key names ended
(`Store.Recorded`).
-/

namespace HostGpu

open Outcome

/-! ## Things with a record -/

namespace Resource

/-- The device that a resource belongs to. -/
def device : Resource → Nat
  | buffer b => b.device
  | bufferView v => v.buffer.device
  | view v => v.image.device
  | sampler y => y.device

/-- What a device records of a sampler. -/
def samplerInfo? : Resource → Option SamplerInfo
  | sampler y => some y.info
  | _ => none

/-- What a device records of a view. -/
def viewState? : Resource → Option ViewState
  | bufferView v => some v.state
  | view v => some v.state
  | _ => none

/-- The number of a sampler or view. -/
def Numbered (x : Resource) (id : Nat) : Prop := x.samplerId? = some id ∨ x.viewId? = some id

theorem numbered_sampler {y : Sampler} {id : Nat} : (sampler y).Numbered id ↔ id = y.id := by
  simp [Numbered, samplerId?, viewId?, eq_comm]

theorem numbered_view {v : ImageView} {id : Nat} : (view v).Numbered id ↔ id = v.id := by
  simp [Numbered, samplerId?, viewId?, eq_comm]

theorem numbered_bufferView {v : BufferView} {id : Nat} :
    (bufferView v).Numbered id ↔ id = v.id := by
  simp [Numbered, samplerId?, viewId?, eq_comm]

/-- A key names a sampler and a view. -/
def IsNamedIn (x : Resource) (key : SamplingKey) : Prop :=
  x.samplerId? = some key.sampler ∨ x.viewId? = some key.view

instance (x : Resource) (key : SamplingKey) : Decidable (x.IsNamedIn key) :=
  inferInstanceAs (Decidable (_ ∨ _))

end Resource

namespace Store

/-! ## Histories -/

/-- What happens to the registries of devices. -/
inductive RegistryEvent where
  | made (x : Resource)
  | ended (x : Resource)
  /-- A device was asked for a function, which it built if there is a request. -/
  | asked (device : Nat) (key : SamplingKey) (request : Option SamplingRequest)
    (function : SamplingFunction)

/-- What was made and has not ended, the last event coming first. -/
def Lives (events : List RegistryEvent) (x : Resource) : Prop :=
  .made x ∈ events ∧ .ended x ∉ events

/-- Something of a device ends that a key names. -/
def RegistryEvent.Evicts (device : Nat) (key : SamplingKey) (e : RegistryEvent) : Prop :=
  ∃ x : Resource, e = .ended x ∧ x.device = device ∧ x.IsNamedIn key

/-- A function was built for a key, and nothing of the device that the key names ended since. -/
inductive BuiltSince (device : Nat) (key : SamplingKey) (f : SamplingFunction) :
    List RegistryEvent → Prop
  | built (request : SamplingRequest) (events : List RegistryEvent) :
      BuiltSince device key f (.asked device key (some request) f :: events)
  | before {e : RegistryEvent} {events : List RegistryEvent} (h : BuiltSince device key f events)
      (hkeeps : ¬ e.Evicts device key) : BuiltSince device key f (e :: events)

/-- What is held from now on is what lived, other than some things that end. -/
structure Ends (s : Store) (events : List RegistryEvent) (roots : Roots) (xs : List Resource) :
    Prop where
  lives : ∀ x ∈ xs, Lives events x
  samplers : ∀ id, id ∈ (s.alive roots).samplers ↔
    ∃ x, Lives events x ∧ x ∉ xs ∧ x.samplerId? = some id
  views : ∀ id, id ∈ (s.alive roots).views ↔ ∃ x, Lives events x ∧ x ∉ xs ∧ x.viewId? = some id

/-- The stores that there are after some events: devices, samplers and views are made, some of what
lives ends, devices are asked for sampling functions, and anything else happens that leaves devices
as they are. -/
inductive History : Store → List RegistryEvent → Prop
  | start : History {} []
  | device {s : Store} {events : List RegistryEvent} (h : History s events) (robust : Bool)
      (builder : Option (SamplingRequest → SamplingFunction)) :
      History (s.addDevice { robust, builder }).2 events
  | sampler {s : Store} {events : List RegistryEvent} (h : History s events) {device : Nat}
      (hdevice : device ∈ s.devices) {info : SamplerInfo} {made : Made Sampler}
      (hmade : s.createSampler device info = .ok made) :
      History made.store (.made (.sampler made.value) :: events)
  | view {s : Store} {events : List RegistryEvent} (h : History s events) {image : Image}
      (hdevice : image.device ∈ s.devices) {info : ViewInfo} {made : Made ImageView}
      (hmade : s.createView image info = .ok made) :
      History made.store (.made (.view made.value) :: events)
  | bufferView {s : Store} {events : List RegistryEvent} (h : History s events) {buffer : Buffer}
      (hdevice : buffer.device ∈ s.devices) {format : Format} {range : Span}
      {made : Made BufferView} (hmade : s.createBufferView buffer format range = .ok made) :
      History made.store (.made (.bufferView made.value) :: events)
  | ended {s : Store} {events : List RegistryEvent} (h : History s events) {roots : Roots}
      {xs : List Resource} (hends : s.Ends events roots xs) :
      History (s.sweep roots) (xs.map .ended ++ events)
  | asked {s : Store} {events : List RegistryEvent} (h : History s events) {device : Nat}
      (hdevice : device ∈ s.devices) {key : SamplingKey} {r : Device.Resolution}
      (hresolve : (s.device device).resolve key = .ok r) :
      History (s.onDevice device fun _ => r.device)
        (.asked device key r.request r.function :: events)
  | other {s s' : Store} {events : List RegistryEvent} (h : History s events)
      (hdevices : s'.devices = s.devices) (hnext : s.next ≤ s'.next) : History s' events

/-! ## What events change -/

variable {events : List RegistryEvent} {device : Nat} {key : SamplingKey} {f : SamplingFunction}

theorem lives_made {x : Resource} (hx : .made x ∉ events)
    (hended : ∀ y, .ended y ∈ events → .made y ∈ events) (y : Resource) :
    Lives (.made x :: events) y ↔ Lives events y ∨ y = x := by
  have hnot : RegistryEvent.ended x ∉ events := fun h => hx (hended x h)
  simp only [Lives, List.mem_cons, RegistryEvent.made.injEq, reduceCtorEq, false_or]
  grind

theorem lives_asked {request : Option SamplingRequest} (y : Resource) :
    Lives (.asked device key request f :: events) y ↔ Lives events y := by
  simp [Lives]

theorem lives_ended {xs : List Resource} (y : Resource) :
    Lives (xs.map .ended ++ events) y ↔ Lives events y ∧ y ∉ xs := by
  simp [Lives, and_assoc, and_comm]

theorem builtSince_made {x : Resource} :
    BuiltSince device key f (.made x :: events) ↔ BuiltSince device key f events := by
  constructor
  · intro h
    cases h with
    | before h => exact h
  · intro h
    refine .before h ?_
    rintro ⟨y, hy, -⟩
    cases hy

theorem builtSince_asked {device' : Nat} {key' : SamplingKey} {request : Option SamplingRequest}
    {f' : SamplingFunction} :
    BuiltSince device key f (.asked device' key' request f' :: events) ↔
      (device' = device ∧ key' = key ∧ request.isSome ∧ f' = f) ∨
        BuiltSince device key f events := by
  constructor
  · intro h
    cases h with
    | built => exact .inl ⟨rfl, rfl, rfl, rfl⟩
    | before h => exact .inr h
  · rintro (⟨rfl, rfl, hrequest, rfl⟩ | h)
    · obtain ⟨request, rfl⟩ := Option.isSome_iff_exists.mp hrequest
      exact .built request events
    · refine .before h ?_
      rintro ⟨y, hy, -⟩
      cases hy

theorem builtSince_ended {xs : List Resource} :
    BuiltSince device key f (xs.map .ended ++ events) ↔
      BuiltSince device key f events ∧ ∀ x ∈ xs, x.device = device → ¬ x.IsNamedIn key := by
  induction xs with
  | nil => simp
  | cons x xs ih =>
    rw [List.map_cons, List.cons_append, List.forall_mem_cons]
    constructor
    · intro h
      cases h with
      | before h hkeeps =>
        obtain ⟨hbuilt, hxs⟩ := ih.mp h
        exact ⟨hbuilt, fun hdevice hnamed => hkeeps ⟨x, rfl, hdevice, hnamed⟩, hxs⟩
    · rintro ⟨hbuilt, hx, hxs⟩
      refine .before (ih.mpr ⟨hbuilt, hxs⟩) ?_
      rintro ⟨y, hy, hdevice, hnamed⟩
      cases hy
      exact hx hdevice hnamed

theorem exists_asked_of_builtSince (h : BuiltSince device key f events) :
    ∃ request, .asked device key request f ∈ events := by
  induction h with
  | built request events => exact ⟨some request, List.mem_cons_self⟩
  | before _ _ ih =>
    obtain ⟨request, hmem⟩ := ih
    exact ⟨request, List.mem_cons_of_mem _ hmem⟩

/-! ## Records of one device -/

/-- A table has the records of what lives of a device and has a number in it. -/
def Lists {α : Type} (table : Std.TreeMap Nat α) (number? : Resource → Option Nat)
    (record? : Resource → Option α) (device : Nat) (events : List RegistryEvent) : Prop :=
  ∀ id a, table[id]? = some a ↔
    ∃ x, Lives events x ∧ x.device = device ∧ number? x = some id ∧ record? x = some a

namespace Lists

variable {α : Type} {table table' : Std.TreeMap Nat α} {number? : Resource → Option Nat}
  {record? : Resource → Option α} (h : Lists table number? record? device events)
include h

theorem congr {events' : List RegistryEvent} (hlives : ∀ x, Lives events' x ↔ Lives events x) :
    Lists table number? record? device events' := by
  intro id a
  rw [h id a]
  refine exists_congr fun x => ?_
  rw [hlives]

/-- Things of other devices and things without a number are not listed. -/
theorem made_unlisted {x : Resource} (hx : x.device = device → number? x = none)
    (hlives : ∀ y, Lives (.made x :: events) y ↔ Lives events y ∨ y = x) :
    Lists table number? record? device (.made x :: events) := by
  intro id a
  rw [h id a]
  refine exists_congr fun y => ?_
  rw [hlives]
  constructor
  · rintro ⟨hy, hrest⟩
    exact ⟨.inl hy, hrest⟩
  · rintro ⟨hy | rfl, hdevice, hid, ha⟩
    · exact ⟨hy, hdevice, hid, ha⟩
    · rw [hx hdevice] at hid
      cases hid

theorem made_listed {x : Resource} {id : Nat} {a : α} (hdevice : x.device = device)
    (hid : number? x = some id) (ha : record? x = some a)
    (hfresh : ∀ y, Lives events y → number? y ≠ some id)
    (hlives : ∀ y, Lives (.made x :: events) y ↔ Lives events y ∨ y = x) :
    Lists (table.insert id a) number? record? device (.made x :: events) := by
  intro i b
  rw [Std.TreeMap.getElem?_insert]
  simp only [Nat.compare_eq_eq]
  split
  case isTrue hi =>
    subst hi
    constructor
    · rintro ⟨⟩
      exact ⟨x, (hlives x).mpr (.inr rfl), hdevice, hid, ha⟩
    · rintro ⟨y, hy, -, hi, hb⟩
      rcases (hlives y).mp hy with hy | rfl
      · exact absurd hi (hfresh y hy)
      · rw [← ha, hb]
  case isFalse hi =>
    rw [h i b]
    refine exists_congr fun y => ?_
    rw [hlives]
    constructor
    · rintro ⟨hy, hrest⟩
      exact ⟨.inl hy, hrest⟩
    · rintro ⟨hy | rfl, hrest⟩
      · exact ⟨hy, hrest⟩
      · exact absurd (Option.some.inj (hid.symm.trans hrest.2.1)) hi

/-- What is listed and not held is what ends. -/
theorem forgotten_iff {xs : List Resource} {alive : List Nat}
    (hunique : ∀ x y id, Lives events x → Lives events y → number? x = some id →
      number? y = some id → x = y)
    (hrecord : ∀ x id, number? x = some id → (record? x).isSome)
    (hxs : ∀ x ∈ xs, Lives events x)
    (halive : ∀ id, id ∈ alive ↔ ∃ x, Lives events x ∧ x ∉ xs ∧ number? x = some id) (id : Nat) :
    (table.contains id && !alive.contains id) = true ↔
      ∃ x ∈ xs, x.device = device ∧ number? x = some id := by
  rw [Bool.and_eq_true, Bool.not_eq_true', List.contains_eq_mem, decide_eq_false_iff_not, halive,
    Std.TreeMap.contains_eq_isSome_getElem?, Option.isSome_iff_exists]
  constructor
  · rintro ⟨⟨a, ha⟩, hgone⟩
    obtain ⟨x, hx, hdevice, hid, -⟩ := (h id a).mp ha
    exact ⟨x, by_contra fun hnot => hgone ⟨x, hx, hnot, hid⟩, hdevice, hid⟩
  · rintro ⟨x, hx, hdevice, hid⟩
    obtain ⟨a, ha⟩ := Option.isSome_iff_exists.mp (hrecord x id hid)
    refine ⟨⟨a, (h id a).mpr ⟨x, hxs x hx, hdevice, hid, ha⟩⟩, ?_⟩
    rintro ⟨y, hy, hnot, hyid⟩
    exact hnot (hunique y x id hy (hxs x hx) hyid hid ▸ hx)

/-- What ends is not listed any more. -/
theorem ended {forgets : Nat → Bool} {xs : List Resource}
    (hunique : ∀ x y id, Lives events x → Lives events y → number? x = some id →
      number? y = some id → x = y)
    (hxs : ∀ x ∈ xs, Lives events x)
    (htable : ∀ id : Nat, table'[id]? = if forgets id then none else table[id]?)
    (hforgets : ∀ id, forgets id = true ↔ ∃ x ∈ xs, x.device = device ∧ number? x = some id) :
    Lists table' number? record? device (xs.map .ended ++ events) := by
  intro id a
  rw [htable, Option.ite_none_left_eq_some, hforgets, h id a, ← exists_and_left]
  refine exists_congr fun x => ?_
  rw [lives_ended]
  constructor
  · rintro ⟨hkept, hx, hdevice, hid, ha⟩
    exact ⟨⟨hx, fun hmem => hkept ⟨x, hmem, hdevice, hid⟩⟩, hdevice, hid, ha⟩
  · rintro ⟨⟨hx, hnot⟩, hdevice, hid, ha⟩
    refine ⟨?_, hx, hdevice, hid, ha⟩
    rintro ⟨y, hy, -, hyid⟩
    exact hnot (hunique y x id (hxs y hy) hx hyid hid ▸ hy)

end Lists

theorem lists_empty {α : Type} {number? : Resource → Option Nat} {record? : Resource → Option α}
    (hlives : ∀ x, Lives events x → x.device ≠ device) :
    Lists ∅ number? record? device events := by
  intro id a
  simp only [Std.TreeMap.getElem?_emptyc, reduceCtorEq, false_iff]
  rintro ⟨x, hx, hdevice, -⟩
  exact hlives x hx hdevice

/-- A device has the records of what lives of it, and the functions that were built since something
ended that their keys name. -/
structure Recorded (d : Device) (device : Nat) (events : List RegistryEvent) : Prop where
  samplers : Lists d.samplers Resource.samplerId? Resource.samplerInfo? device events
  views : Lists d.views Resource.viewId? Resource.viewState? device events
  functions : ∀ key f, d.function? key = some f ↔ BuiltSince device key f events

namespace Recorded

variable {d d' : Device} (h : Recorded d device events)
include h

theorem made_elsewhere {x : Resource} (hx : x.device ≠ device)
    (hlives : ∀ y, Lives (.made x :: events) y ↔ Lives events y ∨ y = x) :
    Recorded d device (.made x :: events) where
  samplers := h.samplers.made_unlisted (fun hdevice => absurd hdevice hx) hlives
  views := h.views.made_unlisted (fun hdevice => absurd hdevice hx) hlives
  functions key f := by rw [h.functions, builtSince_made]

theorem made_sampler {x : Resource} {id : Nat} {info : SamplerInfo} (hdevice : x.device = device)
    (hid : x.samplerId? = some id) (hinfo : x.samplerInfo? = some info) (hview : x.viewId? = none)
    (hfresh : ∀ y, Lives events y → ¬ y.Numbered id)
    (hlives : ∀ y, Lives (.made x :: events) y ↔ Lives events y ∨ y = x) :
    Recorded (d.registerSampler id info) device (.made x :: events) where
  samplers := h.samplers.made_listed hdevice hid hinfo (fun y hy hi => hfresh y hy (.inl hi)) hlives
  views := h.views.made_unlisted (fun _ => hview) hlives
  functions key f := by
    rw [builtSince_made, ← h.functions]
    rfl

theorem made_view {x : Resource} {id : Nat} {state : ViewState} (hdevice : x.device = device)
    (hid : x.viewId? = some id) (hstate : x.viewState? = some state)
    (hsampler : x.samplerId? = none)
    (hfresh : ∀ y, Lives events y → ¬ y.Numbered id)
    (hlives : ∀ y, Lives (.made x :: events) y ↔ Lives events y ∨ y = x) :
    Recorded (d.registerView id state) device (.made x :: events) where
  samplers := h.samplers.made_unlisted (fun _ => hsampler) hlives
  views := h.views.made_listed hdevice hid hstate (fun y hy hi => hfresh y hy (.inr hi)) hlives
  functions key f := by
    rw [builtSince_made, ← h.functions]
    rfl

theorem asked_elsewhere {device' : Nat} (hdevice : device' ≠ device) (key : SamplingKey)
    (request : Option SamplingRequest) (f : SamplingFunction) :
    Recorded d device (.asked device' key request f :: events) where
  samplers := h.samplers.congr lives_asked
  views := h.views.congr lives_asked
  functions key' f' := by simp [h.functions, builtSince_asked, hdevice]

theorem asked {key : SamplingKey} {r : Device.Resolution} (hresolve : d.resolve key = .ok r) :
    Recorded r.device device (.asked device key r.request r.function :: events) where
  samplers := by
    rw [(Device.registry_resolve hresolve).1]
    exact h.samplers.congr lives_asked
  views := by
    rw [(Device.registry_resolve hresolve).2.1]
    exact h.views.congr lives_asked
  functions key' f := by
    rw [builtSince_asked, ← h.functions]
    rcases Device.resolve_cases hresolve with ⟨-, hdevice, hrequest⟩ | ⟨hnone, -, hrequest⟩
    · simp [hdevice, hrequest]
    · rw [Device.function?_resolve hresolve, hrequest]
      by_cases hkey : key = key'
      · subst hkey
        simp [hnone]
      · simp [hkey]

/-- What ends is forgotten, with the functions that were built for it. -/
theorem ended {samplers views : Nat → Bool} {xs : List Resource}
    (hunique : ∀ x y id, Lives events x → Lives events y → x.Numbered id → y.Numbered id → x = y)
    (hxs : ∀ x ∈ xs, Lives events x) (hforgets : Device.Forgets samplers views d d')
    (hsamplers : ∀ id, samplers id = true ↔
      ∃ x ∈ xs, x.device = device ∧ x.samplerId? = some id)
    (hviews : ∀ id, views id = true ↔ ∃ x ∈ xs, x.device = device ∧ x.viewId? = some id) :
    Recorded d' device (xs.map .ended ++ events) where
  samplers := h.samplers.ended
    (fun x y id hx hy hxid hyid => hunique x y id hx hy (.inl hxid) (.inl hyid)) hxs
    hforgets.samplers_eq hsamplers
  views := h.views.ended
    (fun x y id hx hy hxid hyid => hunique x y id hx hy (.inr hxid) (.inr hyid)) hxs
    hforgets.views_eq hviews
  functions key f := by
    rw [builtSince_ended, hforgets.function?_eq, Option.ite_none_left_eq_some, h.functions,
      Bool.or_eq_true, hsamplers, hviews, and_comm]
    refine and_congr_right fun _ => ?_
    simp only [Resource.IsNamedIn]
    grind

end Recorded

/-- A device of which nothing lives and that was asked for nothing has nothing to record. -/
theorem recorded_new (robust : Bool) (builder : Option (SamplingRequest → SamplingFunction))
    (hlives : ∀ x, Lives events x → x.device ≠ device)
    (hasked : ∀ key request f, .asked device key request f ∉ events) :
    Recorded { robust, builder } device events where
  samplers := lists_empty hlives
  views := lists_empty hlives
  functions key f := by
    simp only [Device.function?, List.find?_nil, Option.map_none, reduceCtorEq, false_iff]
    intro hbuilt
    obtain ⟨request, hmem⟩ := exists_asked_of_builtSince hbuilt
    exact hasked key request f hmem

/-! ## All devices -/

theorem getElem?_devices {s : Store} {n : Nat} (hn : n ∈ s.devices) :
    s.devices[n]? = some (s.device n) := by
  obtain ⟨d, hd⟩ := Option.isSome_iff_exists.mp (Std.TreeMap.mem_iff_isSome_getElem?.mp hn)
  rw [device, hd]
  rfl

theorem getElem?_devices_onDevice (s : Store) (n m : Nat) (g : Device → Device) :
    (s.onDevice n g).devices[m]? = if n = m then some (g (s.device n)) else s.devices[m]? := by
  simp only [onDevice, Std.TreeMap.getElem?_insert, Nat.compare_eq_eq]

theorem mem_devices_onDevice {s : Store} {n : Nat} (hn : n ∈ s.devices) (m : Nat)
    (g : Device → Device) : m ∈ (s.onDevice n g).devices ↔ m ∈ s.devices := by
  simp only [onDevice, Std.TreeMap.mem_insert, Nat.compare_eq_eq, or_iff_right_iff_imp]
  rintro rfl
  exact hn

theorem getElem?_devices_sweep (s : Store) (roots : Roots) (n : Nat) :
    (s.sweep roots).devices[n]? = s.devices[n]?.map fun d =>
      (d.dropSamplers (s.alive roots).samplers).dropViews (s.alive roots).views := by
  simp only [sweep, Std.TreeMap.getElem?_map', Option.pmap_eq_map]

/-- All devices have their records.  Numbers were given out once, to devices and to what was made on
them. -/
structure Registered (s : Store) (events : List RegistryEvent) : Prop where
  devices_lt : ∀ n ∈ s.devices, n < s.next
  device_of_made : ∀ x, .made x ∈ events → x.device ∈ s.devices
  number_lt : ∀ x id, .made x ∈ events → x.Numbered id → id < s.next
  unique : ∀ x y id, .made x ∈ events → .made y ∈ events → x.Numbered id → y.Numbered id → x = y
  made_of_ended : ∀ x, .ended x ∈ events → .made x ∈ events
  device_of_asked : ∀ n key request f, .asked n key request f ∈ events → n ∈ s.devices
  recorded : ∀ (n : Nat) d, s.devices[n]? = some d → Recorded d n events

namespace Registered

variable {s s' : Store}

theorem start : Registered {} [] where
  devices_lt n hn := by simp at hn
  device_of_made x hx := absurd hx List.not_mem_nil
  number_lt x _ hx := absurd hx List.not_mem_nil
  unique x _ _ hx := absurd hx List.not_mem_nil
  made_of_ended x hx := absurd hx List.not_mem_nil
  device_of_asked _ _ _ _ h := absurd h List.not_mem_nil
  recorded n d hd := by simp at hd

theorem other (h : Registered s events) (hdevices : s'.devices = s.devices)
    (hnext : s.next ≤ s'.next) : Registered s' events where
  devices_lt n hn := Nat.lt_of_lt_of_le (h.devices_lt n (hdevices ▸ hn)) hnext
  device_of_made x hx := hdevices ▸ h.device_of_made x hx
  number_lt x id hx hid := Nat.lt_of_lt_of_le (h.number_lt x id hx hid) hnext
  unique := h.unique
  made_of_ended := h.made_of_ended
  device_of_asked n key request f hmem := hdevices ▸ h.device_of_asked n key request f hmem
  recorded n d hd := h.recorded n d (hdevices ▸ hd)

/-- A new device has nothing to record. -/
theorem new_device (h : Registered s events) (robust : Bool)
    (builder : Option (SamplingRequest → SamplingFunction)) :
    Registered (s.addDevice { robust, builder }).2 events := by
  have hnew : s.next ∉ s.devices := fun hmem => Nat.lt_irrefl _ (h.devices_lt _ hmem)
  have hmem (n : Nat) : n ∈ (s.addDevice { robust, builder }).2.devices ↔
      s.next = n ∨ n ∈ s.devices := by
    simp only [addDevice, Std.TreeMap.mem_insert, Nat.compare_eq_eq]
  have hnext : (s.addDevice { robust, builder }).2.next = s.next + 1 := rfl
  constructor
  case devices_lt =>
    intro n hn
    rw [hnext]
    rcases (hmem n).mp hn with rfl | hn
    · exact Nat.lt_succ_self _
    · exact Nat.lt_succ_of_lt (h.devices_lt n hn)
  case device_of_made => exact fun x hx => (hmem _).mpr (.inr (h.device_of_made x hx))
  case number_lt => exact fun x id hx hid => Nat.lt_succ_of_lt (h.number_lt x id hx hid)
  case unique => exact h.unique
  case made_of_ended => exact h.made_of_ended
  case device_of_asked =>
    exact fun n key request f hasked =>
      (hmem _).mpr (.inr (h.device_of_asked n key request f hasked))
  case recorded =>
    intro n d hd
    simp only [addDevice, Std.TreeMap.getElem?_insert, Nat.compare_eq_eq] at hd
    split at hd
    case isFalse => exact h.recorded n d hd
    case isTrue hn =>
      subst hn
      obtain rfl := Option.some.inj hd
      refine recorded_new robust builder (fun x hx hdevice => ?_) fun key request f hasked => ?_
      · exact hnew (hdevice ▸ h.device_of_made x hx.1)
      · exact hnew (h.device_of_asked _ key request f hasked)

/-- What is made is registered with its device under a new number. -/
theorem made (h : Registered s events) {x : Resource} {g : Device → Device}
    (hdevice : x.device ∈ s.devices) (hnumber : ∀ id, x.Numbered id ↔ id = s.next)
    (hrecorded : ∀ d, Recorded d x.device events → (∀ y, Lives events y → ¬ y.Numbered s.next) →
      (∀ y, Lives (.made x :: events) y ↔ Lives events y ∨ y = x) →
      Recorded (g d) x.device (.made x :: events)) :
    Registered (s.advance.onDevice x.device g) (.made x :: events) := by
  have hfresh (y : Resource) (hy : .made y ∈ events) : ¬ y.Numbered s.next := fun hid =>
    Nat.lt_irrefl _ (h.number_lt y _ hy hid)
  have hnew : .made x ∉ events := fun hx => hfresh x hx ((hnumber _).mpr rfl)
  have hlives := lives_made hnew h.made_of_ended
  have hmem (n : Nat) : n ∈ (s.advance.onDevice x.device g).devices ↔ n ∈ s.devices :=
    mem_devices_onDevice (s := s.advance) hdevice n g
  have hmade {y : Resource} (hy : .made y ∈ RegistryEvent.made x :: events) :
      y = x ∨ .made y ∈ events := by
    simpa using hy
  constructor
  case devices_lt => exact fun n hn => Nat.lt_succ_of_lt (h.devices_lt n ((hmem n).mp hn))
  case device_of_made =>
    intro y hy
    rw [hmem]
    rcases hmade hy with rfl | hy
    · exact hdevice
    · exact h.device_of_made y hy
  case number_lt =>
    intro y id hy hid
    change id < s.next + 1
    rcases hmade hy with rfl | hy
    · rw [(hnumber id).mp hid]
      exact Nat.lt_succ_self _
    · exact Nat.lt_succ_of_lt (h.number_lt y id hy hid)
  case unique =>
    intro y z id hy hz hyid hzid
    rcases hmade hy with hyx | hy <;> rcases hmade hz with hzx | hz
    · rw [hyx, hzx]
    · exact absurd ((hnumber id).mp (hyx ▸ hyid) ▸ hzid) (hfresh z hz)
    · exact absurd ((hnumber id).mp (hzx ▸ hzid) ▸ hyid) (hfresh y hy)
    · exact h.unique y z id hy hz hyid hzid
  case made_of_ended =>
    intro y hy
    refine List.mem_cons_of_mem _ (h.made_of_ended y ?_)
    simpa using hy
  case device_of_asked =>
    intro n key request f hasked
    rw [hmem]
    refine h.device_of_asked n key request f ?_
    simpa using hasked
  case recorded =>
    intro n d hd
    rw [getElem?_devices_onDevice] at hd
    split at hd
    case isFalse hn => exact (h.recorded n d hd).made_elsewhere hn hlives
    case isTrue hn =>
      subst hn
      obtain rfl := Option.some.inj hd
      exact hrecorded _ (h.recorded _ _ (getElem?_devices hdevice)) (fun y hy => hfresh y hy.1)
        hlives

theorem asked (h : Registered s events) {n : Nat} (hdevice : n ∈ s.devices) {key : SamplingKey}
    {r : Device.Resolution} (hresolve : (s.device n).resolve key = .ok r) :
    Registered (s.onDevice n fun _ => r.device)
      (.asked n key r.request r.function :: events) := by
  have hmem (m : Nat) : m ∈ (s.onDevice n fun _ => r.device).devices ↔ m ∈ s.devices :=
    mem_devices_onDevice hdevice m _
  constructor
  case devices_lt => exact fun m hm => h.devices_lt m ((hmem m).mp hm)
  case device_of_made => exact fun x hx => (hmem _).mpr (h.device_of_made x (by simpa using hx))
  case number_lt => exact fun x id hx => h.number_lt x id (by simpa using hx)
  case unique => exact fun x y id hx hy => h.unique x y id (by simpa using hx) (by simpa using hy)
  case made_of_ended =>
    exact fun x hx => List.mem_cons_of_mem _ (h.made_of_ended x (by simpa using hx))
  case device_of_asked =>
    intro m key' request f hasked
    rw [hmem]
    rcases List.mem_cons.mp hasked with heq | hasked
    · cases heq
      exact hdevice
    · exact h.device_of_asked m key' request f hasked
  case recorded =>
    intro m d hd
    rw [getElem?_devices_onDevice] at hd
    split at hd
    case isFalse hm => exact (h.recorded m d hd).asked_elsewhere hm key r.request r.function
    case isTrue hm =>
      subst hm
      obtain rfl := Option.some.inj hd
      exact (h.recorded _ _ (getElem?_devices hdevice)).asked hresolve

theorem lives_unique (h : Registered s events) (x y : Resource) (id : Nat) (hx : Lives events x)
    (hy : Lives events y) (hxid : x.Numbered id) (hyid : y.Numbered id) : x = y :=
  h.unique x y id hx.1 hy.1 hxid hyid

/-- What a device forgets when some things end is what ends of it. -/
theorem forgets (h : Registered s events) {roots : Roots} {xs : List Resource}
    (hends : s.Ends events roots xs) {n : Nat} {d : Device} (hd : s.devices[n]? = some d) :
    ∃ samplers views d', (s.sweep roots).devices[n]? = some d' ∧
      Device.Forgets samplers views d d' ∧
      (∀ id, samplers id = true ↔ ∃ x ∈ xs, x.device = n ∧ x.samplerId? = some id) ∧
      ∀ id, views id = true ↔ ∃ x ∈ xs, x.device = n ∧ x.viewId? = some id := by
  have hrecorded := h.recorded n d hd
  refine ⟨_, _, _, ?_, Device.Forgets.drop d (s.alive roots).samplers (s.alive roots).views, ?_, ?_⟩
  · rw [getElem?_devices_sweep, hd]
    rfl
  · refine hrecorded.samplers.forgotten_iff ?_ ?_ hends.lives hends.samplers
    · exact fun x y id hx hy hxid hyid =>
        h.lives_unique x y id hx hy (.inl hxid) (.inl hyid)
    · intro x id hid
      cases x with
      | sampler y => rfl
      | _ => cases hid
  · refine hrecorded.views.forgotten_iff ?_ ?_ hends.lives hends.views
    · exact fun x y id hx hy hxid hyid =>
        h.lives_unique x y id hx hy (.inr hxid) (.inr hyid)
    · intro x id hid
      cases x with
      | view v | bufferView v => rfl
      | _ => cases hid

theorem ended (h : Registered s events) {roots : Roots} {xs : List Resource}
    (hends : s.Ends events roots xs) : Registered (s.sweep roots) (xs.map .ended ++ events) := by
  have hmem (n : Nat) : n ∈ (s.sweep roots).devices ↔ n ∈ s.devices := by
    rw [Std.TreeMap.mem_iff_isSome_getElem?, Std.TreeMap.mem_iff_isSome_getElem?,
      getElem?_devices_sweep, Option.isSome_map]
  have hmade {x : Resource} (hx : .made x ∈ xs.map RegistryEvent.ended ++ events) :
      .made x ∈ events := by
    simpa using hx
  constructor
  case devices_lt => exact fun n hn => h.devices_lt n ((hmem n).mp hn)
  case device_of_made => exact fun x hx => (hmem _).mpr (h.device_of_made x (hmade hx))
  case number_lt => exact fun x id hx => h.number_lt x id (hmade hx)
  case unique => exact fun x y id hx hy => h.unique x y id (hmade hx) (hmade hy)
  case made_of_ended =>
    intro x hx
    refine List.mem_append_right _ ?_
    rcases List.mem_append.mp hx with hx | hx
    · obtain ⟨y, hy, heq⟩ := List.mem_map.mp hx
      cases heq
      exact (hends.lives x hy).1
    · exact h.made_of_ended x hx
  case device_of_asked =>
    intro n key request f hasked
    exact (hmem n).mpr (h.device_of_asked n key request f (by simpa using hasked))
  case recorded =>
    intro n d' hd'
    rw [getElem?_devices_sweep, Option.map_eq_some_iff] at hd'
    obtain ⟨d, hd, rfl⟩ := hd'
    obtain ⟨samplers, views, d', hd', hforgets, hsamplers, hviews⟩ := h.forgets hends hd
    rw [getElem?_devices_sweep, hd, Option.map_some, Option.some.injEq] at hd'
    rw [hd']
    exact (h.recorded n d hd).ended h.lives_unique hends.lives hforgets hsamplers hviews

end Registered

theorem createSampler_eq_ok {s : Store} {n : Nat} {info : SamplerInfo} {made : Made Sampler}
    (h : s.createSampler n info = .ok made) : made.value.id = s.next ∧ made.value.device = n ∧
      made.store = s.advance.onDevice n
        (·.registerSampler made.value.id made.value.info) := by
  simp only [createSampler, bind_eq_ok, mapError_eq_ok, pure_eq_ok] at h
  obtain ⟨-, -, rfl⟩ := h
  exact ⟨rfl, rfl, rfl⟩

theorem createView_eq_ok {s : Store} {image : Image} {info : ViewInfo} {made : Made ImageView}
    (h : s.createView image info = .ok made) : made.value.id = s.next ∧ made.value.image = image ∧
      made.store = s.advance.onDevice image.device
        (·.registerView made.value.id made.value.state) := by
  simp only [createView, ImageView.create, bind_eq_ok, pure_eq_ok] at h
  obtain ⟨-, ⟨-, -, rfl⟩, rfl⟩ := h
  exact ⟨rfl, rfl, rfl⟩

theorem createBufferView_eq_ok {s : Store} {buffer : Buffer} {format : Format} {range : Span}
    {made : Made BufferView} (h : s.createBufferView buffer format range = .ok made) :
    made.value.id = s.next ∧ made.value.buffer = buffer ∧
      made.store = s.advance.onDevice buffer.device
        (·.registerView made.value.id made.value.state) := by
  simp only [createBufferView, BufferView.create, bind_eq_ok, pure_eq_ok] at h
  obtain ⟨-, ⟨-, -, rfl⟩, rfl⟩ := h
  exact ⟨rfl, rfl, rfl⟩

/-- Registries are right after every history. -/
theorem registered_of_history {s : Store} (h : History s events) : Registered s events := by
  induction h with
  | start => exact .start
  | device _ robust builder ih => exact ih.new_device robust builder
  | sampler _ hdevice hmade ih =>
    obtain ⟨hid, rfl, hstore⟩ := createSampler_eq_ok hmade
    rw [hstore]
    exact ih.made (x := .sampler _) hdevice (fun id => hid ▸ Resource.numbered_sampler)
      fun d hd hfresh hlives => hd.made_sampler rfl rfl rfl rfl (hid ▸ hfresh) hlives
  | view _ hdevice hmade ih =>
    obtain ⟨hid, rfl, hstore⟩ := createView_eq_ok hmade
    rw [hstore]
    exact ih.made (x := .view _) hdevice (fun id => hid ▸ Resource.numbered_view)
      fun d hd hfresh hlives => hd.made_view rfl rfl rfl rfl (hid ▸ hfresh) hlives
  | bufferView _ hdevice hmade ih =>
    obtain ⟨hid, rfl, hstore⟩ := createBufferView_eq_ok hmade
    rw [hstore]
    exact ih.made (x := .bufferView _) hdevice (fun id => hid ▸ Resource.numbered_bufferView)
      fun d hd hfresh hlives => hd.made_view rfl rfl rfl rfl (hid ▸ hfresh) hlives
  | ended _ hends ih => exact ih.ended hends
  | asked _ hdevice hresolve ih => exact ih.asked hdevice hresolve
  | other _ hdevices hnext ih => exact ih.other hdevices hnext

/-- **Devices record what lives.**  After every history a device knows a sampler by an identifier if
and only if a sampler of it with that identifier lives, and a view if and only if an image view or a
buffer view of it does; no two views, of either kind, ever have one identifier.  If the device has a
builder, asking for a key calls it, with what is known under the identifiers of the key, if and only
if no function was built for the key since something of the device that the key names ended; else
the function is returned that was built then.  When things end, exactly those functions are given
up whose keys name some of them. -/
theorem devices_record_what_lives {s : Store} (h : History s events) {n : Nat} {d : Device}
    (hd : s.devices[n]? = some d) :
    (∀ id info, d.samplers[id]? = some info ↔
      ∃ y : Sampler, Lives events (.sampler y) ∧ y.device = n ∧ y.id = id ∧ y.info = info) ∧
    (∀ id state, d.views[id]? = some state ↔
      ∃ x : Resource, Lives events x ∧ x.device = n ∧ x.viewId? = some id ∧
        x.viewState? = some state) ∧
    (∀ (x y : Resource) id, .made x ∈ events → .made y ∈ events → x.viewId? = some id →
      y.viewId? = some id → x = y) ∧
    (∀ build, d.builder = some build → ∀ key : SamplingKey,
      ((∀ f, ¬ BuiltSince n key f events) → ∃ request d',
        request = ⟨key, d.samplers[key.sampler]?, d.views[key.view]?⟩ ∧
          d.resolve key = .ok ⟨build request, d', some request⟩) ∧
      ∀ f, BuiltSince n key f events → ∃ d', d.resolve key = .ok ⟨f, d', none⟩) ∧
    ∀ roots xs, s.Ends events roots xs → ∃ d', (s.sweep roots).devices[n]? = some d' ∧
      d'.functions = d.functions.filter fun e => ∀ x ∈ xs, x.device = n → ¬ x.IsNamedIn e.1 := by
  have hregistered := registered_of_history h
  have hrecorded := hregistered.recorded n d hd
  refine ⟨?_, hrecorded.views, ?_, ?_, ?_⟩
  · intro id info
    rw [hrecorded.samplers]
    constructor
    · rintro ⟨x, hx, hdevice, hid, hinfo⟩
      cases x with
      | sampler y => exact ⟨y, hx, hdevice, Option.some.inj hid, Option.some.inj hinfo⟩
      | _ => cases hid
    · rintro ⟨y, hy, rfl, rfl, rfl⟩
      exact ⟨.sampler y, hy, rfl, rfl, rfl⟩
  · exact fun x y id hx hy hxid hyid => hregistered.unique x y id hx hy (.inr hxid) (.inr hyid)
  · intro build hbuild key
    constructor
    · intro hnever
      have hnone : d.function? key = none := Option.eq_none_iff_forall_ne_some.mpr fun f hf =>
        hnever f ((hrecorded.functions key f).mp hf)
      exact ⟨_, _, rfl, Device.resolve_of_builder hnone hbuild⟩
    · exact fun f hf => ⟨d, Device.resolve_of_function? ((hrecorded.functions key f).mpr hf)⟩
  · intro roots xs hends
    obtain ⟨samplers, views, d', hd', hforgets, hsamplers, hviews⟩ := hregistered.forgets hends hd
    refine ⟨d', hd', hforgets.functions_eq.trans (List.filter_congr ?_)⟩
    intro e _
    rw [Bool.eq_iff_iff, Bool.and_eq_true, Bool.not_eq_true', Bool.not_eq_true',
      ← Bool.not_eq_true, ← Bool.not_eq_true, hsamplers, hviews, decide_eq_true_eq]
    simp only [Resource.IsNamedIn]
    grind

/-- A device whose functions depend on whether there is a sampler, after it was asked for a function
with a sampler. -/
def askedOnce (key : SamplingKey) : Store :=
  let device : Device := {
    builder := some fun request => .copyInputs (if request.sampler.isSome then 0 else 4)
    samplers := Std.TreeMap.empty.insert 2 {}
    functions := [(key, .copyInputs 0)] }
  { next := 3, devices := Std.TreeMap.empty.insert 1 device }

/-- Asked again the device returns the same function, and when the sampler ends it gives it up. -/
theorem ended_sampler_is_forgotten :
    let y : Sampler := ⟨2, 1, {}⟩
    let key : SamplingKey := ⟨⟨.plain, .implicit, 0⟩, 2, 0⟩
    History (askedOnce key)
        [.asked 1 key (some ⟨key, some y.info, none⟩) (.copyInputs 0), .made (.sampler y)] ∧
      (∃ d, ((askedOnce key).device 1).resolve key = .ok ⟨.copyInputs 0, d, none⟩) ∧
      ∃ d, ((askedOnce key).sweep {}).devices[1]? = some d ∧ d.functions = [] := by
  intro y key
  have hdevice := History.start.device true
    (some fun request => .copyInputs (if request.sampler.isSome then 0 else 4))
  have hsampler := @History.sampler _ _ hdevice 1 (by decide) {} _ rfl
  have hasked : History (askedOnce key)
      [.asked 1 key (some ⟨key, some y.info, none⟩) (.copyInputs 0), .made (.sampler y)] :=
    @History.asked _ _ hsampler 1 (by decide) key _ rfl
  have hlives (x : Resource) : Lives [.asked 1 key (some ⟨key, some y.info, none⟩) (.copyInputs 0),
      .made (.sampler y)] x ↔ x = .sampler y := by
    simp [Lives]
  have hends : (askedOnce key).Ends
      [.asked 1 key (some ⟨key, some y.info, none⟩) (.copyInputs 0), .made (.sampler y)] {}
      [.sampler y] := by
    refine ⟨by simp [Lives], ?_, ?_⟩
    all_goals
      intro id
      simp [hlives, alive, Roots.resources, Roots.liveSets, Roots.liveLayouts]
  obtain ⟨-, -, -, hresolve, hswept⟩ :=
    devices_record_what_lives hasked (n := 1) (d := (askedOnce key).device 1) rfl
  refine ⟨hasked, (hresolve _ rfl key).2 _ (.built _ _), ?_⟩
  obtain ⟨d, hd, hfunctions⟩ := hswept {} [.sampler y] hends
  exact ⟨d, hd, hfunctions.trans (by decide)⟩

end Store

end HostGpu
