import HostGpu.Device
import HostGpu.Store.Lifetime

/-!
# What devices keep

A device that forgets some samplers and views keeps its other records, and all sampling functions
whose keys name none of those that it forgets (`Device.Forgets`).  It answers a key by the function
that it keeps, or else by one that is built and kept from then on.
-/

namespace HostGpu

namespace Device

variable {d d' d'' : Device}

/-! ## Forgetting -/

/-- Samplers and views with some identifiers are forgotten, with the functions built for them, and
nothing else. -/
structure Forgets (samplers views : Nat → Bool) (d d' : Device) : Prop where
  samplers_eq : ∀ id : Nat, d'.samplers[id]? = if samplers id then none else d.samplers[id]?
  views_eq : ∀ id : Nat, d'.views[id]? = if views id then none else d.views[id]?
  functions_eq : d'.functions =
    d.functions.filter fun e => !samplers e.1.sampler && !views e.1.view
  builder_eq : d'.builder = d.builder

namespace Forgets

variable {samplers samplers' views views' : Nat → Bool}

theorem congr (h : Forgets samplers views d d') (hsamplers : ∀ id, samplers id = samplers' id)
    (hviews : ∀ id, views id = views' id) : Forgets samplers' views' d d' := by
  rwa [← funext hsamplers, ← funext hviews]

theorem nothing (d : Device) : Forgets (fun _ => false) (fun _ => false) d d where
  samplers_eq _ := rfl
  views_eq _ := rfl
  functions_eq := (List.filter_eq_self.mpr fun _ _ => rfl).symm
  builder_eq := rfl

protected theorem trans (h : Forgets samplers views d d')
    (h' : Forgets samplers' views' d' d'') :
    Forgets (fun id => samplers id || samplers' id) (fun id => views id || views' id) d d'' where
  samplers_eq id := by
    rw [h'.samplers_eq, h.samplers_eq]
    cases samplers id <;> cases samplers' id <;> rfl
  views_eq id := by
    rw [h'.views_eq, h.views_eq]
    cases views id <;> cases views' id <;> rfl
  functions_eq := by
    rw [h'.functions_eq, h.functions_eq, List.filter_filter]
    refine List.filter_congr ?_
    intro e _
    rw [Bool.not_or, Bool.not_or]
    ac_rfl
  builder_eq := h'.builder_eq.trans h.builder_eq

theorem unregisterSampler (d : Device) (id : Nat) :
    Forgets (id == ·) (fun _ => false) d (d.unregisterSampler id) where
  samplers_eq i := by simp [Device.unregisterSampler, Std.TreeMap.getElem?_erase]
  views_eq i := rfl
  functions_eq := by
    refine List.filter_congr ?_
    intro e _
    rw [Bool.eq_iff_iff]
    simp [eq_comm (a := id)]
  builder_eq := rfl

theorem unregisterView (d : Device) (id : Nat) :
    Forgets (fun _ => false) (id == ·) d (d.unregisterView id) where
  samplers_eq i := rfl
  views_eq i := by simp [Device.unregisterView, Std.TreeMap.getElem?_erase]
  functions_eq := by
    refine List.filter_congr ?_
    intro e _
    rw [Bool.eq_iff_iff]
    simp [eq_comm (a := id)]
  builder_eq := rfl

/-- Of a list of things those are forgotten that do not live. -/
theorem foldl {forget : Device → Nat → Device} {samplers views : Nat → Nat → Bool}
    (hforget : ∀ d id, Forgets (samplers id) (views id) d (forget d id)) (alive ids : List Nat)
    (d : Device) :
    Forgets (fun i => ids.any fun id => !alive.contains id && samplers id i)
      (fun i => ids.any fun id => !alive.contains id && views id i) d
      (ids.foldl (fun d id => if alive.contains id then d else forget d id) d) := by
  induction ids generalizing d with
  | nil => exact nothing d
  | cons id ids ih =>
    rw [List.foldl_cons]
    cases hid : alive.contains id with
    | true =>
      refine (ih d).congr ?_ ?_ <;> intro i <;>
        rw [List.any_cons, hid, Bool.not_true, Bool.false_and, Bool.false_or]
    | false =>
      refine ((hforget d id).trans (ih _)).congr ?_ ?_ <;> intro i <;>
        rw [List.any_cons, hid, Bool.not_false, Bool.true_and]

theorem dropSamplers (d : Device) (alive : List Nat) :
    Forgets (fun id => d.samplers.contains id && !alive.contains id) (fun _ => false) d
      (d.dropSamplers alive) := by
  refine (foldl unregisterSampler alive d.samplers.keys d).congr ?_ (by simp)
  intro id
  rw [Bool.eq_iff_iff]
  simp [Std.TreeMap.mem_keys]

theorem dropViews (d : Device) (alive : List Nat) :
    Forgets (fun _ => false) (fun id => d.views.contains id && !alive.contains id) d
      (d.dropViews alive) := by
  refine (foldl unregisterView alive d.views.keys d).congr (by simp) ?_
  intro id
  rw [Bool.eq_iff_iff]
  simp [Std.TreeMap.mem_keys]

/-- What a device forgets when some things end and others live. -/
theorem drop (d : Device) (samplers views : List Nat) :
    Forgets (fun id => d.samplers.contains id && !samplers.contains id)
      (fun id => d.views.contains id && !views.contains id) d
      ((d.dropSamplers samplers).dropViews views) := by
  have hviews (id : Nat) : (d.dropSamplers samplers).views.contains id = d.views.contains id := by
    rw [Std.TreeMap.contains_eq_isSome_getElem?, Std.TreeMap.contains_eq_isSome_getElem?,
      (dropSamplers d samplers).views_eq]
    rfl
  exact ((dropSamplers d samplers).trans (dropViews _ views)).congr (by simp) (by simp [hviews])

/-- The functions that are kept are those for other keys. -/
theorem function?_eq (h : Forgets samplers views d d') (key : SamplingKey) :
    d'.function? key =
      if samplers key.sampler || views key.view then none else d.function? key := by
  rw [function?, h.functions_eq, List.find?_filter]
  cases hforgotten : samplers key.sampler || views key.view with
  | true =>
    rw [if_pos rfl, Option.map_eq_none_iff, List.find?_eq_none]
    simp only [Bool.or_eq_true] at hforgotten
    rintro e - he
    simp only [Bool.and_eq_true, Bool.not_eq_true', decide_eq_true_eq] at he
    obtain ⟨⟨hsampler, hview⟩, rfl⟩ := he
    simp [hsampler, hview] at hforgotten
  | false =>
    rw [if_neg Bool.false_ne_true, function?]
    congr 2
    funext e
    simp only [Bool.or_eq_false_iff] at hforgotten
    by_cases hkey : e.1 = key
    · simp [hkey, hforgotten]
    · simp [hkey]

end Forgets

/-! ## Asking -/

variable {key : SamplingKey} {r : Resolution}

/-- A device that is asked knows the function or builds one, which it keeps. -/
theorem resolve_cases (h : d.resolve key = .ok r) :
    d.function? key = some r.function ∧ r.device = d ∧ r.request = none ∨
      d.function? key = none ∧
        r.device = { d with functions := d.functions ++ [(key, r.function)] } ∧
        r.request = some (d.request key) := by
  rw [resolve] at h
  split at h
  case h_1 f hf =>
    obtain rfl := Except.ok.inj h
    exact .inl ⟨hf, rfl, rfl⟩
  case h_2 hnone =>
    split at h
    case h_1 => cases h
    case h_2 build hbuild =>
      obtain rfl := Except.ok.inj h
      exact .inr ⟨hnone, rfl, rfl⟩

/-- A function that is kept is returned. -/
theorem resolve_of_function? {f : SamplingFunction} (h : d.function? key = some f) :
    d.resolve key = .ok ⟨f, d, none⟩ := by
  simp only [resolve, h]

/-- Other functions are built. -/
theorem resolve_of_builder {build : SamplingRequest → SamplingFunction}
    (h : d.function? key = none) (hbuild : d.builder = some build) :
    d.resolve key = .ok ⟨build (d.request key),
      { d with functions := d.functions ++ [(key, build (d.request key))] },
      some (d.request key)⟩ := by
  simp only [resolve, h, hbuild]

theorem registry_resolve (h : d.resolve key = .ok r) :
    r.device.samplers = d.samplers ∧ r.device.views = d.views ∧ r.device.builder = d.builder := by
  rcases resolve_cases h with ⟨-, hdevice, -⟩ | ⟨-, hdevice, -⟩
  all_goals
    rw [hdevice]
    exact ⟨rfl, rfl, rfl⟩

/-- Afterwards the device keeps the function that it returned. -/
theorem function?_resolve (h : d.resolve key = .ok r) (key' : SamplingKey) :
    r.device.function? key' = if key = key' then some r.function else d.function? key' := by
  rcases resolve_cases h with ⟨hkept, hdevice, -⟩ | ⟨hnone, hdevice, -⟩
  · rw [hdevice]
    split
    case isTrue hkey => rw [← hkey, hkept]
    case isFalse => rfl
  · rw [hdevice, function?, List.find?_append]
    split
    case isTrue hkey =>
      rw [← hkey, Option.map_eq_none_iff.mp hnone]
      simp
    case isFalse hkey => simp [function?, hkey]

end Device

end HostGpu
