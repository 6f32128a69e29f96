import HostGpu.Proofs.Execution.ImageAccess
import HostGpu.Proofs.Execution.LaneLocal.Values

/-!
# Texels lane by lane

A lane of a texel pointer is computed from the same lane of the coordinates, and what it loads
depends on that lane alone.  Stores and atomic additions go to memory that all lanes share: they
are the same in both runs where both have the same lanes store, and each of these counts.
-/

namespace HostGpu

open Lanes Outcome

variable {on : Lane → Prop}

/-! ## Accesses of lanes -/

namespace LanePointer

variable {p p' : LanePointer} {n : Nat} {mask mask' value value' : WordLanes} {rule : BoundsRule}

namespace AgreeOn

variable (h : p.AgreeOn on p')
include h

theorem advance {d d' : WordLanes} (hd : d.AgreeOn on d') :
    (p.advance d).AgreeOn on (p'.advance d') := ⟨h.base, h.limit, h.offsets.zipWith hd _⟩

variable {l : Lane} (hl : on l)
include hl

theorem distance : p.distance l = p'.distance l := by
  rw [LanePointer.distance, LanePointer.distance, h.offsets l hl]

theorem place : p.place l = p'.place l := by
  rw [LanePointer.place, LanePointer.place, h.base, h.distance hl]

theorem makes (hmask : mask.get l ≠ 0 ↔ mask'.get l ≠ 0) :
    p.makes n mask l = p'.makes n mask' l := by
  rw [Bool.eq_iff_iff, makes_iff, makes_iff, hmask, laneInBounds, laneInBounds, h.distance hl,
    h.limit]

end AgreeOn

/-- Atomic additions are the same if only lanes that count are on. -/
theorem AgreeOn.atomicAdd (h : p.AgreeOn on p') (m : Memory) (hmask : ∀ l, mask.get l ≠ 0 → on l)
    (hvalue : value.AgreeOn on value') : p.atomicAdd m value mask = p'.atomicAdd m value' mask := by
  rw [LanePointer.atomicAdd, LanePointer.atomicAdd]
  congr 1
  funext before l
  obtain ⟨previous, m⟩ := before
  rw [addLane_eq, addLane_eq]
  by_cases hon : mask.get l = 0
  · rw [if_neg (by simp [LanePointer.makes, hon]), if_neg (by simp [LanePointer.makes, hon])]
  · have hl := hmask l hon
    rw [h.makes hl Iff.rfl, h.place hl, hvalue l hl]

variable (hrule : rule ≠ .unchecked) (h : p.AgreeOn on p')
include hrule h

theorem load_agree (m : Memory) (hmask : ∀ l, on l → mask.get l ≠ 0)
    (hmask' : ∀ l, on l → mask'.get l ≠ 0) :
    (p.load m n mask rule).AgreeOn on (p'.load m n mask' rule) := by
  intro l hl
  have hmakes : p.makes n mask l = p'.makes n mask' l :=
    h.makes hl (iff_of_true (hmask l hl) (hmask' l hl))
  rw [get_load hrule, get_load hrule, hmakes, h.place hl]

/-- Stores are the same if only lanes that count are on. -/
theorem store_congr (m : Memory) (hmask : ∀ l, mask.get l ≠ 0 → on l)
    (hvalue : value.AgreeOn on value') :
    p.store m n value mask rule = p'.store m n value' mask rule := by
  rw [store, store]
  congr 1
  funext m l
  rw [storeLane_eq hrule, storeLane_eq hrule]
  by_cases hon : mask.get l = 0
  · rw [if_neg (by simp [LanePointer.makes, hon]), if_neg (by simp [LanePointer.makes, hon])]
  · have hl := hmask l hon
    rw [h.makes hl Iff.rfl, h.place hl, hvalue l hl]

end LanePointer

/-! ## Accesses of texel pointers -/

namespace Execution

open Spirv Shader

variable {P : SamplingFunction → Prop}

namespace TexelPointer

variable {p p' : TexelPointer} {mask mask' value value' : WordLanes} {rule : BoundsRule}

namespace AgreeOn

variable (h : p.AgreeOn on p')
include h

theorem advance (bytes : Nat) : (p.advance bytes).AgreeOn on (p'.advance bytes) :=
  ⟨h.block, h.lanes.advance (.refl _)⟩

theorem memory (blocks : BlockTable) : p.memory blocks = p'.memory blocks := by
  rw [TexelPointer.memory, TexelPointer.memory, h.block]

theorem putMemory (blocks : BlockTable) (m : Memory) :
    p.putMemory blocks m = p'.putMemory blocks m := by
  rw [TexelPointer.putMemory, TexelPointer.putMemory, h.block]

theorem atomicAdd (blocks : BlockTable) (hmask : ∀ l, mask.get l ≠ 0 → on l)
    (hvalue : value.AgreeOn on value') :
    p.atomicAdd blocks value mask = p'.atomicAdd blocks value' mask := by
  rw [TexelPointer.atomicAdd, TexelPointer.atomicAdd, h.memory,
    h.lanes.atomicAdd _ hmask hvalue]
  dsimp only
  rw [h.putMemory]

end AgreeOn

variable (hrule : rule ≠ .unchecked)
include hrule

theorem load_agree (h : p.AgreeOn on p') (blocks : BlockTable) (n : Nat)
    (hmask : ∀ l, on l → mask.get l ≠ 0) (hmask' : ∀ l, on l → mask'.get l ≠ 0) :
    (p.load blocks n mask rule).AgreeOn on (p'.load blocks n mask' rule) := by
  rw [load, load, h.memory]
  exact LanePointer.load_agree hrule h.lanes _ hmask hmask'

theorem loadWords_agree (h : p.AgreeOn on p') (blocks : BlockTable)
    (hmask : ∀ l, on l → mask.get l ≠ 0) (hmask' : ∀ l, on l → mask'.get l ≠ 0)
    (sizes : List Nat) :
    RowsAgree on (p.loadWords blocks mask rule sizes) (p'.loadWords blocks mask' rule sizes) := by
  induction sizes generalizing p p' with
  | nil => exact .nil
  | cons n rest ih =>
    exact .cons (load_agree hrule h blocks n hmask hmask') (ih (h.advance n))

theorem store_congr (h : p.AgreeOn on p') (blocks : BlockTable) (n : Nat)
    (hmask : ∀ l, mask.get l ≠ 0 → on l) (hvalue : value.AgreeOn on value') :
    p.store blocks n value mask rule = p'.store blocks n value' mask rule := by
  rw [store, store, h.memory, LanePointer.store_congr hrule h.lanes _ hmask hvalue, h.putMemory]

theorem storeWords_congr (h : p.AgreeOn on p') (blocks : BlockTable)
    (hmask : ∀ l, mask.get l ≠ 0 → on l) (sizes : List Nat) {words words' : List WordLanes}
    (hwords : RowsAgree on words words') :
    p.storeWords blocks mask rule sizes words = p'.storeWords blocks mask rule sizes words' := by
  induction hwords generalizing p p' blocks sizes with
  | nil => cases sizes <;> rfl
  | cons hw _ ih =>
    cases sizes with
    | nil => rfl
    | cons n sizes =>
      rw [storeWords, storeWords, store_congr hrule h blocks n hmask hw]
      exact ih (h.advance n) _ sizes

end TexelPointer

/-! ## Texels in lanes -/

/-- What a place of a row holds in a lane, or else zero. -/
theorem getD_get_eq {r r' : List WordLanes} (h : RowsAgree on r r') {l : Lane} (hl : on l)
    (n : Nat) : (r[n]?.getD (.splat 0)).get l = (r'[n]?.getD (.splat 0)).get l := by
  rw [← Option.getD_map (Lanes.get · l), ← Option.getD_map (Lanes.get · l),
    map_eq_of_rel (RowsAgree.getElem? h n) fun _ _ hv => hv l hl]

theorem ofChannels_agree {r r' : List WordLanes} (h : RowsAgree on r r') :
    (Texel.ofChannels r).AgreeOn on (Texel.ofChannels r') :=
  .ofFn fun l hl => by simp only [getD_get_eq h hl]

theorem ofWords_agree {r r' : List WordLanes} (h : RowsAgree on r r') :
    (PackedTexel.ofWords r).AgreeOn on (PackedTexel.ofWords r') :=
  .ofFn fun l hl => by simp only [getD_get_eq h hl]

theorem channels_agree {t t' : Lanes Texel} (h : t.AgreeOn on t') :
    RowsAgree on (Texel.channels t) (Texel.channels t') :=
  .cons (h.map _) (.cons (h.map _) (.cons (h.map _) (.cons (h.map _) .nil)))

theorem words_agree {t t' : Lanes PackedTexel} (h : t.AgreeOn on t') :
    RowsAgree on (PackedTexel.words t) (PackedTexel.words t') :=
  .cons (h.map _) (.cons (h.map _) (.cons (h.map _) (.cons (h.map _) .nil)))

/-! ## Addresses -/

/-- Positions in the window that agree, of one view. -/
structure SubpassPosition.AgreeOn (on : Lane → Prop) (p p' : SubpassPosition) : Prop where
  x : p.x.AgreeOn on p'.x
  y : p.y.AgreeOn on p'.y
  view : p.view = p'.view

/-- Coordinates that agree, in the same kind of image. -/
structure TexelCoordinates.AgreeOn (on : Lane → Prop) (c c' : TexelCoordinates) : Prop where
  components : RowsAgree on c.components c'.components
  arrayed : c.arrayed = c'.arrayed
  cube : c.cube = c'.cube
  sample : Option.Rel (Lanes.AgreeOn on) c.sample c'.sample
  subpass : Option.Rel (SubpassPosition.AgreeOn on) c.subpass c'.subpass

namespace TexelCoordinates.AgreeOn

variable {c c' : TexelCoordinates} (h : TexelCoordinates.AgreeOn on c c')
include h

theorem dimensions : c.dimensions = c'.dimensions := by
  rw [TexelCoordinates.dimensions, TexelCoordinates.dimensions, h.components.length_eq, h.arrayed]

/-- A lane that counts has the same position in both. -/
theorem position {l : Lane} (hl : on l) : c.position l = c'.position l := by
  have hcomponent : ∀ n, c.component l n = c'.component l n := fun n =>
    elim_eq_of_rel (RowsAgree.getElem? h.components n) 0 fun _ _ hv => hv l hl
  have hsample : c.sample.map (·.get l) = c'.sample.map (·.get l) :=
    map_eq_of_rel h.sample fun _ _ hv => hv l hl
  have hx : c.subpass.elim 0 (·.x.get l) = c'.subpass.elim 0 (·.x.get l) :=
    elim_eq_of_rel h.subpass 0 fun _ _ hp => hp.x l hl
  have hy : c.subpass.elim 0 (·.y.get l) = c'.subpass.elim 0 (·.y.get l) :=
    elim_eq_of_rel h.subpass 0 fun _ _ hp => hp.y l hl
  have hview : c.subpass.map (·.view) = c'.subpass.map (·.view) :=
    map_eq_of_rel h.subpass fun _ _ hp => hp.view
  simp only [TexelCoordinates.position, hcomponent, h.dimensions, h.arrayed, h.cube, hsample, hx,
    hy, hview]

theorem offsets (layout : TexelLayout) (texelSize : UInt32) (rule : BoundsRule) :
    Alike (Lanes.AgreeOn on) (c.offsets layout texelSize rule)
      (c'.offsets layout texelSize rule) := by
  have hempty : c.components.isEmpty = c'.components.isEmpty := by
    rw [Bool.eq_iff_iff, List.isEmpty_iff_length_eq_zero, List.isEmpty_iff_length_eq_zero,
      h.components.length_eq]
  rw [TexelCoordinates.offsets, TexelCoordinates.offsets, hempty]
  split
  · exact .error _
  · exact .ok (.ofFn fun l hl => by rw [h.position hl])

end TexelCoordinates.AgreeOn

namespace Environment

variable {e : Environment} {x y mask : WordLanes} {s s' : State}
  {M : Machine → Machine → Prop} {T : Target → Target → Prop}

theorem samples_alike (e : Environment) (x y mask : WordLanes) (hs : s.Related on M T s')
    (id : Option Nat) :
    Alike (Option.Rel (Lanes.AgreeOn on)) (e.samples s id) ((e.moved x y mask).samples s' id) := by
  cases id with
  | none => exact .ok .none
  | some id =>
    refine (operand_alike e x y mask hs id).bind fun o o' ho => ?_
    rw [ho.isConstantZero]
    split
    · exact .ok .none
    · exact (ho.component 0).bind fun _ _ h => .ok (.some h)

theorem subpass_agree (h : e.AgreeOn on P x y mask) (type : ImageType) :
    Option.Rel (SubpassPosition.AgreeOn on) (e.subpass? type)
      ((e.moved x y mask).subpass? type) := by
  rw [subpass?, subpass?]
  split
  · exact .some ⟨h.windowX, h.windowY, rfl⟩
  · exact .none

/-- The pointers to the texels of requests that agree. -/
theorem texelPointer_alike (h : e.AgreeOn on P x y mask) (hs : s.AgreeOn on P s')
    (r : TexelRequest) {coordinate : Operand} (hcoordinate : r.coordinate.AgreeOn on coordinate) :
    Alike (TexelPointer.AgreeOn on) (e.texelPointer s r)
      ((e.moved x y mask).texelPointer s' { r with coordinate }) := by
  rw [texelPointer, texelPointer, hs.descriptor]
  refine .bind_same fun address _ => ?_
  refine (samples_alike e x y mask hs r.sample).bind fun _ _ hsample => ?_
  have hcoordinates : TexelCoordinates.AgreeOn on
      ⟨_, r.type.arrayed, r.type.dimension = .cube, _, e.subpass? r.type⟩
      ⟨_, r.type.arrayed, r.type.dimension = .cube, _, (e.moved x y mask).subpass? r.type⟩ :=
    ⟨hcoordinate.components, rfl, rfl, hsample, subpass_agree h r.type⟩
  refine (hcoordinates.offsets _ _ _).bind fun _ _ hoffsets => ?_
  exact .ok ⟨rfl, LanePointer.AgreeOn.advance ⟨rfl, rfl, .refl _⟩ hoffsets⟩

/-! ## Image reads and writes -/

variable (h : e.AgreeOn on P x y mask) (hs : s.AgreeOn on P s') (i : Instruction)
include h hs

/-- Image reads load texels through pointers that agree. -/
theorem imageLoad_alike :
    Alike (fun l l' => l.pointer.AgreeOn on l'.pointer ∧ l.format = l'.format ∧ l.sizes = l'.sizes)
      (e.imageLoad s i) ((e.moved x y mask).imageLoad s' i) := by
  refine .bind_same fun image _ => .bind_same fun type _ => .bind_same fun id _ => ?_
  refine (operand_alike e x y mask hs id).bind fun coordinate coordinate' hcoordinate => ?_
  refine .bind_same fun operands _ => .bind_same fun sample _ => ?_
  refine .bind_same fun format _ => .bind_same fun stencil _ => ?_
  rw [hs.machine.device]
  refine (texelPointer_alike h hs _ hcoordinate).bind fun _ _ hpointer => ?_
  exact .bind_same fun sizes _ => .ok ⟨hpointer, rfl, rfl⟩

/-- Image reads give components that agree. -/
theorem imageRead_alike :
    Alike (RowsAgree on) (e.imageRead s i) ((e.moved x y mask).imageRead s' i) := by
  refine .bind_same fun _ _ => .bind_same fun count _ => ?_
  refine (imageLoad_alike h hs i).bind fun load load' hload => ?_
  obtain ⟨hpointer, hformat, hsizes⟩ := hload
  rw [← hformat]
  cases load.format.layout? with
  | none => exact .error _
  | some layout =>
    refine .ok (List.forall₂_take _ (channels_agree (Lanes.AgreeOn.map (ofWords_agree ?_) _)))
    rw [hs.machine.device, hs.machine.blocks, hsizes]
    exact TexelPointer.loadWords_agree (texelRule_ne_unchecked _) hpointer _ h.active h.moved _

/-! ### Writes -/

omit h hs in
theorem SameStores.storing (hmask : SameStores on e mask) :
    (e.moved x y mask).storing = e.storing := by
  rw [hmask.mask_eq]
  rfl

omit h hs in
theorem SameStores.on_of_storing (hmask : SameStores on e mask) (l : Lane)
    (hl : e.storing.get l ≠ 0) : on l := by
  refine hmask.on_of_active l fun hoff => hl ?_
  rw [Setup.storing, Lanes.and, get_zipWith, hoff, UInt32.zero_and]

/-- Image writes store words that agree through pointers that agree. -/
theorem imageStore_alike :
    Alike (fun w w' => w.pointer.AgreeOn on w'.pointer ∧ w.sizes = w'.sizes ∧
        RowsAgree on w.words w'.words)
      (e.imageStore s i) ((e.moved x y mask).imageStore s' i) := by
  refine .bind_same fun image _ => .bind_same fun type _ => .bind_same fun id _ => ?_
  refine (operand_alike e x y mask hs id).bind fun coordinate coordinate' hcoordinate => ?_
  refine .bind_same fun id _ => (operand_alike e x y mask hs id).bind fun value value' hvalue => ?_
  refine .bind_same fun operands _ => .bind_same fun sample _ => ?_
  cases type.format.format? with
  | none => exact .error _
  | some format =>
    dsimp only
    cases format.writer? with
    | none => exact .error _
    | some layout =>
      dsimp only
      rw [hs.machine.device]
      refine (texelPointer_alike h hs _ hcoordinate).bind fun _ _ hpointer => ?_
      exact .bind_same fun sizes _ =>
        .ok ⟨hpointer, rfl, words_agree ((ofChannels_agree hvalue.components).map _)⟩

/-- Image writes change memory in the same way. -/
theorem imageWrite_alike (hmask : SameStores on e mask) :
    Alike (State.AgreeOn on P) (e.imageWrite s i) ((e.moved x y mask).imageWrite s' i) := by
  refine (imageStore_alike h hs i).bind fun w w' hw => ?_
  obtain ⟨hpointer, hsizes, hwords⟩ := hw
  have hblocks := TexelPointer.storeWords_congr (texelRule_ne_unchecked s.machine.device) hpointer
    s.machine.blocks hmask.on_of_storing w.sizes hwords
  refine .ok ?_
  rw [hmask.storing, ← hs.machine.device, ← hs.machine.blocks, ← hsizes, ← hblocks]
  exact hs.withBlocks _

/-! ### Texel pointers -/

theorem imageTexelPointer_alike :
    Alike (TexelPointer.AgreeOn on) (e.imageTexelPointer s i)
      ((e.moved x y mask).imageTexelPointer s' i) := by
  refine .bind_same fun image _ => .bind_same fun objectType _ => .bind_same fun type _ => ?_
  refine .bind_same fun id _ => (operand_alike e x y mask hs id).bind fun _ _ hcoordinate => ?_
  exact .bind_same fun sample _ => texelPointer_alike h hs _ hcoordinate

end Environment

/-! ## Queries -/

namespace Environment

theorem queriedSide_agree {lod lod' : Option WordLanes} (h : Option.Rel (Lanes.AgreeOn on) lod lod')
    (side : UInt32) : (queriedSide lod side).AgreeOn on (queriedSide lod' side) := by
  cases h with
  | none => exact .refl _
  | some h => exact h.map _

/-- The level of detail of a query, if it is given one. -/
theorem lod_alike {M : Machine → Machine → Prop} {T : Target → Target → Prop} (e : Environment)
    (x y mask : WordLanes) {s s' : State} (hs : s.Related on M T s') (lod : Option Nat) :
    Alike (Option.Rel (Lanes.AgreeOn on))
      (lod.mapM fun id => do (← e.operand s id).component 0)
      (lod.mapM fun id => do (← (e.moved x y mask).operand s' id).component 0) := by
  cases lod with
  | none => exact .ok .none
  | some id =>
    have hlod := (operand_alike e x y mask hs id).bind fun _ _ h => h.component 0
    exact hlod.bind fun _ _ h => .ok (.some h)

variable (e : Environment) (x y mask : WordLanes) {s s' : State} (hs : s.AgreeOn on P s')
  (i : Instruction)
include hs

theorem imageRecord_eq (image : Nat) :
    (e.moved x y mask).imageRecord s' image = e.imageRecord s image := by
  rw [imageRecord, imageRecord, hs.descriptor]
  rfl

theorem queryLevels_eq : (e.moved x y mask).queryLevels s' i = e.queryLevels s i := by
  simp only [queryLevels, hs.descriptor]
  rfl

theorem querySamples_eq : (e.moved x y mask).querySamples s' i = e.querySamples s i := by
  simp only [querySamples, hs.descriptor]
  rfl

theorem querySize_alike (lod : Option Nat) :
    Alike (RowsAgree on) (e.querySize s i lod) ((e.moved x y mask).querySize s' i lod) := by
  refine .bind_same fun _ _ => .bind_same fun count _ => .bind_same fun image _ => ?_
  refine .bind_same fun type _ => ?_
  dsimp only
  rw [imageRecord_eq e x y mask hs]
  generalize (if type.arrayed = true then 1 else 0) = layers
  split
  · exact .error _
  · refine .bind_same fun record _ => (lod_alike e x y mask hs lod).bind fun _ _ hlod => ?_
    split
    · exact .error _
    · refine .ok (List.rel_append ?_ (RowsAgree.refl _))
      exact List.rel_map (fun side _ heq => heq ▸ queriedSide_agree hlod side)
        (List.forall₂_same.mpr fun _ _ => rfl)

end Environment

end Execution

end HostGpu
