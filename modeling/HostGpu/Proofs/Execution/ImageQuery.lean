import HostGpu.Proofs.Descriptor.ViewExtent
import HostGpu.Proofs.Execution.RowCounts

/-!
# What image queries give

A query of the size of an image shifts the sides of the first level, which are no less than one, by
the level of detail of each lane, and does not let them become less than one.  That gives the sides
of the level itself, whatever the level of detail is (`IsQuery.answers_size`).  The length of an
array follows after as many sides as the type of the image has.
-/

namespace HostGpu

open Outcome Spirv Shader

/-! ## Words without sign -/

namespace Word

/-- Below the sign bit, a word is shifted as the number that it stands for. -/
theorem shiftRightSigned_ofNat {m : Nat} (hm : m < 2 ^ 31) {n : UInt32} (hn : n.toNat < 32) :
    shiftRightSigned (UInt32.ofNat m) n = UInt32.ofNat (m >>> n.toNat) := by
  have hword : (UInt32.ofNat m).toNat = m := ofNat_toNat_of_lt (by omega)
  have hmsb : (UInt32.ofNat m).toBitVec.msb = false := by
    rw [BitVec.msb_eq_decide, UInt32.toNat_toBitVec, hword]
    exact decide_eq_false (by omega)
  have hle : m >>> n.toNat ≤ m := Nat.shiftRight_le _ _
  refine UInt32.toNat_inj.mp ?_
  rw [shiftRightSigned, BitVec.sshiftRight_eq_of_msb_false hmsb, Nat.mod_eq_of_lt hn,
    ofNat_toNat_of_lt (by omega)]
  change ((UInt32.ofNat m).toBitVec >>> n.toNat).toNat = m >>> n.toNat
  rw [BitVec.toNat_ushiftRight, UInt32.toNat_toBitVec, hword]

/-- So is the larger of two words. -/
theorem maxSigned_ofNat {m n : Nat} (hm : m < 2 ^ 31) (hn : n < 2 ^ 31) :
    maxSigned (UInt32.ofNat m) (UInt32.ofNat n) = UInt32.ofNat (max m n) := by
  rw [maxSigned, signed_ofNat hm, signed_ofNat hn]
  split
  · rw [Nat.max_eq_right (by omega)]
  · rw [Nat.max_eq_left (by omega)]

end Word

/-- The dimensions of a type are those of a kind of views, and both are arrays or neither is. -/
structure Shader.ImageType.Fits (type : ImageType) (kind : ViewKind) : Prop where
  axes : type.dimension.axes = kind.dimensions
  arrayed : type.arrayed = kind.isArrayed

namespace Execution

/-- The side of a level is shifted without regard to signs and words. -/
theorem sideAtLevel_wordOf {side : Nat} (h : side < 2 ^ 31) (lod : UInt32) :
    sideAtLevel (wordOf side) lod = wordOf (max (side >>> lod.toNat) 1) := by
  have hone : (1 : UInt32) = wordOf 1 := rfl
  rw [sideAtLevel, hone]
  split
  case isTrue hlod =>
    have hle : side >>> lod.toNat ≤ side := Nat.shiftRight_le _ _
    rw [Word.shiftRightSigned_ofNat h (UInt32.lt_iff_toNat_lt.mp hlod),
      Word.maxSigned_ofNat (by omega) (by decide)]
  case isFalse hlod =>
    -- no side has a bit that is left
    have hbits : 32 ≤ lod.toNat := Nat.le_of_not_lt fun hlt => hlod (UInt32.lt_iff_toNat_lt.mpr hlt)
    have hzero : side >>> lod.toNat = 0 := by
      rw [Nat.shiftRight_eq_div_pow]
      refine Nat.div_eq_of_lt (h.trans_le ?_)
      exact Nat.pow_le_pow_right (by decide) (by omega)
    rw [hzero]
    exact Word.maxSigned_ofNat (m := 0) (by decide) (by decide)

/-! ## Queries -/

/-- An instruction queries an image through a descriptor, for a result that is new. -/
structure IsQuery (e : Environment) (s : State) (i : Instruction) (image result : Nat)
    (type : ImageType) (a : DescriptorAddress) (kind : DescriptorKind) : Prop where
  result_eq : i.id 2 = .ok result
  new : s.Lacks result
  image_eq : i.id 3 = .ok image
  type_eq : e.shader.objectImageType image = .ok type
  descriptor_eq : s.descriptor image = .ok a
  kind_eq : e.descriptorKind image = .ok kind

/-- The result of an instruction is new and has these numbers in each lane; nothing else changes. -/
def Answers (e : Environment) (s : State) (i : Instruction) (result : Nat)
    (numbers : Lane → List Nat) : Prop :=
  ∃ rows, (step e i).run s = (.ok .next, s.withValue result (.components rows)) ∧
    ∀ l, rows.map (fun row => (row.get l).toNat) = numbers l

variable {e : Environment} {s : State} {i : Instruction} {image result : Nat} {type : ImageType}
  {a : DescriptorAddress} {kind : DescriptorKind} {v : ImageView}

/-- A descriptor of a kind has a record that shows a view. -/
inductive Describes (e : Environment) (a : DescriptorAddress) (v : ImageView) :
    DescriptorKind → Prop
  | storage {kind : DescriptorKind} (hkind : kind = .storageImage ∨ kind = .inputAttachment)
      (hrecord : e.storageRecord a = .ofView v) : Describes e a v kind
  | sampled {kind : DescriptorKind} (hkind : kind = .sampledImage ∨ kind = .combinedImageSampler)
      (hrecord : (e.sampledRecord a).Shows v) : Describes e a v kind

/-- The level of detail that a query is given in a lane; without one, the first level. -/
def levelIn (lods : Option WordLanes) (l : Lane) : Nat := lods.elim 0 fun lod => (lod.get l).toNat

/-- The size of a view in a lane: the sides of a level, and the length of an array. -/
def sizeIn (v : ImageView) (lods : Option WordLanes) (l : Lane) : List Nat :=
  v.sides (levelIn lods l) ++ v.arrayLength

/-- A side of the first level gives the side of a level in every lane. -/
theorem queriedSide_get {side : Nat} (hpos : 1 ≤ side) (hlt : side < 2 ^ 31)
    (lods : Option WordLanes) (l : Lane) :
    ((Environment.queriedSide lods (wordOf side)).get l).toNat =
      max (side >>> levelIn lods l) 1 := by
  have hle (n : Nat) : side >>> n ≤ side := Nat.shiftRight_le side n
  cases lods with
  | none =>
    have hside : max (side >>> 0) 1 = side := Nat.max_eq_left hpos
    rw [Environment.queriedSide, Option.elim_none, Lanes.get_splat, levelIn, Option.elim_none,
      hside]
    exact Word.ofNat_toNat_of_lt (by omega)
  | some lod =>
    have hshift := hle (lod.get l).toNat
    rw [Environment.queriedSide, Option.elim_some, Lanes.get_map, levelIn, Option.elim_some,
      sideAtLevel_wordOf hlt]
    exact Word.ofNat_toNat_of_lt (by omega)

namespace IsQuery

variable (h : IsQuery e s i image result type a kind)
include h

/-- The record of a view has its sides. -/
theorem exists_record (hv : v.Valid) (hview : Describes e a v kind) :
    ∃ record, e.imageRecord s image = .ok record ∧ record.extent = v.sidesInRecord.map wordOf := by
  simp only [Environment.imageRecord, h.descriptor_eq, h.kind_eq, ok_bind]
  cases hview with
  | storage hkind hrecord =>
    refine ⟨.storage (e.storageRecord a), ?_, ?_⟩
    · rcases hkind with rfl | rfl <;> rfl
    · rw [hrecord]
      exact (StorageRecord.extent_ofView hv).1
  | sampled hkind hrecord =>
    refine ⟨.sampled (e.sampledRecord a), ?_, hrecord.extent.1⟩
    rcases hkind with rfl | rfl <;> rfl

/-- What a query of the size reads from the record of its image. -/
theorem querySize_eq
    (hcount : e.declarations.resultCount i =
      .ok (type.dimension.axes + if type.arrayed then 1 else 0))
    {record : ImageRecord} (hrecord : e.imageRecord s image = .ok record) {lod : Option Nat}
    {lods : Option WordLanes}
    (hlod : (lod.mapM fun id => do (← e.operand s id).component 0) = .ok lods) :
    e.querySize s i lod = .ok
      ((record.extent.take type.dimension.axes).map (Environment.queriedSide lods) ++
        ((record.extent.drop 2).take (if type.arrayed then 1 else 0)).map .splat) := by
  obtain ⟨id, hid, hcomponents⟩ := bind_eq_ok.mp hcount
  have haxes := axes_le_three type.dimension
  have hlength := record.length_extent
  simp only [Environment.querySize, hid, hcomponents, h.image_eq, h.type_eq, hrecord, hlod, ok_bind]
  rw [if_neg (by omega), if_neg (by omega), Nat.add_sub_cancel]
  rfl

/-- **The size of a view** has in every lane the sides of the level of detail, and then the length
of the array. -/
theorem exists_querySize (hv : v.Valid) (hview : Describes e a v kind)
    (htype : type.Fits v.kind) (hcount : e.declarations.resultCount i =
      .ok (type.dimension.axes + if type.arrayed then 1 else 0))
    {lod : Option Nat} {lods : Option WordLanes}
    (hlod : (lod.mapM fun id => do (← e.operand s id).component 0) = .ok lods) :
    ∃ rows, e.querySize s i lod = .ok rows ∧
      ∀ l, rows.map (fun row => (row.get l).toNat) = sizeIn v lods l := by
  obtain ⟨record, hrecord, hextent⟩ := h.exists_record hv hview
  refine ⟨_, h.querySize_eq hcount hrecord hlod, fun l => ?_⟩
  have hlt := hv.sidesInRecord_lt
  have hsides : ∀ n ∈ v.sides 0,
      ((Environment.queriedSide lods (wordOf n)).get l).toNat = max (n >>> levelIn lods l) 1 := by
    intro n hn
    refine queriedSide_get (ImageView.one_le_of_mem_sides hn) (hlt n ?_) lods l
    rw [← v.take_sidesInRecord] at hn
    exact List.mem_of_mem_take hn
  have hlayers : ∀ n ∈ v.arrayLength, (wordOf n).toNat = n := by
    intro n hn
    rw [← v.drop_sidesInRecord] at hn
    have hn := hlt n (List.mem_of_mem_drop (List.mem_of_mem_take hn))
    exact Word.ofNat_toNat_of_lt (by omega)
  rw [hextent, htype.axes, htype.arrayed, ← List.map_take, ← List.map_drop, ← List.map_take,
    v.take_sidesInRecord, v.drop_sidesInRecord, sizeIn, v.sides_eq (levelIn lods l)]
  simp only [List.map_append, List.map_map, Function.comp_def, Lanes.get_splat]
  rw [List.map_congr_left hsides, List.map_congr_left hlayers, List.map_id']

/-- A query answers with the rows that it computes. -/
theorem answers {op : Opcode} (hop : i.op? = some op)
    (hinner : op ∉ [.opBranch, .opReturn, .opReturnValue])
    {f : State → Except Fault (List WordLanes)} {rows : List WordLanes}
    (hexecute : (execute e i op).run s = (compute i f).run s) (hf : f s = .ok rows)
    {numbers : Lane → List Nat} (hrows : ∀ l, rows.map (fun row => (row.get l).toNat) = numbers l) :
    Answers e s i result numbers :=
  ⟨rows, run_step_compute hop hinner hexecute hf h.result_eq h.new, hrows⟩

/-- A query answers with one number in all lanes. -/
theorem answers_number {op : Opcode} (hop : i.op? = some op)
    (hinner : op ∉ [.opBranch, .opReturn, .opReturnValue]) {f : State → Except Fault UInt32}
    (hexecute : (execute e i op).run s = (compute i fun s => do return [.splat (← f s)]).run s)
    {n : Nat} (hf : f s = .ok (wordOf n)) (hn : n < 2 ^ 32) :
    Answers e s i result fun _ => [n] := by
  have hrow : (do return [Lanes.splat (← f s)]) = .ok [Lanes.splat (wordOf n)] := by
    rw [hf, ok_bind]
    rfl
  refine h.answers hop hinner hexecute hrow fun l => ?_
  rw [List.map_singleton, Lanes.get_splat, Word.ofNat_toNat_of_lt hn]

theorem answers_size (hv : v.Valid) (hview : Describes e a v kind)
    (htype : type.Fits v.kind) (hcount : e.declarations.resultCount i =
      .ok (type.dimension.axes + if type.arrayed then 1 else 0))
    (hop : i.op? = some .opImageQuerySize) : Answers e s i result (sizeIn v none) := by
  have hlods : ((none : Option Nat).mapM fun id => do (← e.operand s id).component 0) =
      .ok none := rfl
  obtain ⟨rows, hsize, hrows⟩ := h.exists_querySize hv hview htype hcount hlods
  exact h.answers hop (by decide) rfl hsize hrows

theorem answers_sizeLod (hv : v.Valid) (hview : Describes e a v kind)
    (htype : type.Fits v.kind) (hcount : e.declarations.resultCount i =
      .ok (type.dimension.axes + if type.arrayed then 1 else 0))
    (hop : i.op? = some .opImageQuerySizeLod) {id : Nat} (hid : i.id 4 = .ok id) {o : Operand}
    (ho : e.operand s id = .ok o) {lod : WordLanes} (hlod : o.component 0 = .ok lod) :
    Answers e s i result (sizeIn v (some lod)) := by
  have hlods : ((some id).mapM fun id => do (← e.operand s id).component 0) =
      .ok (some lod) := by
    simp only [Option.mapM_some, ho, ok_bind, hlod]
    rfl
  obtain ⟨rows, hsize, hrows⟩ := h.exists_querySize hv hview htype hcount hlods
  exact h.answers hop (by decide) (run_lift_bind hid _ s) hsize hrows

theorem answers_levels (hv : v.Valid) (hview : Describes e a v kind)
    (hkind : kind = .sampledImage ∨ kind = .combinedImageSampler)
    (hop : i.op? = some .opImageQueryLevels) :
    Answers e s i result fun _ => [v.levelCount] := by
  have hlevels : e.queryLevels s i = .ok (wordOf v.levelCount) := by
    simp only [Environment.queryLevels, h.image_eq, h.descriptor_eq, h.kind_eq, ok_bind]
    cases hview with
    | storage hkinds hrecord => rcases hkinds with rfl | rfl <;> simp at hkind
    | sampled hkinds hrecord =>
      rw [← hrecord.extent.2.1]
      rcases hkinds with rfl | rfl <;> rfl
  have hcount : v.levelCount ≤ maxLevels :=
    (Nat.sub_le _ _).trans (hv.mips.2.trans hv.image.levels_le_maxLevels)
  have hmax : maxLevels = 15 := rfl
  exact h.answers_number hop (by decide) rfl hlevels (by omega)

theorem answers_samples (hv : v.Valid) (hview : Describes e a v kind)
    (hkind : kind ≠ .inputAttachment) (hdimension : type.dimension = .dim2D)
    (hmultisampled : type.multisampled = true) (hop : i.op? = some .opImageQuerySamples) :
    Answers e s i result fun _ => [v.samples.count] := by
  have hsamples : e.querySamples s i = .ok (wordOf v.samples.count) := by
    simp only [Environment.querySamples, h.image_eq, h.type_eq, hdimension, hmultisampled,
      h.descriptor_eq, h.kind_eq, ok_bind]
    cases hview with
    | storage hkinds hrecord =>
      obtain rfl := hkinds.resolve_right hkind
      rw [← (StorageRecord.extent_ofView hv).2, ← hrecord]
      rfl
    | sampled hkinds hrecord =>
      rw [← hrecord.extent.2.2]
      rcases hkinds with rfl | rfl <;> rfl
  have hcount : v.samples.count < 2 ^ 32 := by cases v.samples <;> decide
  exact h.answers_number hop (by decide) rfl hsamples hcount

end IsQuery

end Execution

end HostGpu
