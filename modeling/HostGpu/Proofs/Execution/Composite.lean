import HostGpu.Proofs.Execution.VariableAccess
import HostGpu.Proofs.Lanes.Agreement
import HostGpu.Proofs.Shader.Composite

/-!
# Parts of variables

A path into the type of a variable may be followed in two ways: by an access chain, whose result is
a pointer at which loads and stores start, and by taking apart a value.  Both lead to the same
components, those that the path occupies.  So what is loaded through a path is what would be extracted
along it (`loadsAsExtracted`), a store through a path replaces its components in the active lanes and
nothing else (`storesToPart`), and a chain that goes on from the result of another one leads to where
one chain with all the indices leads (`chainsJoin`).
-/

namespace HostGpu.Execution

open Outcome Spirv Shader

/-! ## Rows of scalars -/

/-- A row with other components from a start on, in the lanes of a mask. -/
structure Replaced (mask : WordLanes) (start : Nat) (part old new : List WordLanes) : Prop where
  length_eq : new.length = old.length
  inside : ∀ l, mask.get l ≠ 0 → ∀ j < part.length,
    new[start + j]?.map (·.get l) = part[j]?.map (·.get l)
  outside : ∀ l j, mask.get l = 0 ∨ j < start ∨ start + part.length ≤ j →
    new[j]?.map (·.get l) = old[j]?.map (·.get l)

namespace Storage

variable {storage part : List WordLanes} {mask : WordLanes} {start count : Nat}

section

variable (hstart : start < 2 ^ 31)
include hstart

theorem signed_splat (l : Lane) :
    Word.signed ((Lanes.splat (UInt32.ofNat start) : WordLanes).get l) = start := by
  rw [Lanes.get_splat, Word.signed_ofNat hstart]

/-- What is loaded from one offset in all lanes. -/
theorem load_splat (hfits : start + count ≤ storage.length) :
    load storage (.splat (UInt32.ofNat start)) count = (storage.drop start).take count := by
  have hloaded := loaded_load storage (.splat (UInt32.ofNat start)) count
  have hlength := length_load storage (.splat (UInt32.ofNat start)) count
  refine List.ext_getElem ?_ fun j hj hj' => Lanes.ext_get fun l => ?_
  · rw [hlength, List.length_take, List.length_drop]
    omega
  · have hbound : start + j < storage.length := by omega
    have hlane := hloaded.inside l start j (signed_splat hstart l) hj hbound
    rw [List.getElem?_eq_getElem hj, List.getElem?_eq_getElem hbound] at hlane
    rw [List.getElem_take, List.getElem_drop]
    exact Option.some.inj hlane

/-- What is stored to one offset in all lanes. -/
theorem replaced_store (hfits : start + part.length ≤ storage.length) :
    Replaced mask start part storage (store storage (.splat (UInt32.ofNat start)) mask part) := by
  obtain ⟨hlength, hinside, houtside⟩ :=
    stored_store mask (.splat (UInt32.ofNat start)) part storage
  refine ⟨hlength, fun l hl j hj => ?_, fun l k hout => ?_⟩
  · exact hinside l start j hl (signed_splat hstart l) hj (by omega)
  · refine houtside l k (hout.imp_right fun hout first hfirst => ?_)
    rw [signed_splat hstart l] at hfirst
    omega

end

end Storage

/-- A row that is replaced as a whole. -/
theorem Replaced.rowsAgree {mask : WordLanes} {part old new : List WordLanes}
    (h : Replaced mask 0 part old new) (hlength : part.length = old.length) :
    Lanes.RowsAgree (fun l => mask.get l ≠ 0) new part := by
  rw [Lanes.RowsAgree, List.forall₂_iff_get]
  refine ⟨h.length_eq.trans hlength.symm, fun j hj hj' l hl => ?_⟩
  have hlane := h.inside l hl j hj'
  rw [Nat.zero_add, List.getElem?_eq_getElem hj, List.getElem?_eq_getElem hj'] at hlane
  exact Option.some.inj hlane

theorem slice_ofNat {row : List WordLanes} {start count : Nat} (hstart : start < 2 ^ 31)
    (hfits : start + count ≤ row.length) :
    Environment.slice row (Word.signed (UInt32.ofNat start)) count =
      .ok ((row.drop start).take count) := by
  rw [Environment.slice, Word.signed_ofNat hstart, Int.toNat_natCast, if_neg (by omega)]

/-! ## Instructions -/

/-- An instruction makes a pointer from the one of an identifier, by indices. -/
structure IsChain (i : Instruction) (base : Nat) (ids : List UInt32) (result : Nat) : Prop where
  op_eq : i.op? = some .opAccessChain ∨ i.op? = some .opInBoundsAccessChain
  result_eq : i.id 2 = .ok result
  base_eq : i.id 3 = .ok base
  ids_eq : i.words.drop 4 = ids

/-- An instruction extracts a value of a type along a path. -/
structure IsExtract (i : Instruction) (type composite : Nat) (path : List UInt32) (result : Nat) :
    Prop where
  op_eq : i.op? = some .opCompositeExtract
  type_eq : i.id 1 = .ok type
  result_eq : i.id 2 = .ok result
  composite_eq : i.id 3 = .ok composite
  path_eq : i.words.drop 4 = path

/-- Instructions are executed one after the other, and none faults. -/
inductive Runs (e : Environment) : State → List Instruction → State → Prop
  | nil (s : State) : Runs e s [] s
  | cons {s s' s'' : State} {i : Instruction} {rest : List Instruction}
      (hstep : (step e i).run s = (.ok .next, s')) (hrest : Runs e s' rest s'') :
      Runs e s (i :: rest) s''

/-! ### Steps -/

/-- The part that the indices of an access chain lead to, from what its base points to. -/
def Environment.follow (e : Environment) (s : State) (base : Nat) (ids : List UInt32) :
    Except Fault Part := do
  let pointee := (← e.declarations.objectType base).elementId
  let indices ← ids.mapM fun id => e.chainIndex s id.toNat
  e.shader.walk ⟨pointee, .splat 0⟩ indices

section

variable {e : Environment} {s : State} {i : Instruction} {T base pointer composite result v : Nat}
  {count : Nat} {path ids : List UInt32} {row : List WordLanes} {offsets : WordLanes}
  {operand : Operand}

theorem IsChain.step_eq (hi : IsChain i base ids result) :
    step e i = (do executeAccessChain e i; return .next) := by
  rcases hi.op_eq with hop | hop <;> exact step_eq_execute hop (by decide)

theorem IsChain.target_eq (hi : IsChain i base ids result)
    (hbase : s.target base = .ok (.variable v offsets)) :
    (do chainTarget e s i base (← s.target base)) =
      (fun p => Target.variable v (offsets.add p.offset)) <$> e.follow s base ids := by
  rw [hbase, ok_bind]
  simp only [chainTarget, hi.ids_eq, Environment.follow, map_eq_pure_bind, bind_assoc]

/-- An access chain points to the part that it leads to. -/
theorem IsChain.run_eq {part : Part} (hi : IsChain i base ids result)
    (hbase : s.target base = .ok (.variable v offsets)) (hpart : e.follow s base ids = .ok part)
    (hnew : s.Lacks result) : (step e i).run s = (.ok .next,
      s.withValue result (.pointer (.variable v (offsets.add part.offset)))) := by
  have htarget := hi.target_eq (e := e) hbase
  rw [hpart] at htarget
  rw [hi.step_eq, run_bind, executeAccessChain, run_lift_bind hi.result_eq,
    run_lift_bind hi.base_eq, run_inspect_bind htarget, definePointer, run_define hnew]
  rfl

/-- An access chain that is executed gives its result a first value. -/
theorem IsChain.eq_of_run {s' : State} {part : Part} (hi : IsChain i base ids result)
    (hbase : s.target base = .ok (.variable v offsets)) (hpart : e.follow s base ids = .ok part)
    (h : (step e i).run s = (.ok .next, s')) : s.Lacks result ∧
      s' = s.withValue result (.pointer (.variable v (offsets.add part.offset))) := by
  by_cases hnew : s.Lacks result
  · rw [hi.run_eq hbase hpart hnew] at h
    exact ⟨hnew, (Prod.mk.inj h).2.symm⟩
  · have htarget := hi.target_eq (e := e) hbase
    rw [hpart] at htarget
    rw [hi.step_eq, run_bind, executeAccessChain, run_lift_bind hi.result_eq,
      run_lift_bind hi.base_eq, run_inspect_bind htarget, definePointer, run_define_error hnew] at h
    cases h

/-- An access chain that leads nowhere is a fault. -/
theorem IsChain.run_error {fault : Fault} (hi : IsChain i base ids result)
    (hbase : s.target base = .ok (.variable v offsets)) (hpart : e.follow s base ids = .error fault) :
    (step e i).run s = (.error fault, s) := by
  have htarget := hi.target_eq (e := e) hbase
  rw [hpart] at htarget
  rw [hi.step_eq, run_bind, executeAccessChain, run_lift_bind hi.result_eq,
    run_lift_bind hi.base_eq, run_bind, run_inspect, htarget]
  rfl

theorem IsExtract.run_eq {info : ObjectInfo} {part : Part} {extracted : List WordLanes}
    (hi : IsExtract i T composite path result)
    (hcount : e.declarations.componentCount T = .ok count)
    (hobject : e.declarations.object composite = .ok info)
    (hpart : e.shader.walk ⟨info.type, .splat 0⟩ (path.map .literal) = .ok part)
    (hvalue : e.operand s composite = .ok operand)
    (hslice : Environment.slice operand.components (Word.signed (part.offset.get 0)) count =
      .ok extracted)
    (hnew : s.Lacks result) :
    (step e i).run s = (.ok .next, s.withValue result (.components extracted)) := by
  have hextract : e.extract s i = .ok extracted := by
    simp only [Environment.extract, hi.type_eq, hcount, hi.composite_eq, hobject, hi.path_eq, hpart,
      hvalue, ok_bind, hslice]
  exact run_step_compute hi.op_eq (by decide) rfl hextract hi.result_eq hnew

end

/-! ## Values of types -/

/-- An identifier stands for a value of a type: a row of as many components. -/
structure HasRow (e : Environment) (s : State) (id T : Nat) (row : List WordLanes) : Prop where
  object : ∃ info, e.declarations.object id = .ok info ∧ info.type = T
  operand : ∃ operand, e.operand s id = .ok operand ∧ operand.components = row
  count_eq : e.declarations.componentCount T = .ok row.length

/-- An identifier points to a whole variable of a type, which has a value. -/
structure PointsToWhole (e : Environment) (s : State) (pointer v T : Nat) (row : List WordLanes) :
    Prop where
  target_eq : s.target pointer = .ok (.variable v (.splat 0))
  pointee : ∃ type, e.declarations.objectType pointer = .ok type ∧ type.elementId = T
  storage_eq : s.storage v = .ok row
  count_eq : e.declarations.componentCount T = .ok row.length

/-- Constants have the values of a path. -/
def Constants (d : Declarations) : List UInt32 → List UInt32 → Prop :=
  List.Forall₂ fun id k => d.scalar id.toNat = .ok k

/-- A constant is a value of its type, the same in all lanes. -/
theorem hasRow_of_constant {e : Environment} {id : Nat} {info : ObjectInfo} {values : List UInt32}
    (hobject : e.declarations.object id = .ok info) (hvalues : info.kind = .constant values)
    (hcount : e.declarations.componentCount info.type = .ok values.length) (s : State) :
    HasRow e s id info.type (values.map .splat) := by
  refine ⟨⟨info, hobject, rfl⟩, ⟨⟨values.map .splat, true⟩, ?_, rfl⟩, ?_⟩
  · rw [Environment.operand, hobject, ok_bind, hvalues]
    rfl
  · rw [hcount, List.length_map]

theorem HasRow.within {e : Environment} {s s' : State} {id T : Nat} {row : List WordLanes}
    (h : HasRow e s id T row) (hs : s.Within s') : HasRow e s' id T row := by
  obtain ⟨hobject, ⟨operand, hoperand, hrow⟩, hcount⟩ := h
  exact ⟨hobject, ⟨operand, Environment.operand_mono hs hoperand, hrow⟩, hcount⟩

/-! ### Indices -/

section

variable {e : Environment} {s s' : State} {path ids ids' : List UInt32}

/-- A constant is a literal index. -/
theorem chainIndex_of_scalar {id : Nat} {k : UInt32} (h : e.declarations.scalar id = .ok k)
    (s : State) : e.chainIndex s id = .ok (.literal k) := by
  simp only [Declarations.scalar, Declarations.constant, bind_eq_ok] at h
  obtain ⟨values, ⟨info, hinfo, hvalues⟩, hk⟩ := h
  rw [Environment.chainIndex, hinfo, ok_bind]
  cases hkind : info.kind <;> rw [hkind] at hvalues
  case constant values' =>
    obtain rfl := pure_eq_ok.mp hvalues
    cases values' with
    | nil => cases hk
    | cons value rest =>
      obtain rfl := pure_eq_ok.mp hk
      rfl
  all_goals cases hvalues

theorem mapM_chainIndex (h : Constants e.declarations ids path) (s : State) :
    (ids.mapM fun id => e.chainIndex s id.toNat) = .ok (path.map .literal) := by
  induction h with
  | nil => rfl
  | cons hk _ ih =>
    rw [List.mapM_cons, chainIndex_of_scalar hk, ok_bind, ih]
    rfl

theorem chainIndex_mono (hs : s.Within s') {id : Nat} {index : ChainIndex}
    (h : e.chainIndex s id = .ok index) : e.chainIndex s' id = .ok index := by
  rw [Environment.chainIndex, bind_eq_ok] at h ⊢
  obtain ⟨info, hinfo, h⟩ := h
  refine ⟨info, hinfo, ?_⟩
  split at h
  case h_1 => exact h
  case h_2 => cases h
  case h_3 =>
    obtain ⟨row, hrow, h⟩ := bind_eq_ok.mp h
    exact bind_eq_ok.mpr ⟨row, State.components_mono hs hrow, h⟩

theorem mapM_chainIndex_mono (hs : s.Within s') {indices : List ChainIndex}
    (h : (ids.mapM fun id => e.chainIndex s id.toNat) = .ok indices) :
    (ids.mapM fun id => e.chainIndex s' id.toNat) = .ok indices := by
  induction ids generalizing indices with
  | nil => exact h
  | cons id rest ih =>
    simp only [List.mapM_cons, bind_eq_ok, pure_eq_ok] at h ⊢
    obtain ⟨index, hindex, tail, htail, rfl⟩ := h
    exact ⟨index, chainIndex_mono hs hindex, tail, ih htail, rfl⟩

theorem follow_mono (hs : s.Within s') {base : Nat} {part : Part}
    (h : e.follow s base ids = .ok part) : e.follow s' base ids = .ok part := by
  simp only [Environment.follow, bind_eq_ok] at h ⊢
  obtain ⟨type, htype, indices, hindices, h⟩ := h
  exact ⟨type, htype, indices, mapM_chainIndex_mono hs hindices, h⟩

/-- **Indices are followed in two chains** like in one, if the second one starts from a pointer to
the type that the first one leads to. -/
theorem follow_append {base result : Nat} {part : Part} {type : TypeInfo}
    (hpart : e.follow s base ids = .ok part) (htype : e.declarations.objectType result = .ok type)
    (hresult : type.elementId = part.type) :
    e.follow s base (ids ++ ids') = (·.moved part.offset) <$> e.follow s result ids' := by
  simp only [Environment.follow, bind_eq_ok] at hpart
  obtain ⟨pointee, hpointee, indices, hindices, hwalk⟩ := hpart
  have hpart : (⟨type.elementId, .splat 0⟩ : Part).moved part.offset = part := by
    rw [Part.moved, hresult, add_splat_zero]
  simp only [Environment.follow, hpointee, htype, ok_bind, List.mapM_append, hindices]
  cases ids'.mapM fun id => e.chainIndex s id.toNat with
  | error fault => rfl
  | ok indices' =>
    simp only [ok_bind, pure_bind, walk_append, hwalk, ← walk_moved, hpart]

end

/-! ## Parts of variables -/

section

variable {e : Environment} {s : State} {T S start count pointer v : Nat} {path ids : List UInt32}
  {row : List WordLanes}

theorem PointsToWhole.follow_eq (h : PointsToWhole e s pointer v T row)
    (hpath : e.shader.Occupies T path S start count) (hids : Constants e.declarations ids path) :
    e.follow s pointer ids = .ok ⟨S, .splat (UInt32.ofNat start)⟩ := by
  obtain ⟨type, htype, hT⟩ := h.pointee
  rw [Environment.follow, htype, ok_bind, mapM_chainIndex hids, ok_bind, hT]
  exact hpath.walk_eq

/-- **A chain from a whole variable** points to where the components of its path start. -/
theorem PointsToWhole.run_chain {result : Nat} {i : Instruction}
    (h : PointsToWhole e s pointer v T row) (hpath : e.shader.Occupies T path S start count)
    (hids : Constants e.declarations ids path) (hi : IsChain i pointer ids result)
    (hnew : s.Lacks result) : (step e i).run s = (.ok .next,
      s.withValue result (.pointer (.variable v (.splat (UInt32.ofNat start))))) := by
  rw [hi.run_eq h.target_eq (h.follow_eq hpath hids) hnew, splat_zero_add]

end

/-- What is stored to a whole variable and later loaded through a path is, in the active lanes, what
is extracted along the path. -/
def LoadsAsExtracted (e : Environment) (T : Nat) (path : List UInt32) (S start count : Nat) : Prop :=
  ∀ (s : State) (pointer v x : Nat) (old row : List WordLanes) (store : Instruction),
    PointsToWhole e s pointer v T old → HasRow e s x T row → IsStore store pointer x →
    ∃ s₁, (step e store).run s = (.ok .next, s₁) ∧
      -- from then on, as long as the variable is left alone
      ∀ (s₂ : State) (ids : List UInt32) (r q y : Nat) (chain load extract : Instruction),
        s₁.Within s₂ → s₂.storages[v]? = s₁.storages[v]? → Constants e.declarations ids path →
        IsChain chain pointer ids r → IsLoad load S r q → IsExtract extract S x path y →
        [r, q, y].Nodup → (∀ id ∈ [r, q, y], s₂.Lacks id) →
        ∃ s₃ loaded, Runs e s₂ [chain, load, extract] s₃ ∧ s₃.components q = .ok loaded ∧
          s₃.components y = .ok ((row.drop start).take count) ∧
          Lanes.RowsAgree (fun l => e.active.get l ≠ 0) loaded ((row.drop start).take count)

/-- What is stored through a path replaces the components of the path in the active lanes, and
nothing else but the pointer changes. -/
def StoresToPart (e : Environment) (T : Nat) (path : List UInt32) (S start : Nat) : Prop :=
  ∀ (s : State) (pointer v x r : Nat) (old part : List WordLanes) (ids : List UInt32)
    (chain store : Instruction), PointsToWhole e s pointer v T old → HasRow e s x S part →
    Constants e.declarations ids path → IsChain chain pointer ids r → IsStore store r x →
    s.Lacks r → ∃ s' new, Runs e s [chain, store] s' ∧ s'.storage v = .ok new ∧
      Replaced e.active start part old new ∧ s'.machine = s.machine ∧
      (∀ id, id ≠ v → s'.storages[id]? = s.storages[id]?) ∧
      ∀ id, id ≠ r → s'.values[id]? = s.values[id]?

/-- An access chain from the result of another one, which has the type of a pointer to what that one
leads to, ends like the chain with the indices of both, and points to the same. -/
def ChainsJoin (e : Environment) : Prop :=
  ∀ (s s₁ s₂ : State) (base v r₁ r₂ r : Nat) (ids₁ ids₂ : List UInt32) (offsets : WordLanes)
    (part : Part) (type : TypeInfo) (first second single : Instruction),
    s.target base = .ok (.variable v offsets) → IsChain first base ids₁ r₁ →
    (step e first).run s = (.ok .next, s₁) → e.follow s base ids₁ = .ok part →
    e.declarations.objectType r₁ = .ok type → type.elementId = part.type → s₁.Within s₂ →
    IsChain second r₁ ids₂ r₂ → IsChain single base (ids₁ ++ ids₂) r → s₂.Lacks r₂ → s₂.Lacks r →
    ((step e second).run s₂).1 = ((step e single).run s₂).1 ∧
      ∀ target, ((step e second).run s₂).2.target r₂ = .ok target ↔
        ((step e single).run s₂).2.target r = .ok target

section

variable {e : Environment} {T S start count total : Nat} {path : List UInt32}
  (hpath : e.shader.Occupies T path S start count)
  (htotal : e.declarations.componentCount T = .ok total) (hsmall : total < 2 ^ 31)
include hpath htotal hsmall

theorem fits_of_occupies : start + count ≤ total ∧ start < 2 ^ 31 := by
  obtain ⟨total', htotal', hle⟩ := hpath.within
  obtain rfl := Except.ok.inj (htotal.symm.trans htotal')
  exact ⟨hle, by omega⟩

/-- A load through a path and an extraction along it give the components of the path. -/
theorem PointsToWhole.run_load {s : State} {pointer v x r q y : Nat} {ids : List UInt32}
    {stored row : List WordLanes} {chain load extract : Instruction}
    (hpointer : PointsToWhole e s pointer v T stored) (hx : HasRow e s x T row)
    (hids : Constants e.declarations ids path) (hchain : IsChain chain pointer ids r)
    (hload : IsLoad load S r q) (hextract : IsExtract extract S x path y)
    (hdistinct : [r, q, y].Nodup) (hlacks : ∀ id ∈ [r, q, y], s.Lacks id) :
    ∃ s', Runs e s [chain, load, extract] s' ∧
      s'.components q = .ok ((stored.drop start).take count) ∧
      s'.components y = .ok ((row.drop start).take count) := by
  obtain ⟨hfits, hstart⟩ := fits_of_occupies hpath htotal hsmall
  obtain ⟨operand, hoperand, rfl⟩ := hx.operand
  obtain ⟨info, hinfo, hT⟩ := hx.object
  have hrow : operand.components.length = total := Except.ok.inj (hx.count_eq.symm.trans htotal)
  have hstored : stored.length = total := Except.ok.inj (hpointer.count_eq.symm.trans htotal)
  simp only [List.nodup_cons, List.mem_cons, List.not_mem_nil, or_false, not_or] at hdistinct
  obtain ⟨⟨hrq, hry⟩, hqy, -⟩ := hdistinct
  simp only [List.forall_mem_cons, List.not_mem_nil, false_imp_iff, implies_true, and_true] at hlacks
  obtain ⟨hr, hq, hy⟩ := hlacks
  have hchained := hpointer.run_chain hpath hids hchain hr
  obtain ⟨s₁, hs₁⟩ : ∃ s₁, s₁ = s.withValue r
    (.pointer (.variable v (.splat (UInt32.ofNat start)))) := ⟨_, rfl⟩
  have hwithin : s.Within s₁ := hs₁ ▸ hr.within
  have htarget : s₁.target r = .ok (.variable v (.splat (UInt32.ofNat start))) := by
    rw [hs₁, State.target_withValue]
  have hstorage : s₁.storage v = .ok stored := by
    rw [hs₁, State.storage_withValue, hpointer.storage_eq]
  have hq₁ : s₁.Lacks q := hs₁ ▸ hq.withValue hrq
  have hy₁ : s₁.Lacks y := hs₁ ▸ hy.withValue hry
  rw [← hs₁] at hchained
  have hloaded := hload.run_eq (e := e) htarget hstorage hpath.count_eq hq₁
  rw [Storage.load_splat hstart (by omega)] at hloaded
  have hoperand₂ : e.operand (s₁.withValue q (.components ((stored.drop start).take count))) x =
      .ok operand :=
    Environment.operand_mono hq₁.within (Environment.operand_mono hwithin hoperand)
  have hwalk : e.shader.walk ⟨info.type, .splat 0⟩ (path.map .literal) =
      .ok ⟨S, .splat (UInt32.ofNat start)⟩ := by
    rw [hT]
    exact hpath.walk_eq
  have hextracted := hextract.run_eq hpath.count_eq hinfo hwalk hoperand₂
    (slice_ofNat hstart (by omega)) (hy₁.withValue hqy)
  refine ⟨_, .cons hchained (.cons hloaded (.cons hextracted (.nil _))), ?_,
    State.components_withValue _⟩
  rw [State.components, State.getElem?_withValue, if_neg (Ne.symm hqy), State.getElem?_withValue,
    if_pos rfl]

theorem loadsAsExtracted : LoadsAsExtracted e T path S start count := by
  obtain ⟨hfits, hstart⟩ := fits_of_occupies hpath htotal hsmall
  intro s pointer v x old row store hpointer hx hstore
  obtain ⟨operand, hoperand, rfl⟩ := hx.operand
  have hrow : operand.components.length = total := Except.ok.inj (hx.count_eq.symm.trans htotal)
  have hold : old.length = total := Except.ok.inj (hpointer.count_eq.symm.trans htotal)
  refine ⟨_, hstore.run_eq hpointer.target_eq hpointer.storage_eq hoperand, ?_⟩
  intro s₂ ids r q y chain load extract hwithin hkept hids hchain hload hextract hdistinct hlacks
  -- in the active lanes the variable has the value that was stored
  have hreplaced : Replaced e.active 0 operand.components old
      (Storage.store old (.splat 0) e.active operand.components) :=
    Storage.replaced_store (by decide) (by omega)
  have hagree := hreplaced.rowsAgree (hrow.trans hold.symm)
  have hwhole : PointsToWhole e s₂ pointer v T
      (Storage.store old (.splat 0) e.active operand.components) := by
    refine ⟨State.target_mono hwithin hpointer.target_eq, hpointer.pointee, ?_, ?_⟩
    · rw [State.storage, hkept, State.setStorage, Std.TreeMap.getElem?_insert_self]
    · rw [hreplaced.length_eq]
      exact hpointer.count_eq
  obtain ⟨s₃, hruns, hloaded, hextracted⟩ := hwhole.run_load hpath htotal hsmall
    (hx.within hwithin) hids hchain hload hextract hdistinct hlacks
  exact ⟨s₃, _, hruns, hloaded, hextracted,
    List.forall₂_take count (List.forall₂_drop start hagree)⟩

theorem storesToPart : StoresToPart e T path S start := by
  obtain ⟨hfits, hstart⟩ := fits_of_occupies hpath htotal hsmall
  intro s pointer v x r old part ids chain store hpointer hx hids hchain hstore hr
  obtain ⟨operand, hoperand, rfl⟩ := hx.operand
  have hpart : operand.components.length = count :=
    Except.ok.inj (hx.count_eq.symm.trans hpath.count_eq)
  have hold : old.length = total := Except.ok.inj (hpointer.count_eq.symm.trans htotal)
  have hchained := hpointer.run_chain hpath hids hchain hr
  set s₁ := s.withValue r (.pointer (.variable v (.splat (UInt32.ofNat start)))) with hs₁
  have hstored := hstore.run_eq (s := s₁) (State.target_withValue _) hpointer.storage_eq
    (Environment.operand_mono hr.within hoperand)
  refine ⟨_, _, .cons hchained (.cons hstored (.nil _)), ?_,
    Storage.replaced_store hstart (by omega), rfl, fun id hid => ?_, fun id hid => ?_⟩
  · rw [State.storage, State.setStorage, Std.TreeMap.getElem?_insert_self]
  · rw [State.setStorage, Std.TreeMap.getElem?_insert, if_neg]
    · rfl
    · exact fun heq => hid (Std.LawfulEqOrd.eq_of_compare heq).symm
  · rw [State.setStorage, hs₁, State.getElem?_withValue, if_neg (Ne.symm hid)]

end

theorem chainsJoin (e : Environment) : ChainsJoin e := by
  intro s s₁ s₂ base v r₁ r₂ r ids₁ ids₂ offsets part type first second single hbase hfirst hrun
    hpart htype hresult hwithin hsecond hsingle hr₂ hr
  obtain ⟨hr₁, rfl⟩ := hfirst.eq_of_run hbase hpart hrun
  have hlater : s.Within s₂ := fun id value h => hwithin id value (hr₁.within id value h)
  have hbase₂ := State.target_mono hlater hbase
  have htarget := State.target_mono hwithin (State.target_withValue _)
  have hsame : e.follow s₂ base (ids₁ ++ ids₂) = (·.moved part.offset) <$> e.follow s₂ r₁ ids₂ :=
    follow_append (follow_mono hlater hpart) htype hresult
  cases hfollow : e.follow s₂ r₁ ids₂ with
  | error fault =>
    rw [hfollow] at hsame
    rw [hsecond.run_error htarget hfollow, hsingle.run_error hbase₂ hsame]
    -- nothing was defined
    refine ⟨rfl, fun target => ?_⟩
    rw [State.target_eq_ok, State.target_eq_ok, hr₂.getElem?_eq_none, hr.getElem?_eq_none]
  | ok part₂ =>
    rw [hfollow] at hsame
    have hmoved : e.follow s₂ base (ids₁ ++ ids₂) = .ok (part₂.moved part.offset) := hsame
    rw [hsecond.run_eq htarget hfollow hr₂, hsingle.run_eq hbase₂ hmoved hr]
    refine ⟨rfl, fun target => ?_⟩
    rw [State.target_withValue, State.target_withValue, Part.moved, add_assoc_lanes]

/-! ## Whole variables -/

theorem Storage.length_fill (storage values : List WordLanes) :
    (Storage.fill storage values).length = storage.length := by
  rw [Storage.fill, List.length_append, List.length_take, List.length_drop]
  omega

/-- The storage of a variable has the components of the type that the variable points to. -/
theorem componentCount_of_initialStorage {e : Environment} {v : Nat} {row : List WordLanes}
    (h : e.initialStorage v = .ok row) : ∃ type, e.declarations.objectType v = .ok type ∧
      e.declarations.componentCount type.elementId = .ok row.length := by
  simp only [Environment.initialStorage, bind_eq_ok] at h
  obtain ⟨object, hobject, type, htype, count, hcount, i, -, h⟩ := h
  refine ⟨type, bind_eq_ok.mpr ⟨object, hobject, htype⟩, ?_⟩
  rw [hcount]
  split at h
  · rw [← pure_eq_ok.mp h, List.length_replicate]
  · simp only [bind_eq_ok, pure_eq_ok] at h
    obtain ⟨_, -, values, -, rfl⟩ := h
    rw [Storage.length_fill, List.length_replicate]

/-- **A variable that is set up** is a whole one, of the type that it points to. -/
theorem pointsToWhole_of_variable {e : Environment} {s : State} {i : Instruction} {v : Nat}
    {row : List WordLanes} (hop : i.op? = some .opVariable) (hid : i.id 2 = .ok v)
    (hrow : e.initialStorage v = .ok row) (hnew : s.Lacks v) : ∃ s' type,
      (step e i).run s = (.ok .next, s') ∧ e.declarations.objectType v = .ok type ∧
        PointsToWhole e s' v v type.elementId row := by
  obtain ⟨type, htype, hcount⟩ := componentCount_of_initialStorage hrow
  refine ⟨(s.setStorage v row).withValue v (.pointer (.variable v (.splat 0))), type, ?_, htype,
    State.target_withValue _, ⟨type, htype, rfl⟩, ?_, hcount⟩
  · have hnew' : (s.setStorage v row).Lacks v := hnew
    have hcreate : (createVariable v row).run s = (.ok (), (s.setStorage v row).withValue v
        (.pointer (.variable v (.splat 0)))) := by
      rw [createVariable, run_bind]
      exact run_define hnew'
    rw [step_eq_execute hop (by decide), run_bind, execute, run_lift_bind hid, run_lift_bind hrow,
      hcreate]
    rfl
  · rw [State.storage_withValue, State.storage, State.setStorage,
      Std.TreeMap.getElem?_insert_self]

/-! ## All paths -/

/-- **A path into a type leads to a range of its components,** and paths neither of which goes on
where the other ends lead to ranges that are disjoint, in every module that declares its types once.
The components of a value that was stored to a whole variable are loaded through the path like they
are extracted along the path; a store through the path replaces them in the active lanes and nothing
else.  A chain from the result of another one is a chain with the indices of both. -/
theorem paths_lead_to_components {e : Environment} {T total : Nat} (hs : e.shader.IsAnalysed)
    (honce : DeclareOnce e.shader.module.instructions)
    (htotal : e.declarations.componentCount T = .ok total) (hsmall : total < 2 ^ 31) :
    (∀ path S, e.shader.Reaches T path S →
      ∃ start count, e.shader.Occupies T path S start count) ∧
    (∀ path path' S S' start start' count count', e.shader.Reaches T path S →
      e.shader.Reaches T path' S' → e.shader.Occupies T path S start count →
      e.shader.Occupies T path' S' start' count' → ¬ path <+: path' → ¬ path' <+: path →
      start + count ≤ start' ∨ start' + count' ≤ start) ∧
    (∀ path S start count, e.shader.Occupies T path S start count →
      LoadsAsExtracted e T path S start count ∧ StoresToPart e T path S start) ∧
    ChainsJoin e := by
  refine ⟨fun path S h => exists_occupies hs honce htotal h, ?_, fun path S start count h =>
    ⟨loadsAsExtracted h htotal hsmall, storesToPart h htotal hsmall⟩, chainsJoin e⟩
  intro path path' S S' start start' count count' hS hS' h h' hne hne'
  have hword : total < 2 ^ 32 := by omega
  exact (h.placed hs honce htotal hS hword).disjoint hs honce (h'.placed hs honce htotal hS' hword)
    htotal h.count_eq h'.count_eq hne hne'

/-! ### A structure with an array of vectors -/

namespace Nested

/-- A module with a variable of a structure: a number and an array of two vectors. -/
def words : List UInt32 := [
  0x07230203, 0x00010000, 0, 27, 0,
  0x0004000F, 4, 8, 0, -- the entry point
  0x00030016, 1, 32, 0x00040015, 2, 32, 0, 0x00040017, 3, 1, 2, -- numbers and pairs of them
  0x0004002B, 2, 4, 2, 0x0004002B, 2, 5, 1, -- two and one
  0x0004001C, 6, 3, 4, 0x0004001E, 7, 1, 6, -- the array and the structure
  0x00040020, 9, 7, 7, 0x00040020, 10, 7, 3, 0x00040020, 24, 7, 6, -- pointers
  0x0004002B, 1, 12, 0x3F800000, 0x0004002B, 1, 13, 0x40000000,
  0x0005002C, 3, 14, 12, 13, 0x0005002C, 3, 17, 13, 12, -- (1, 2) and (2, 1)
  0x0005002C, 6, 15, 14, 17, 0x0005002C, 7, 11, 12, 15, -- (1, ((1, 2), (2, 1)))
  0x00050036, 16, 8, 0, 18, 0x000200F8, 26,
  0x0004003B, 9, 19, 7, 0x0003003E, 19, 11, -- the variable, and a store of the structure
  0x00060041, 10, 20, 19, 5, 5, 0x0004003D, 3, 21, 20, -- a load of the second vector
  0x00060051, 3, 22, 11, 1, 1, 0x0003003E, 20, 14, -- and a store of another one
  0x00050041, 24, 23, 19, 5, 0x00050041, 10, 25, 23, 5, -- the same pointer, by way of the array
  0x000100FD, 0x00010038]

def module : Module := (Module.ofWords words).toOption.get (by decide +kernel)

@[irreducible] def shader : Shader :=
  (Shader.ofModule 0 module).toOption.get (by decide +kernel)

/-- All lanes take part but the second one. -/
def environment : Environment where
  shader
  layout := ⟨0, 0, []⟩
  bound := []
  active := ⟨1, 0, 1, 1⟩
  sets := ∅

def instruction (k : Nat) : Instruction := module.instructions.getD k ⟨0, []⟩

def declaration : Instruction := instruction 19
def storeWhole : Instruction := instruction 20
def chain : Instruction := instruction 21
def load : Instruction := instruction 22
def extract : Instruction := instruction 23
def storeVector : Instruction := instruction 24
def chainToArray : Instruction := instruction 25
def chainFromArray : Instruction := instruction 26

/-- The scalars of the structure, of its second vector, and of the one that replaces it. -/
def scalars : List UInt32 := [0x3F800000, 0x3F800000, 0x40000000, 0x40000000, 0x3F800000]
def second : List WordLanes := [.splat 0x40000000, .splat 0x3F800000]
def other : List UInt32 := [0x3F800000, 0x40000000]

/-- The state after an instruction. -/
def after (i : Instruction) (s : State) : State := ((step environment i).run s).2

/-- The variable is set up. -/
def declared : State := after declaration { machine := ⟨∅, {}, [], []⟩ }

/-- The module declares every type once, and a structure has five components. -/
theorem declares : environment.shader.IsAnalysed ∧
    DeclareOnce environment.shader.module.instructions ∧
    environment.declarations.componentCount 7 = .ok 5 := by
  have hanalysed : shader.IsAnalysed := by
    unfold shader
    exact isAnalysed_get _ _
  refine ⟨hanalysed, ?_, by decide +kernel⟩
  rw [DeclareOnce]
  decide +kernel

/-- The second vector is two components after three others. -/
theorem leads : environment.shader.Reaches 7 [1, 1] 3 ∧
    environment.shader.Occupies 7 [1, 1] 3 3 2 := by
  have hstruct : environment.shader.parts 7 = .ok [1, 6] := by decide +kernel
  have harray : environment.shader.parts 6 = .ok [3, 3] := by decide +kernel
  exact ⟨.into hstruct rfl (.into harray rfl (.here 3)),
    by decide +kernel, by decide +kernel, 5, declares.2.2, by decide⟩

theorem pointsToWhole :
    PointsToWhole environment declared 19 19 7 (List.replicate 5 (.splat 0)) := by
  have hzeros : environment.initialStorage 19 = .ok (List.replicate 5 (.splat 0)) := by
    decide +kernel
  obtain ⟨s, type, hstep, htype, hpointer⟩ := pointsToWhole_of_variable (i := declaration)
    (s := { machine := ⟨∅, {}, [], []⟩ }) (by decide +kernel) (by decide +kernel) hzeros rfl
  have hdeclared : declared = s := by rw [declared, after, hstep]
  have hpointee : (·.elementId) <$> environment.declarations.objectType 19 = .ok 7 := by
    decide +kernel
  rw [htype] at hpointee
  rwa [show type.elementId = 7 from Except.ok.inj hpointee, ← hdeclared] at hpointer

end Nested

open Nested in
/-- The second vector of an array in a structure is loaded and stored in place, by one chain of two
indices or by way of the array. -/
theorem nested_vector_is_part : environment.shader.Reaches 7 [1, 1] 3 ∧
    environment.shader.Occupies 7 [1, 1] 3 3 2 ∧
    (∃ s loaded, Runs environment (after storeWhole declared) [chain, load, extract] s ∧
      s.components 21 = .ok loaded ∧ s.components 22 = .ok second ∧
      Lanes.RowsAgree (fun l => environment.active.get l ≠ 0) loaded second) ∧
    (∃ s new, Runs environment declared [chain, storeVector] s ∧ s.storage 19 = .ok new ∧
      Replaced environment.active 3 (other.map .splat) (List.replicate 5 (.splat 0)) new) ∧
    ∀ target, (after chainFromArray (after chainToArray declared)).target 25 = .ok target ↔
      (after chain (after chainToArray declared)).target 20 = .ok target := by
  obtain ⟨hs, honce, htotal⟩ := declares
  obtain ⟨hreaches, hpath⟩ := leads
  obtain ⟨-, -, hparts, hjoin⟩ := paths_lead_to_components hs honce htotal (by decide)
  obtain ⟨hload, hstore⟩ := hparts [1, 1] 3 3 2 hpath
  have hids : Constants environment.declarations [5, 5] [1, 1] :=
    .cons (by decide +kernel) (.cons (by decide +kernel) .nil)
  have hchain : IsChain chain 19 [5, 5] 20 :=
    ⟨by decide +kernel, by decide +kernel, by decide +kernel, by decide +kernel⟩
  refine ⟨hreaches, hpath, ?_, ?_, ?_⟩
  · have hobject : environment.declarations.object 11 = .ok ⟨7, 71, .constant scalars⟩ := by
      decide +kernel
    obtain ⟨s₁, hstored, hload⟩ := hload declared 19 19 11 _ _ storeWhole pointsToWhole
      (hasRow_of_constant hobject rfl htotal _)
      ⟨by decide +kernel, by decide +kernel, by decide +kernel⟩
    have hafter : after storeWhole declared = s₁ := by rw [after, hstored]
    rw [← hafter] at hload
    exact hload _ [5, 5] 20 21 22 chain load extract (fun _ _ h => h) rfl hids hchain
      ⟨by decide +kernel, by decide +kernel, by decide +kernel, by decide +kernel⟩
      ⟨by decide +kernel, by decide +kernel, by decide +kernel, by decide +kernel,
        by decide +kernel⟩
      (by decide) (by unfold State.Lacks; decide +kernel)
  · have hobject : environment.declarations.object 14 = .ok ⟨3, 56, .constant other⟩ := by
      decide +kernel
    obtain ⟨s, new, hruns, hnew, hreplaced, -⟩ := hstore declared 19 19 14 20 _ _ [5, 5] chain
      storeVector pointsToWhole (hasRow_of_constant hobject rfl hpath.count_eq _) hids hchain
      ⟨by decide +kernel, by decide +kernel, by decide +kernel⟩ (by unfold State.Lacks; decide +kernel)
    exact ⟨s, new, hruns, hnew, hreplaced⟩
  · have harray : environment.shader.Occupies 7 [1] 6 1 4 :=
      ⟨by decide +kernel, by decide +kernel, 5, htotal, by decide⟩
    have hone : Constants environment.declarations [5] [1] := .cons (by decide +kernel) .nil
    have hfirst : IsChain chainToArray 19 [5] 23 :=
      ⟨by decide +kernel, by decide +kernel, by decide +kernel, by decide +kernel⟩
    have hrun := pointsToWhole.run_chain harray hone hfirst (by unfold State.Lacks; decide +kernel)
    have hafter : after chainToArray declared = declared.withValue 23
        (.pointer (.variable 19 (.splat (UInt32.ofNat 1)))) := by rw [after, hrun]
    have htype : environment.declarations.objectType 23 = .ok ⟨.opTypePointer, 44, 1, some 6⟩ := by
      decide +kernel
    rw [hafter]
    exact (hjoin declared _ _ 19 19 23 25 20 [5] [5] _ _ _ chainToArray chainFromArray chain
      pointsToWhole.target_eq hfirst hrun (pointsToWhole.follow_eq harray hone) htype rfl
      (fun _ _ h => h)
      ⟨by decide +kernel, by decide +kernel, by decide +kernel, by decide +kernel⟩ hchain
      (by unfold State.Lacks; decide +kernel) (by unfold State.Lacks; decide +kernel)).2

end HostGpu.Execution
