import HostGpu.Proofs.Execution.Ends
import HostGpu.Proofs.Execution.LaneLocal.Variables
import HostGpu.Proofs.Execution.StoringLanes
import HostGpu.Proofs.Session.Reachable
import HostGpu.Proofs.Shader.Objects

/-!
# Lanes that do not take part

Loads and computations are made in all lanes, but variables are stored to in active lanes only.  In
every other lane an output therefore ends with what it started with, its constant initial value or
zeros.  Together with the lanes that store to memory this is all that a run leaves behind on behalf
of its lanes (`idle_lanes_store_nothing`).
-/

namespace HostGpu.Execution

open Lanes Outcome Spirv Shader

/-- A lane does not take part in a run. -/
def Environment.Idle (e : Environment) (l : Lane) : Prop := e.active.get l = 0

/-- An identifier is that of an output. -/
def Environment.IsOutput (e : Environment) (id : Nat) : Prop :=
  e.declarations.objects[id]?.any (·.kind = .variable .output) = true

variable {e : Environment} {i : Instruction} {s s' s'' : State} {id : Nat}
  {storage : List WordLanes} {inputs outputs : InterfaceValues} {machine : Machine}

/-! ## Storages -/

/-- A store leaves the lanes that are off as they are. -/
theorem Storage.rowsAgree_store (storage : List WordLanes) (offsets mask : WordLanes)
    (components : List WordLanes) :
    RowsAgree (fun l => mask.get l = 0) (store storage offsets mask components) storage := by
  refine RowsAgree.mapIdx_self ?_ storage
  intro j v l hl
  rw [get_ofFn, storedLane]
  cases index? offsets l 0 with
  | none => rfl
  | some first => exact if_pos (.inl hl)

/-- **What happens to storages** from one state to another: idle lanes keep what they hold, or the
variable is set up with its initial value. -/
def KeepsIdle (e : Environment) (s s' : State) : Prop :=
  ∀ (id : Nat) (storage : List WordLanes), s.storages[id]? = some storage →
    ∃ storage', s'.storages[id]? = some storage' ∧
      (RowsAgree e.Idle storage' storage ∨ e.initialStorage id = .ok storage')

namespace KeepsIdle

theorem of_storages (h : s'.storages = s.storages) : KeepsIdle e s s' :=
  fun _ storage hs => ⟨storage, h ▸ hs, .inl (.refl storage)⟩

/-- The storage of one variable is replaced. -/
theorem setStorage (h : ∀ old, s.storages[id]? = some old →
      RowsAgree e.Idle storage old ∨ e.initialStorage id = .ok storage) :
    KeepsIdle e s (s.setStorage id storage) := by
  intro id' old hold
  rw [State.setStorage, Std.TreeMap.getElem?_insert]
  split
  case isTrue heq =>
    obtain rfl := Std.LawfulEqOrd.compare_eq_iff_eq.mp heq
    exact ⟨storage, rfl, h old hold⟩
  case isFalse => exact ⟨old, hold, .inl (.refl old)⟩

/-- Something is stored to a variable in the active lanes. -/
theorem store (h : s.storage id = .ok storage) (offsets : WordLanes)
    (components : List WordLanes) :
    KeepsIdle e s (s.setStorage id (Storage.store storage offsets e.active components)) := by
  refine setStorage fun old hold => ?_
  obtain rfl := Option.some.inj (hold.symm.trans (State.storage_eq_ok.mp h))
  exact .inl (Storage.rowsAgree_store old offsets e.active components)

end KeepsIdle

/-! ## Instructions -/

theorem keepsIdle_compute (f : State → Except Fault (List WordLanes)) :
    Leaves (KeepsIdle e s) (compute i f) s :=
  leaves_compute fun _ _ => .of_storages rfl

theorem keepsIdle_storedState {value : Operand} {target : Target}
    (h : storedState e s value target = .ok s') : KeepsIdle e s s' := by
  cases target with
  | descriptor address => cases h
  | «variable» id offsets =>
    simp only [storedState, bind_eq_ok, pure_eq_ok] at h
    obtain ⟨storage, hstorage, rfl⟩ := h
    exact .store hstorage offsets value.components
  | texel p =>
    simp only [storedState, bind_eq_ok, pure_eq_ok] at h
    obtain ⟨_, -, rfl⟩ := h
    exact .of_storages rfl

theorem keepsIdle_executeStore : Leaves (KeepsIdle e s) (executeStore e i) s := by
  refine leaves_inspect_bind fun s' hs' => ends_set ?_
  simp only [bind_eq_ok] at hs'
  obtain ⟨_, -, _, -, _, -, _, -, hs'⟩ := hs'
  exact keepsIdle_storedState hs'

theorem keepsIdle_atomicAdd {value previous : WordLanes} {target : Target}
    (h : atomicAdd e s value target = .ok (previous, s')) : KeepsIdle e s s' := by
  cases target with
  | descriptor address => cases h
  | «variable» id offsets =>
    simp only [atomicAdd, bind_eq_ok, pure_eq_ok, Prod.mk.injEq] at h
    obtain ⟨storage, hstorage, -, rfl⟩ := h
    exact .store hstorage offsets _
  | texel p =>
    simp only [atomicAdd, Except.ok.injEq, Prod.mk.injEq] at h
    obtain ⟨-, rfl⟩ := h
    exact .of_storages rfl

theorem keepsIdle_executeAtomicAdd : Leaves (KeepsIdle e s) (executeAtomicAdd e i) s := by
  refine leaves_lift_bind fun id _ => ?_
  refine leaves_inspect_bind fun p hp => ?_
  obtain ⟨previous, s'⟩ := p
  simp only [bind_eq_ok] at hp
  obtain ⟨_, -, _, -, _, -, _, -, _, -, hp⟩ := hp
  have hs' : Ends (fun _ => KeepsIdle e s) (fun _ => True) (set s') s :=
    ends_set (keepsIdle_atomicAdd hp)
  exact hs'.bind fun _ _ hs' => ends_define trivial fun _ => hs'

theorem keepsIdle_imageWrite :
    Leaves (KeepsIdle e s) (do set (← inspect fun s => e.imageWrite s i)) s := by
  refine leaves_inspect_bind fun s' hs' => ends_set ?_
  simp only [Environment.imageWrite, bind_eq_ok, pure_eq_ok] at hs'
  obtain ⟨_, -, rfl⟩ := hs'
  exact .of_storages rfl

theorem keepsIdle_executeSampling (op : Opcode) :
    Leaves (KeepsIdle e s) (executeSampling e i op) s := by
  refine leaves_lift_bind fun site _ => ?_
  refine leaves_lift_bind fun count _ => ?_
  split
  · refine (ends_sampleTexels trivial (.any fun _ => trivial) (fun _ _ => .any fun _ => trivial)
      (.any fun _ => trivial)).bind ?_
    rintro texels _ ⟨machine, rfl⟩
    exact ends_define trivial fun _ => .of_storages rfl
  · exact ends_define trivial fun _ => .of_storages rfl

/-- **What an instruction does to storages**: idle lanes keep what they hold. -/
theorem keepsIdle_step (e : Environment) (i : Instruction) (s : State) :
    Leaves (KeepsIdle e s) (step e i) s := by
  have hsame : KeepsIdle e s s := .of_storages rfl
  have hvalue (id : Nat) (v : Value) : Leaves (KeepsIdle e s) (define id v) s :=
    ends_define trivial fun _ => .of_storages rfl
  refine ends_step hsame trivial (.any fun _ => trivial) fun op _ => ?_
  unfold execute
  split
  case h_1 | h_2 | h_3 | h_4 | h_5 => exact ends_pure hsame
  case h_6 =>
    refine leaves_lift_bind fun id _ => ?_
    refine leaves_lift_bind fun storage hstorage => ?_
    have hset : KeepsIdle e s (s.setStorage id storage) := .setStorage fun _ _ => .inr hstorage
    exact ends_createVariable trivial fun _ => hset
  case h_8 =>
    refine leaves_lift_bind fun _ _ => leaves_lift_bind fun _ _ => ?_
    exact leaves_lift_bind fun _ _ => leaves_inspect_bind fun v _ => hvalue _ v
  case h_9 => exact keepsIdle_executeStore
  case h_10 | h_11 =>
    refine leaves_lift_bind fun _ _ => leaves_lift_bind fun _ _ => ?_
    exact leaves_inspect_bind fun t _ => hvalue _ (.pointer t)
  case h_15 => exact leaves_lift_bind fun _ _ => keepsIdle_compute _
  case h_20 => exact keepsIdle_imageWrite
  case h_21 =>
    exact leaves_inspect_bind fun p _ => leaves_lift_bind fun _ _ => hvalue _ (.pointer (.texel p))
  case h_22 | h_23 =>
    exact leaves_inspect_bind fun t _ => leaves_lift_bind fun _ _ => hvalue _ (.pointer t)
  case h_24 => exact keepsIdle_executeAtomicAdd
  case h_25 =>
    split
    · exact keepsIdle_compute _
    · exact keepsIdle_compute _
    · split
      · exact keepsIdle_executeSampling op
      · exact ends_throw trivial
  all_goals exact keepsIdle_compute _

/-! ## Runs -/

/-- The storage of a variable holds its initial value in idle lanes. -/
def HoldsInitial (e : Environment) (id : Nat) (s : State) : Prop :=
  ∃ initial storage, e.initialStorage id = .ok initial ∧ s.storages[id]? = some storage ∧
    RowsAgree e.Idle storage initial

theorem HoldsInitial.keep (h : HoldsInitial e id s) (hs : KeepsIdle e s s') :
    HoldsInitial e id s' := by
  obtain ⟨initial, storage, hinitial, hstorage, hrows⟩ := h
  obtain ⟨storage', hstorage', hkept | hcreated⟩ := hs id storage hstorage
  · exact ⟨initial, storage', hinitial, hstorage', hkept.trans hrows⟩
  · exact ⟨storage', storage', hcreated, hstorage', .refl storage'⟩

theorem HoldsInitial.created (hinitial : e.initialStorage id = .ok storage)
    (hstorage : s.storages[id]? = some storage) : HoldsInitial e id s :=
  ⟨storage, storage, hinitial, hstorage, .refl storage⟩

/-- The storage of another variable is replaced. -/
theorem HoldsInitial.other (h : HoldsInitial e id s) {id' : Nat} (hne : id' ≠ id) :
    HoldsInitial e id (s.setStorage id' storage) := by
  obtain ⟨initial, old, hinitial, hold, hrows⟩ := h
  refine ⟨initial, old, hinitial, ?_, hrows⟩
  rw [State.setStorage, Std.TreeMap.getElem?_insert, if_neg]
  · exact hold
  · exact fun heq => hne (Std.LawfulEqOrd.compare_eq_iff_eq.mp heq)

/-- Setting up variables brings the initial value of an output about, and keeps that of others. -/
theorem holdsInitial_initGlobal (houtput : e.IsOutput id) {id' : Nat}
    (h : id' = id ∨ HoldsInitial e id s) :
    Leaves (HoldsInitial e id) (e.initGlobal inputs id') s := by
  refine leaves_lift_bind fun object hobject => ?_
  have hclass (heq : id' = id) : object.kind = .variable .output := by
    rw [Environment.IsOutput, ← heq, Declarations.object_eq_ok.mp hobject] at houtput
    simpa using houtput
  have hkept (hne : object.kind ≠ .variable .output) : HoldsInitial e id s :=
    h.resolve_left fun heq => hne (hclass heq)
  split
  case h_1 storageClass hkind =>
    split
    case isTrue hresource =>
      have hkept := hkept fun houtput => by cases hkind.symm.trans houtput; cases hresource
      split
      · exact leaves_lift_bind fun a _ => ends_define trivial fun _ => hkept
      · exact ends_pure hkept
    case isFalse =>
      refine leaves_lift_bind fun storage hstorage => ?_
      have hcreate (storage' : List WordLanes) (hsame : id' = id → storage' = storage) :
          Leaves (HoldsInitial e id) (createVariable id' storage') s := by
        refine ends_createVariable trivial fun _ => ?_
        by_cases heq : id' = id
        · subst heq
          exact .created (hsame rfl ▸ hstorage) Std.TreeMap.getElem?_insert_self
        · exact (h.resolve_left heq).other heq
      split
      case isTrue hinput =>
        refine leaves_lift_bind fun storage' _ => hcreate storage' fun heq => ?_
        subst hinput
        cases hkind.symm.trans (hclass heq)
      case isFalse => exact hcreate storage fun _ => rfl
  case h_2 hother => exact ends_pure (hkept fun hkind => hother _ hkind)

/-- Whoever is asked for outputs after a run finds the storages of outputs. -/
theorem exists_output {location : Nat} (h : (e.outputs s)[location]? = some storage) :
    ∃ id ∈ e.declarations.globals, e.IsOutput id ∧
      e.declarations.decorations[id]?.bind (·.location) = some location ∧
      s.storages[id]? = some storage := by
  revert h
  refine List.foldlRecOn (motive := fun values : InterfaceValues =>
    values[location]? = some storage → _) e.declarations.globals _ ?_ ?_
  · intro h
    rw [Std.TreeMap.getElem?_emptyc] at h
    cases h
  · intro values ih id hid h
    dsimp only at h
    split at h
    case h_1 place row houtput hplace hrow =>
      rw [Std.TreeMap.getElem?_insert] at h
      split at h
      case isTrue heq =>
        obtain rfl := Std.LawfulEqOrd.compare_eq_iff_eq.mp heq
        exact ⟨id, hid, houtput, hplace, hrow.trans h⟩
      case isFalse => exact ih h
    case h_2 => exact ih h

/-- **Idle lanes keep their outputs.** -/
theorem holdsInitial_of_run (e : Environment) (inputs : InterfaceValues) (machine : Machine) :
    Ends (fun outputs s => (∀ id ∈ e.declarations.globals, e.IsOutput id → HoldsInitial e id s) ∧
      outputs = e.outputs s) (fun _ => True) (run e inputs) { machine } := by
  refine leaves_run ?_ fun s _ i _ _ hs => ?_
  · rw [Leaves, Ends]
    rcases hrun : (e.declarations.globals.forM (e.initGlobal inputs)).run { machine } with
      ⟨_ | _, s⟩
    · trivial
    · intro id hid houtput
      have hstart : Leaves (HoldsInitial e id) (e.declarations.globals.forM (e.initGlobal inputs))
          { machine } :=
        leaves_forM hid (fun s => holdsInitial_initGlobal houtput (.inl rfl))
          fun id' _ s hs => holdsInitial_initGlobal houtput (.inr hs)
      rwa [Leaves, Ends, hrun] at hstart
  · refine (keepsIdle_step e i s).mono ?_
    exact fun _ s' hkeeps id hid houtput => (hs id hid houtput).keep hkeeps

/-- **Lanes that do not take part leave nothing behind.**  Whatever a run changes in memory some
instruction stores to a texel or a word on behalf of a lane that is active and no helper, in each
state that the run visits and so in the whole run, whether it ends with a fault or not.  If the run
gives outputs, all of them hold their initial values in lanes that are not active. -/
theorem idle_lanes_store_nothing (e : Environment) (inputs : InterfaceValues) (machine : Machine)
    (hhelper : e.HelpersMasked) :
    (∀ s offset i block j, Visits e inputs machine s offset → e.shader.definition offset = .ok i →
      ((step e i).run s).2.machine.blocks.byte block j ≠ s.machine.blocks.byte block j →
      ∃ l, e.active.get l ≠ 0 ∧ e.helper.get l = 0 ∧ LaneWrites e s i l block j) ∧
    SameSizes machine.blocks ((run e inputs).run { machine }).2.machine.blocks ∧
    (∀ block j, ((run e inputs).run { machine }).2.machine.blocks.byte block j ≠
        machine.blocks.byte block j →
      ∃ s offset i l, Visits e inputs machine s offset ∧ e.shader.definition offset = .ok i ∧
        e.active.get l ≠ 0 ∧ e.helper.get l = 0 ∧ LaneWrites e s i l block j) ∧
    ∀ outputs s, (run e inputs).run { machine } = (.ok outputs, s) →
      (∀ id ∈ e.declarations.globals, e.IsOutput id → HoldsInitial e id s) ∧
      ∀ (location : Nat) (row : List WordLanes), outputs[location]? = some row →
        ∃ id ∈ e.declarations.globals, e.IsOutput id ∧
          e.declarations.decorations[id]?.bind (·.location) = some location ∧
          ∃ initial, e.initialStorage id = .ok initial ∧ RowsAgree e.Idle row initial := by
  refine ⟨?_, run_sameSizes e inputs machine, ?_, ?_⟩
  · intro s offset i block j _ _ hbyte
    obtain ⟨l, hl, hwrites⟩ := exists_laneWrites_of_byte_ne hbyte
    obtain ⟨hactive, hnone⟩ := e.active_of_storing hhelper hl
    exact ⟨l, hactive, hnone, hwrites⟩
  · intro block j hbyte
    obtain ⟨s, offset, i, l, hs, hi, hl, hwrites⟩ := exists_laneWrites_of_run hbyte
    obtain ⟨hactive, hnone⟩ := e.active_of_storing hhelper hl
    exact ⟨s, offset, i, l, hs, hi, hactive, hnone, hwrites⟩
  · intro outputs s hrun
    have hends := holdsInitial_of_run e inputs machine
    rw [Ends, hrun] at hends
    obtain ⟨hholds, rfl⟩ := hends
    refine ⟨hholds, fun location row hrow => ?_⟩
    obtain ⟨id, hid, houtput, hplace, hstorage⟩ := exists_output hrow
    obtain ⟨initial, row', hinitial, hrow', hrows⟩ := hholds id hid houtput
    obtain rfl : row = row' := Option.some.inj (hstorage.symm.trans hrow')
    exact ⟨id, hid, houtput, hplace, initial, hinitial, hrows⟩

/-! ### A group that is covered in part -/

namespace PartlyCovered

/-- A module that stores one to the second texel of a storage image and to its output, which starts
with five. -/
def words : List UInt32 := [
  0x07230203, 0x00010000, 0, 16, 0,
  0x0004000F, 5, 8, 0, -- the entry point
  0x00040047, 6, 34, 0, 0x00040047, 6, 33, 0, -- set 0 and binding 0
  0x00040047, 13, 30, 0, -- location 0
  0x00040015, 1, 32, 0, 0x00090019, 2, 1, 0, 0, 0, 0, 2, 33, -- words, and an image of words
  0x00040020, 3, 0, 2, 0x00040020, 4, 11, 1, 0x00040020, 14, 3, 1, -- pointers to these
  0x0004002B, 1, 5, 1, 0x0004002B, 1, 11, 0, 0x0004002B, 1, 15, 5, -- one, zero and five
  0x0004003B, 3, 6, 0, 0x0005003B, 14, 13, 3, 15, -- the image and the output
  0x00050036, 9, 8, 0, 10, 0x000200F8, 12,
  0x0006003C, 4, 7, 6, 5, 11, -- a pointer to the texel
  0x0003003E, 7, 5, 0x0003003E, 13, 5, -- both stores
  0x000100FD, 0x00010038]

/-- A session that gives the module an image of four texels.  All names are empty. -/
def commands : List Session.Command := [
  .device "" true none,
  .image "" "" { kind := .dim1, format := .r32Uint, extent := ⟨4, 1, 1⟩ },
  .view "" "" { preset := .wholeImage },
  .setLayout "" "" [{ number := 0, kind := .storageImage }],
  .set "" "",
  .update "" [{ binding := 0, elements := .views [""] }] [],
  .pipelineLayout "" "" [""],
  .shader "" "" words,
  .routine "" "" "" {},
  .bind "" "" 0]

/-- The second lane is a helper and the third one does not take part. -/
def environment : Environment :=
  { ((Session.after commands).routines[""]?).get (by decide +kernel) with
    sets := (Session.after commands).store.sets
    active := ⟨0xFFFFFFFF, 0xFFFFFFFF, 0, 0xFFFFFFFF⟩
    helper := ⟨0, 0xFFFFFFFF, 0, 0⟩ }

def untouched : Machine where
  blocks := (Session.after commands).store.blocks
  device := {}
  cache := []
  events := []

theorem helpersMasked : environment.HelpersMasked := by decide +kernel

/-- The second texel has changed. -/
theorem byte_changed :
    ((run environment ∅).run { machine := untouched }).2.machine.blocks.byte 2 4 ≠
      untouched.blocks.byte 2 4 := by decide +kernel

theorem outputs_found : ((run environment ∅).run { machine := untouched }).1.toOption.bind (·[0]?) =
    some [⟨1, 1, 5, 1⟩] := by decide +kernel

end PartlyCovered

open PartlyCovered in
/-- The texel was stored to by the first or the last lane, and the third lane keeps its five. -/
theorem partly_covered_group_stores :
    (∃ s offset i l, Visits environment ∅ untouched s offset ∧ (l = 0 ∨ l = 3) ∧
      LaneWrites environment s i l 2 4) ∧
    ∃ id initial, environment.IsOutput id ∧ environment.initialStorage id = .ok initial ∧
      RowsAgree environment.Idle [⟨1, 1, 5, 1⟩] initial := by
  obtain ⟨-, -, hbytes, houtputs⟩ :=
    idle_lanes_store_nothing environment ∅ untouched helpersMasked
  constructor
  · obtain ⟨s, offset, i, l, hs, -, hactive, hnone, hwrites⟩ := hbytes 2 4 byte_changed
    have hlanes : ∀ l, environment.active.get l ≠ 0 → environment.helper.get l = 0 →
        l = 0 ∨ l = 3 := by decide +kernel
    exact ⟨s, offset, i, l, hs, hlanes l hactive hnone, hwrites⟩
  · have hfound := outputs_found
    rcases hrun : (run environment ∅).run { machine := untouched } with ⟨_ | outputs, s⟩
    · rw [hrun] at hfound
      cases hfound
    · rw [hrun] at hfound
      obtain ⟨-, hrows⟩ := houtputs outputs s hrun
      obtain ⟨id, -, houtput, -, initial, hinitial, hrow⟩ := hrows 0 _ hfound
      exact ⟨id, initial, houtput, hinitial, hrow⟩

end HostGpu.Execution
