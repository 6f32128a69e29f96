import HostGpu.Proofs.Execution.ImageAccess
import HostGpu.Proofs.Memory.Addition
import HostGpu.Proofs.Session.AtomicAlignment
import HostGpu.Proofs.Execution.Progress

/-!
# Sums of atomic additions

Several lanes may add to one texel at once.  They do so in lane order and none of them is lost: the
texel grows by the sum of their values, and each finds what the lanes below it left
(`Session.texel_additions_sum_up`).  This is for views of words that start at a multiple of four
bytes, so that words are texels; lanes whose coordinates are outside of the view, lanes that are not
active and helpers add nothing and find zero.
-/

namespace HostGpu

open Outcome Execution Spirv Shader
open scoped BigOperators

/-! ## Words of blocks -/

/-- The word at an offset of a block, zero where there is none. -/
def BlockTable.word (blocks : BlockTable) (block o : Nat) : UInt32 :=
  (blocks[block]?.getD (.zeroed 0)).loadWord o 4

/-- A block has a size exactly if it is there. -/
theorem BlockTable.exists_of_size? {blocks : BlockTable} {block n : Nat}
    (h : blocks.size? block = some n) : ∃ m, blocks[block]? = some m ∧ m.size = n := by
  rw [size?, Option.map_eq_some_iff] at h
  exact h

/-! ## What additions come to -/

/-- An addition to words in lanes, of which `adds` tells the ones that add to the word at an offset
of a block.  Every aligned word has grown by the values of all lanes that add to it, each such lane
has found the word and the values of the lower lanes that add to it, all others have found zero, and
no byte outside of these words has changed. -/
structure SumsUp (block : Nat) (adds : Nat → Lane → Bool) (value previous : WordLanes)
    (blocks blocks' : BlockTable) : Prop where
  word : ∀ o, 4 ∣ o → (blocks'.word block o).toNat =
    ((blocks.word block o).toNat + ∑ l : Lane with adds o l, (value.get l).toNat) % 2 ^ 32
  found : ∀ o l, adds o l = true → (previous.get l).toNat =
    ((blocks.word block o).toNat + ∑ j : Lane with j < l ∧ adds o j, (value.get j).toNat) % 2 ^ 32
  others : ∀ l, (∀ o, adds o l = false) → previous.get l = 0
  bytes : ∀ b i, blocks'.byte b i ≠ blocks.byte b i →
    b = block ∧ ∃ o l, adds o l = true ∧ o ≤ i ∧ i < o + 4

namespace Execution

/-- A byte that an addition changes is one of a word that some lane adds to. -/
theorem TexelPointer.exists_addsAt_of_byte_ne {p : TexelPointer} {block b i : Nat}
    {blocks : BlockTable} {value mask : WordLanes} (hp : p.block = some block)
    (hne : (p.atomicAdd blocks value mask).2.byte b i ≠ blocks.byte b i) :
    b = block ∧ ∃ o l, p.lanes.addsAt mask o l = true ∧ o ≤ i ∧ i < o + 4 := by
  have htouches : TexelAccess.Touches ⟨p, 4, mask, .nullify⟩ b i := by
    by_contra hnot
    exact hne (byte_atomicAdd hnot)
  obtain ⟨hb, l, hon, hle, hlt⟩ := htouches
  have hrule : BoundsRule.nullify ≠ .unchecked := by decide
  have hmakes : p.lanes.makes 4 mask l = true :=
    (LanePointer.get_accessMask_ne_zero hrule).mp hon
  have hplace := LanePointer.address_eq (LanePointer.makes_iff.mp hmakes).2
  rw [hplace] at hle hlt
  refine ⟨Option.some.inj (hb.symm.trans hp), p.lanes.place l, l,
    LanePointer.addsAt_iff.mpr ⟨hmakes, rfl⟩, ?_, ?_⟩
  · exact_mod_cast hle
  · exact_mod_cast hlt

/-- Additions through a pointer to aligned words of a block sum up. -/
theorem TexelPointer.atomicAdd_sumsUp {p : TexelPointer} {block : Nat} {blocks : BlockTable}
    {m : Memory} (hp : p.block = some block) (hm : blocks[block]? = some m)
    (hroom : p.lanes.base + p.lanes.limit ≤ m.size) (hbase : 4 ∣ p.lanes.base)
    (hgrid : p.lanes.OnGrid) (value mask : WordLanes) :
    SumsUp block (p.lanes.addsAt mask) value (p.atomicAdd blocks value mask).1 blocks
      (p.atomicAdd blocks value mask).2 := by
  have hadded : p.lanes.Added m value mask 4 (p.lanes.atomicAdd m value mask) :=
    LanePointer.atomicAdd_added hgrid hroom
  have hold (o : Nat) : blocks.word block o = m.loadWord o 4 := by
    rw [BlockTable.word, hm, Option.getD_some]
  have hresult : p.atomicAdd blocks value mask =
      ((p.lanes.atomicAdd m value mask).1,
        blocks.insert block (p.lanes.atomicAdd m value mask).2) := by
    rw [atomicAdd, memory_eq hp hm]
    simp only [putMemory_eq hp hm]
  have hnew (o : Nat) : (p.atomicAdd blocks value mask).2.word block o =
      (p.lanes.atomicAdd m value mask).2.loadWord o 4 := by
    rw [hresult, BlockTable.word, Std.TreeMap.getElem?_insert_self, Option.getD_some]
  refine ⟨fun o ho => ?_, fun o l hadds => ?_, fun l hnone => ?_, fun b i hne => ?_⟩
  · rw [hnew, hold, hadded.word o (by omega), LanePointer.sumBelow_four]
  · obtain ⟨hmakes, rfl⟩ := LanePointer.addsAt_iff.mp hadds
    rw [hresult, hold]
    exact hadded.found l l.isLt hmakes
  · rw [hresult]
    refine hadded.zero l fun h => ?_
    have hadds := LanePointer.addsAt_iff.mpr ⟨h.2, rfl⟩
    rw [hnone] at hadds
    cases hadds
  · exact exists_addsAt_of_byte_ne hp hne

/-! ## Instructions -/

/-- The operands of an atomic addition through a texel pointer are there, and its result is new. -/
structure Environment.Adds (e : Environment) (s : State) (i : Instruction) (id : Nat)
    (p : TexelPointer) (value : WordLanes) : Prop where
  op : i.op? = some .opAtomicIAdd
  result : i.id 2 = .ok id
  lacks : s.Lacks id
  pointer : ∃ id, i.id 3 = .ok id ∧ s.target id = .ok (.texel p)
  value : ∃ id o, i.id 6 = .ok id ∧ e.operand s id = .ok o ∧ o.component 0 = .ok value

/-- An addition replaces memory and defines what was found. -/
theorem Environment.Adds.run_step {e : Environment} {s : State} {i : Instruction} {id : Nat}
    {p : TexelPointer} {value : WordLanes} (h : e.Adds s i id p value) :
    (step e i).run s = (.ok .next,
      (s.withBlocks (p.atomicAdd s.machine.blocks value e.storing).2).withValue id
        (.components [(p.atomicAdd s.machine.blocks value e.storing).1])) := by
  obtain ⟨pointerId, hpointerId, htarget⟩ := h.pointer
  obtain ⟨valueId, operand, hvalueId, hoperand, hvalue⟩ := h.value
  have hadd : (do
      let target ← s.target (← i.id 3)
      let value ← (← e.operand s (← i.id 6)).component 0
      atomicAdd e s value target : Except Fault (WordLanes × State)) =
      .ok ((p.atomicAdd s.machine.blocks value e.storing).1,
        s.withBlocks (p.atomicAdd s.machine.blocks value e.storing).2) := by
    simp only [hpointerId, htarget, hvalueId, hoperand, hvalue, ok_bind]
    rfl
  have hexecute : (executeAtomicAdd e i).run s = (.ok (),
      (s.withBlocks (p.atomicAdd s.machine.blocks value e.storing).2).withValue id
        (.components [(p.atomicAdd s.machine.blocks value e.storing).1])) := by
    rw [executeAtomicAdd, run_lift_bind h.result, run_inspect_bind hadd, run_bind, run_set]
    exact run_define h.lacks
  have hrun : (execute e i .opAtomicIAdd).run s = (executeAtomicAdd e i).run s := rfl
  rw [step_eq_execute h.op (by decide), run_bind, hrun, hexecute]
  rfl

/-- The access to the texels of a request, with the samples that it names. -/
def TexelRequest.access (r : TexelRequest) (sample : Option WordLanes) : ImageAccess :=
  ⟨r.image, r.type, r.coordinate, sample⟩

/-- Pointers for instructions that give one start with the view that the descriptor shows. -/
theorem Environment.texelPointer_of_shows {e : Environment} {s : State} {r : TexelRequest}
    {v : StorageView} {m : Memory} {p : TexelPointer} (hview : e.Shows s r.image v m)
    (hr : r.OfPointer) {sample : Option WordLanes} (hsample : e.samples s r.sample = .ok sample)
    (h : e.texelPointer s r = .ok p) : ∃ offsets,
      (e.coordinates (r.access sample)).offsets v.grid.layout (wordOf 4) .nullify = .ok offsets ∧
        p = v.pointer offsets := by
  have hpointer := texelPointer_eq (a := r.access sample) hview hsample r.texelSize r.rule
  have hplain : r = { r with stencil := false } := by
    rw [← hr.stencil]
  rw [hplain] at h
  have hmap := hpointer.symm.trans h
  rw [hr.texelSize, hr.rule, map_eq_ok] at hmap
  obtain ⟨offsets, hoffsets, rfl⟩ := hmap
  exact ⟨offsets, hoffsets, rfl⟩

/-- A request that gives a pointer names its samples. -/
theorem Environment.exists_samples {e : Environment} {s : State} {r : TexelRequest}
    {p : TexelPointer} (h : e.texelPointer s r = .ok p) :
    ∃ sample, e.samples s r.sample = .ok sample := by
  simp only [texelPointer, bind_eq_ok] at h
  obtain ⟨_, -, sample, hsample, -⟩ := h
  exact ⟨sample, hsample⟩

end Execution

/-! ## Words that are texels -/

/-- The lanes that add to a word are those of a mask whose coordinates name the texel there, and
only texels of the view are added to. -/
structure AddsToTexels (v : StorageView) (c : TexelCoordinates) (mask : WordLanes)
    (adds : Nat → Lane → Bool) : Prop where
  inside : ∀ o l, adds o l = true → (c.texel v.kind l).In v
  texel : ∀ t, t.In v → ∃ o, v.offset t = .ok o ∧
    ∀ l, adds o l = true ↔ mask.get l ≠ 0 ∧ c.texel v.kind l = t

section

variable {v : StorageView} {c : TexelCoordinates} {mask offsets : WordLanes} {l : Lane}

/-- Coordinates are in bounds exactly if they name a texel of the view, and then lead to it. -/
theorem TexelCoordinates.Matches.place_pointer (hv : v.Valid) (hc : c.Matches v.kind)
    (hoffsets : c.offsets v.grid.layout (wordOf v.texelSize) .nullify = .ok offsets) (l : Lane) :
    ((v.pointer offsets).lanes.laneInBounds v.texelSize l = true ↔ (c.texel v.kind l).In v) ∧
      ((c.texel v.kind l).In v →
        v.offset (c.texel v.kind l) = .ok ((v.pointer offsets).lanes.place l)) := by
  have hget : (v.pointer offsets).lanes.distance l = Word.signed
      ((c.position l).resolve v.grid.layout (wordOf v.texelSize) .nullify) := by
    rw [hc.offsets_eq, Except.ok.injEq] at hoffsets
    rw [StorageView.pointer, LanePointer.distance_advance_start, ← hoffsets, Lanes.get_ofFn]
  by_cases hin : (c.texel v.kind l).In v
  · have hend := StorageView.distance_add_le hv hin
    rw [hc.signed_resolve hv l hin] at hget
    refine ⟨iff_of_true ?_ hin, fun _ => ?_⟩
    · rw [LanePointer.laneInBounds_iff, hget]
      exact ⟨Int.natCast_nonneg _, by exact_mod_cast hend⟩
    · rw [StorageView.offset_eq hv hin, LanePointer.place, hget, Int.toNat_natCast]
      rfl
  · have houtside : (c.position l).isOutside v.grid.layout = true := by
      rw [← Bool.not_eq_false, hc.isOutside_eq_false hv l]
      exact hin
    rw [TexelPosition.resolve, if_pos ⟨rfl, houtside⟩] at hget
    have hoff := LanePointer.laneInBounds_outside (pos_of_mem_texelSizes hv.texelSize_mem)
      hv.bytes_le hget
    exact ⟨iff_of_false (by rw [hoff]; exact Bool.false_ne_true) hin, fun h => absurd h hin⟩

variable (hv : v.Valid) (htexel : v.texelSize = 4)
  (hoffsets : c.offsets v.grid.layout (wordOf 4) .nullify = .ok offsets)
include hv htexel hoffsets

/-- Texels are words on the grid of the first one. -/
theorem TexelCoordinates.onGrid_pointer : (v.pointer offsets).lanes.OnGrid := by
  rw [← htexel] at hoffsets
  have hwhole := TexelCoordinates.whole_offsets hv hoffsets
  rw [htexel] at hwhole
  exact LanePointer.onGrid_of_dvd hwhole.dvd

/-- If the image type fits the view, words are added to as the texels that they are. -/
theorem TexelCoordinates.Matches.addsToTexels (hc : c.Matches v.kind) :
    AddsToTexels v c mask ((v.pointer offsets).lanes.addsAt mask) := by
  rw [← htexel] at hoffsets
  have hplace := hc.place_pointer hv hoffsets
  rw [htexel] at hplace
  refine ⟨fun o l h => ?_, fun t ht => ⟨_, StorageView.offset_eq hv ht, fun l => ?_⟩⟩
  · exact (hplace l).1.mp (LanePointer.makes_iff.mp (LanePointer.addsAt_iff.mp h).1).2
  · rw [LanePointer.addsAt_iff, LanePointer.makes_iff, and_assoc]
    refine and_congr_right fun _ => ⟨?_, ?_⟩
    · rintro ⟨hin, heq⟩
      have hname := (hplace l).1.mp hin
      refine StorageView.offset_injective hv hname ht ?_
      rw [(hplace l).2 hname, heq, StorageView.offset_eq hv ht]
    · rintro rfl
      have hoffset := (hplace l).2 ht
      rw [StorageView.offset_eq hv ht] at hoffset
      exact ⟨(hplace l).1.mpr ht, (Except.ok.inj hoffset).symm⟩

end

namespace Session

/-- **Additions to texels sum up.**  In any state that a run visits, let the operands of an atomic
addition be there and its pointer be one to the texels of a view of words, shown by a descriptor,
that starts at a multiple of four bytes.  The addition is made, and whatever coordinates, values and
masks are, every word has then grown by the sum of the values of the lanes that add to it, modulo
`2 ^ 32`; each of these lanes has found the word and the values of the lower ones, all other lanes
have found zero, and no other byte has changed.  The lanes that add are lanes that store, and the
words that they add to are aligned and lie in the view.  If the image type fits the kind of the
view, these are the lanes whose coordinates name a texel of the view, and each adds to the texel
that it names. -/
theorem texel_additions_sum_up (commands : List Command) {e : Environment}
    {inputs : InterfaceValues} {machine : Machine} {s : State} {offset : Nat}
    (hblocks : machine.blocks = (after commands).store.blocks)
    (hs : Visits e inputs machine s offset) {i : Instruction} {id : Nat} {p : TexelPointer}
    {value : WordLanes} (hadds : e.Adds s i id p value) {r : TexelRequest} (hr : r.OfPointer)
    (hp : e.texelPointer s r = .ok p) {b : LayoutBinding} {v : StorageView}
    (hview : Shown commands e s r.image b v) (htexel : v.texelSize = 4) (hstart : 4 ∣ v.start) :
    ∃ s' previous, (Execution.step e i).run s = (.ok .next, s') ∧
      s'.components id = .ok [previous] ∧
      SumsUp v.block (p.lanes.addsAt e.storing) value previous s.machine.blocks
        s'.machine.blocks ∧
      (∀ o l, p.lanes.addsAt e.storing o l = true →
        e.storing.get l ≠ 0 ∧ 4 ∣ o ∧ v.start ≤ o ∧ o + 4 ≤ v.start + v.bytes) ∧
      ∀ sample, e.samples s r.sample = .ok sample →
        (e.coordinates (r.access sample)).Matches v.kind →
        AddsToTexels v (e.coordinates (r.access sample)) e.storing
          (p.lanes.addsAt e.storing) := by
  obtain ⟨hcreated, haddress⟩ := hview.exists_record
  have hv := hcreated.valid
  have hsize : s.machine.blocks.size? v.block = some v.blockBytes := by
    rw [hs.sameSizes_and_sourced.1, hblocks, hview.backed.memory]
  obtain ⟨m, hm, hbytes⟩ := BlockTable.exists_of_size? hsize
  obtain ⟨sample, hsample⟩ := Environment.exists_samples hp
  obtain ⟨offsets, hoffsets, rfl⟩ :=
    Environment.texelPointer_of_shows ⟨hcreated, haddress, hm, hbytes⟩ hr hsample hp
  have hgrid := TexelCoordinates.onGrid_pointer hv htexel hoffsets
  refine ⟨_, _, hadds.run_step, State.components_withValue _, ?_, fun o l h => ?_, ?_⟩
  · have hroom := hv.start_add_bytes_le.trans_eq hbytes.symm
    exact TexelPointer.atomicAdd_sumsUp rfl hm hroom hstart hgrid value e.storing
  · obtain ⟨hmakes, rfl⟩ := LanePointer.addsAt_iff.mp h
    obtain ⟨hon, hin⟩ := LanePointer.makes_iff.mp hmakes
    have hbounds : 0 ≤ (v.pointer offsets).lanes.distance l ∧
        (v.pointer offsets).lanes.distance l + (4 : Nat) ≤ v.bytes :=
      LanePointer.laneInBounds_iff.mp hin
    have hlane : (v.pointer offsets).lanes.place l % 4 = v.start % 4 := hgrid l hin
    have hplace : (v.pointer offsets).lanes.place l =
        v.start + ((v.pointer offsets).lanes.distance l).toNat := rfl
    exact ⟨hon, by omega, by omega, by omega⟩
  · intro sample' hsample' hc
    obtain rfl : sample = sample' := Except.ok.inj (hsample.symm.trans hsample')
    exact hc.addsToTexels hv htexel hoffsets

open AddOnce in
/-- All lanes add one to the second word. -/
theorem AddOnce.adds : (launch false).environment.Adds (adding false).1 (adding false).2 13
    (pointer false) (.splat 1) where
  op := (instruction false).1
  result := by decide +kernel
  lacks := by
    rw [State.Lacks]
    decide +kernel
  pointer := ⟨7, (instruction false).2.1, (instruction false).2.2.1⟩
  value := ⟨5, ⟨[.splat 1], true⟩, by decide +kernel, by decide +kernel, rfl⟩

open AddOnce in
/-- The second word of a buffer counts the lanes that add one to it, and each lane finds its number.
-/
theorem word_counts_lanes : ∃ s' previous,
    (Execution.step (launch false).environment (adding false).2).run (adding false).1 =
      (.ok .next, s') ∧ s'.components 13 = .ok [previous] ∧
    (s'.machine.blocks.word 2 4).toNat = 4 ∧ ∀ l, (previous.get l).toNat = l.val := by
  obtain ⟨-, -, -, hp, htexel, hstart, -⟩ := instruction false
  obtain ⟨offset, hvisits, -⟩ := executes false
  have hblock : (StorageView.buffer (view false)).block = 2 := by decide +kernel
  have hfirst : 4 ∣ (StorageView.buffer (view false)).start := by
    rw [hstart]
    decide
  obtain ⟨s', previous, hrun, hcomponents, hsums, -⟩ := texel_additions_sum_up (commands false) rfl
    hvisits adds ⟨rfl, rfl, rfl⟩ hp (shown false) htexel hfirst
  have hold : ((adding false).1.machine.blocks.word 2 4).toNat = 0 := by decide +kernel
  refine ⟨s', previous, hrun, hcomponents, ?_, fun l => ?_⟩
  · rw [← hblock, hsums.word 4 (dvd_refl 4), hblock, hold]
    decide +kernel
  · have hall : (pointer false).lanes.addsAt (launch false).environment.storing 4 l = true := by
      revert l
      decide +kernel
    rw [hsums.found 4 l hall, hblock, hold]
    revert l
    decide +kernel

end Session

end HostGpu
