import HostGpu.Proofs.Descriptor.Pool
import HostGpu.Proofs.Descriptor.Set
import HostGpu.Proofs.Execution.Run
import HostGpu.Store.Lifetime

/-!
# The memory behind what is held

In a sound store the images, buffers and views that are held, from outside or by a descriptor, were
made with the rules obeyed, and the blocks of their memory are there with the sizes they were made
with.  New things, updates of sets and runs keep a store sound, and so does ending what is no longer
held: memory goes only when nothing refers to it.
-/

namespace HostGpu

open Outcome

/-! ## Things with memory -/

/-- An image that was made and whose memory is there. -/
structure Image.Backed (i : Image) (blocks : BlockTable) : Prop where
  made : ∃ device block info memory, Image.create device block info = .ok (i, memory)
  memory : blocks.size? i.block = some i.info.size

/-- A buffer that was made and whose memory is there. -/
structure Buffer.Backed (b : Buffer) (blocks : BlockTable) : Prop where
  made : ∃ device block size memory, Buffer.create device block size = .ok (b, memory)
  memory : blocks.size? b.block = some b.size

/-- A view of something that was made and whose memory is there. -/
structure StorageView.Backed (v : StorageView) (blocks : BlockTable) : Prop where
  created : v.Created
  memory : blocks.size? v.block = some v.blockBytes

/-- A resource whose memory is there. -/
def Resource.Backed (blocks : BlockTable) : Resource → Prop
  | buffer b => b.Backed blocks
  | bufferView v => (StorageView.buffer v).Backed blocks
  | view v => (StorageView.image v).Backed blocks
  | sampler _ => True

theorem Resource.backed_resource {v : StorageView} {blocks : BlockTable} :
    v.resource.Backed blocks ↔ v.Backed blocks := by
  cases v <;> rfl

/-- A resource is still backed where its block kept its size. -/
theorem Resource.Backed.mono {x : Resource} {blocks blocks' : BlockTable}
    (h : x.Backed blocks)
    (hsize : ∀ b n, x.block? = some b → blocks.size? b = some n → blocks'.size? b = some n) :
    x.Backed blocks' := by
  cases x with
  | buffer b => exact ⟨h.made, hsize _ _ rfl h.memory⟩
  | bufferView v => exact ⟨h.created, hsize _ _ rfl h.memory⟩
  | view v => exact ⟨h.created, hsize _ _ rfl h.memory⟩
  | sampler x => trivial

theorem DescriptorSet.Sound.mono {P Q : Resource → Prop} {d : DescriptorSet} (h : d.Sound P)
    (hPQ : ∀ r ∈ d.resources.all, P r → Q r) : d.Sound Q :=
  ⟨h.formed, h.consistent, fun r hr => hPQ r hr (h.kept r hr)⟩

namespace Store

/-! ## Sound stores -/

/-- What is held from outside has its memory, blocks have numbers that were given out, and
descriptors show what they keep.  Of each set, only elements that `written` names keep something. -/
structure Sound (s : Store) (r : Roots) (written : Nat → ElementKey → Prop) : Prop where
  fresh : ∀ block n, s.blocks.size? block = some n → block < s.next
  images : ∀ i ∈ r.images, i.Backed s.blocks
  resources : ∀ x ∈ r.resources, x.Backed s.blocks
  layouts : ∀ l ∈ r.setLayouts, ∀ b ∈ l.bindings, b.SamplersFit
  sets : ∀ (n : Nat) (d : DescriptorSet), s.sets[n]? = some d →
    d.Sound (Resource.Backed s.blocks)
  unwritten : ∀ (n : Nat) (d : DescriptorSet), s.sets[n]? = some d →
    ∀ k, ¬ written n k → d.resources.find? k = none

namespace Sound

variable {s s' : Store} {r r' : Roots} {w w' : Nat → ElementKey → Prop}

/-- Other things may be held, if they have their memory. -/
theorem roots (h : s.Sound r w) (himages : ∀ i ∈ r'.images, i ∈ r.images ∨ i.Backed s.blocks)
    (hresources : ∀ x ∈ r'.resources, x ∈ r.resources ∨ x.Backed s.blocks)
    (hlayouts : ∀ l ∈ r'.setLayouts, l ∈ r.setLayouts ∨ ∀ b ∈ l.bindings, b.SamplersFit) :
    s.Sound r' w where
  fresh := h.fresh
  images i hi := (himages i hi).elim (h.images i) id
  resources x hx := (hresources x hx).elim (h.resources x) id
  layouts l hl := (hlayouts l hl).elim (h.layouts l) id
  sets := h.sets
  unwritten := h.unwritten

/-- More may be written. -/
theorem mono (h : s.Sound r w) (hww : ∀ n k, w n k → w' n k) : s.Sound r w' :=
  { h with unwritten := fun n d hd k hk => h.unwritten n d hd k fun hw => hk (hww n k hw) }

/-- Blocks may be added and change their bytes. -/
theorem blocks (h : s.Sound r w) (hsets : ∀ n : Nat, s'.sets[n]? = s.sets[n]?)
    (hsizes : ∀ b n, s.blocks.size? b = some n → s'.blocks.size? b = some n)
    (hfresh : ∀ b n, s'.blocks.size? b = some n → b < s'.next) : s'.Sound r w where
  fresh := hfresh
  images i hi := ⟨(h.images i hi).made, hsizes _ _ (h.images i hi).memory⟩
  resources x hx := (h.resources x hx).mono fun b n _ => hsizes b n
  layouts := h.layouts
  sets n d hd := (h.sets n d (by rwa [← hsets])).mono fun _ _ hx => hx.mono fun b n _ => hsizes b n
  unwritten n d hd := h.unwritten n d (by rwa [← hsets])

/-- Numbers may be given out and devices may change. -/
theorem congr (h : s.Sound r w) (hsets : s'.sets = s.sets) (hblocks : s'.blocks = s.blocks)
    (hnext : s.next ≤ s'.next) : s'.Sound r w := by
  refine h.blocks (fun n => by rw [hsets]) (fun b n hb => ?_) fun b n hb => ?_
  · rwa [hblocks]
  · rw [hblocks] at hb
    exact (h.fresh b n hb).trans_le hnext

end Sound

variable {s s' : Store} {r : Roots} {w w' : Nat → ElementKey → Prop}

/-! ## New memory -/

theorem size?_setMemory (s : Store) (block b : Nat) (m : Memory) :
    (s.setMemory block m).blocks.size? b =
      if block = b then some m.size else s.blocks.size? b := by
  simp only [setMemory, BlockTable.size?, Std.TreeMap.getElem?_insert, Nat.compare_eq_eq]
  split <;> rfl

/-- A new block of memory. -/
theorem Sound.addBlock (h : s.Sound r w) (m : Memory) :
    (s.advance.setMemory s.next m).Sound r w ∧
      (s.advance.setMemory s.next m).blocks.size? s.next = some m.size := by
  refine ⟨h.blocks (fun _ => rfl) (fun b n hb => ?_) fun b n hb => ?_, ?_⟩
  · have hlt := h.fresh b n hb
    rw [size?_setMemory, if_neg (by omega)]
    exact hb
  · rw [size?_setMemory] at hb
    change b < s.next + 1
    split at hb
    · omega
    · exact (h.fresh b n hb).trans (Nat.lt_succ_self _)
  · rw [size?_setMemory, if_pos rfl]

theorem Sound.createImage (h : s.Sound r w) {device : Nat} {info : ImageInfo} {made : Made Image}
    (hmade : s.createImage device info = .ok made) :
    made.store.Sound r w ∧ made.value.Backed made.store.blocks := by
  simp only [Store.createImage, bind_eq_ok, pure_eq_ok] at hmade
  obtain ⟨⟨image, memory⟩, himage, rfl⟩ := hmade
  obtain ⟨hsound, hsize⟩ := h.addBlock memory
  refine ⟨hsound, ⟨_, _, _, _, himage⟩, ?_⟩
  obtain ⟨-, -, rfl, rfl⟩ := Image.create_eq_ok.mp himage
  exact hsize

theorem Sound.addBuffer (h : s.Sound r w) {device size : Nat} {buffer : Buffer} {memory : Memory}
    (hbuffer : Buffer.create device s.next size = .ok (buffer, memory)) {m : Memory}
    (hm : m.size = memory.size) :
    (s.advance.setMemory s.next m).Sound r w ∧
      buffer.Backed (s.advance.setMemory s.next m).blocks := by
  obtain ⟨hsound, hsize⟩ := h.addBlock m
  refine ⟨hsound, ⟨_, _, _, _, hbuffer⟩, ?_⟩
  obtain ⟨-, -, rfl, rfl⟩ := Buffer.create_eq_ok.mp hbuffer
  exact hsize.trans (congrArg some hm)

theorem Sound.createBuffer (h : s.Sound r w) {device size : Nat} {made : Made Buffer}
    (hmade : s.createBuffer device size = .ok made) :
    made.store.Sound r w ∧ made.value.Backed made.store.blocks := by
  simp only [Store.createBuffer, bind_eq_ok, pure_eq_ok] at hmade
  obtain ⟨⟨buffer, memory⟩, hbuffer, rfl⟩ := hmade
  exact h.addBuffer hbuffer rfl

theorem Sound.createBufferOfBytes (h : s.Sound r w) {device : Nat} {data : List UInt8}
    {made : Made Buffer} (hmade : s.createBufferOfBytes device data = .ok made) :
    made.store.Sound r w ∧ made.value.Backed made.store.blocks := by
  simp only [Store.createBufferOfBytes, Buffer.ofBytes, bind_eq_ok, pure_eq_ok] at hmade
  obtain ⟨-, ⟨⟨buffer, memory⟩, hbuffer, rfl⟩, rfl⟩ := hmade
  exact h.addBuffer hbuffer (Memory.size_storeBytes _ _ _)

/-- Memory that is there changes its bytes. -/
theorem Sound.setMemory (h : s.Sound r w) {block : Nat} {m : Memory}
    (hsize : s.blocks.size? block = some m.size) : (s.setMemory block m).Sound r w := by
  have hsame (b : Nat) : (s.setMemory block m).blocks.size? b = s.blocks.size? b := by
    rw [size?_setMemory]
    split
    · rename_i hb
      rw [← hb, hsize]
    · rfl
  refine h.blocks (fun _ => rfl) (fun b n hb => (hsame b).trans hb) fun b n hb => ?_
  exact h.fresh b n ((hsame b).symm.trans hb)

/-! ## Views -/

theorem Sound.createView (h : s.Sound r w) {image : Image} (himage : image.Backed s.blocks)
    {info : ViewInfo} {made : Made ImageView} (hmade : s.createView image info = .ok made) :
    made.store.Sound r w ∧ (Resource.view made.value).Backed made.store.blocks := by
  simp only [Store.createView, bind_eq_ok, pure_eq_ok] at hmade
  obtain ⟨view, hview, rfl⟩ := hmade
  obtain ⟨device, block, imageInfo, memory, hcreate⟩ := himage.made
  have hof : view.image = image := by
    simp only [ImageView.create, bind_eq_ok, pure_eq_ok] at hview
    obtain ⟨-, -, rfl⟩ := hview
    rfl
  refine ⟨h.congr rfl rfl (Nat.le_succ _), .image hcreate hview, ?_⟩
  rw [← hof] at himage
  exact himage.memory

theorem Sound.createBufferView (h : s.Sound r w) {buffer : Buffer}
    (hbuffer : buffer.Backed s.blocks) {format : Format} {range : Span} {made : Made BufferView}
    (hmade : s.createBufferView buffer format range = .ok made) :
    made.store.Sound r w ∧ (Resource.bufferView made.value).Backed made.store.blocks := by
  simp only [Store.createBufferView, bind_eq_ok, pure_eq_ok] at hmade
  obtain ⟨view, hview, rfl⟩ := hmade
  obtain ⟨device, block, size, memory, hcreate⟩ := hbuffer.made
  have hof : view.buffer = buffer := by
    simp only [BufferView.create, bind_eq_ok, pure_eq_ok] at hview
    obtain ⟨-, -, rfl⟩ := hview
    rfl
  refine ⟨h.congr rfl rfl (Nat.le_succ _), .buffer hcreate hview, ?_⟩
  rw [← hof] at hbuffer
  exact hbuffer.memory

/-! ## Sets -/

/-- A new set, which has not been written. -/
theorem Sound.addSet (h : s.Sound r w) {layout : SetLayout}
    (hfit : ∀ b ∈ layout.bindings, b.SamplersFit) {place : Option PoolPlace} {d : DescriptorSet}
    (hcreate : DescriptorSet.create layout place = .ok d) : (s.addSet d).store.Sound r w where
  fresh block n hn := (h.fresh block n hn).trans (Nat.lt_succ_self _)
  images := h.images
  resources := h.resources
  layouts := h.layouts
  sets n d' hn := by
    simp only [Store.addSet, Std.TreeMap.getElem?_insert] at hn
    split at hn
    · cases hn
      obtain ⟨hconsistent, -, hresources⟩ := DescriptorSet.consistent_of_create hfit hcreate
      refine ⟨DescriptorSet.formed_of_create hcreate, hconsistent, ?_⟩
      intro x hx
      rw [hresources] at hx
      exact absurd hx List.not_mem_nil
    · exact h.sets n d' hn
  unwritten n d' hn k hk := by
    simp only [Store.addSet, Std.TreeMap.getElem?_insert] at hn
    split at hn
    · cases hn
      rw [(DescriptorSet.consistent_of_create hfit hcreate).2.2]
      rfl
    · exact h.unwritten n d' hn k hk

theorem exists_create_of_allocate {pool pool' : DescriptorPool} {layout : SetLayout}
    {d : DescriptorSet} (h : (DescriptorPool.allocate layout).run pool = (.ok d, pool')) :
    ∃ place, DescriptorSet.create layout place = .ok d := by
  rw [DescriptorPool.run_allocate] at h
  split at h
  · cases h
  · rename_i offset _
    refine ⟨some ⟨pool.id, offset⟩, ?_⟩
    split at h
    · cases h
    · rename_i hcreate
      cases h
      exact hcreate

theorem Sound.createSet (h : s.Sound r w) {layout : SetLayout}
    (hfit : ∀ b ∈ layout.bindings, b.SamplersFit) {made : Made Nat}
    (hmade : s.createSet layout = .ok made) : made.store.Sound r w := by
  simp only [Store.createSet, bind_eq_ok, pure_eq_ok] at hmade
  obtain ⟨d, hcreate, rfl⟩ := hmade
  exact h.addSet hfit hcreate

/-- Putting a set back changes nothing. -/
theorem find_insert_same {sets : SetTable} {n : Nat} {d : DescriptorSet} (h : sets[n]? = some d)
    (m : Nat) : (sets.insert n d)[m]? = sets[m]? := by
  simp only [Std.TreeMap.getElem?_insert, Nat.compare_eq_eq]
  split
  · rename_i hm
    rw [← hm, h]
  · rfl

/-- An update makes nothing, -/
theorem next_update {n : Nat} {writes : List DescriptorWrite} {copies : List DescriptorCopy}
    (hupdate : s.update n writes copies = .ok s') : s'.next = s.next := by
  rw [update] at hupdate
  split at hupdate
  · split at hupdate
    · rw [← Except.ok.inj hupdate]
    · cases hupdate
  · rw [← Except.ok.inj hupdate]

/-- and neither does one that fails. -/
theorem next_interrupted {n : Nat} {writes : List DescriptorWrite} {copies : List DescriptorCopy}
    {i : Interruption Store} (hupdate : s.update n writes copies = .error i) :
    i.state.next = s.next := by
  rw [update] at hupdate
  split at hupdate
  · split at hupdate
    · cases hupdate
    · rw [← Except.error.inj hupdate]
  · cases hupdate

/-- What an update of a set does, if there is the set. -/
theorem update_cases (h : s.Sound r w) {n : Nat} {writes : List DescriptorWrite}
    {copies : List DescriptorCopy} (hupdate : s.update n writes copies = .ok s') :
    s.sets[n]? = none ∧ s' = s ∨ ∃ d d', s.sets[n]? = some d ∧ d.update writes copies = .ok d' ∧
      s' = { s with sets := s.sets.insert n d' } := by
  rw [update] at hupdate
  split at hupdate
  · rename_i d hd
    split at hupdate
    · rename_i d' hplace
      exact .inr ⟨d, d', hd, (DescriptorSet.updateInPlace_eq_ok (h.sets n d hd).formed).mp hplace,
        (Except.ok.inj hupdate).symm⟩
    · cases hupdate
  · rename_i hnone
    exact .inl ⟨hnone, (Except.ok.inj hupdate).symm⟩

/-- **An update that fails** breaks a rule, and leaves all sets as they are. -/
theorem update_eq_error (h : s.Sound r w) {n : Nat} {writes : List DescriptorWrite}
    {copies : List DescriptorCopy} {i : Interruption Store}
    (hupdate : s.update n writes copies = .error i) :
    ∃ d e, s.sets[n]? = some d ∧ d.checkUpdate writes copies = .error e ∧
      i = ⟨.invalid e, { s with sets := s.sets.insert n d }⟩ := by
  rw [update] at hupdate
  split at hupdate
  · rename_i d hd
    split at hupdate
    · cases hupdate
    · rename_i i' hplace
      obtain ⟨e, he, rfl⟩ :=
        (DescriptorSet.updateInPlace_eq_error (h.sets n d hd).formed).mp hplace
      exact ⟨d, e, hd, he, (Except.error.inj hupdate).symm⟩
  · cases hupdate

/-- **Updates keep stores sound**, where what is written is held and copies are from sets of the
store. -/
theorem Sound.update (h : s.Sound r w) {n : Nat} {writes : List DescriptorWrite}
    {copies : List DescriptorCopy} (hupdate : s.update n writes copies = .ok s')
    (hwrites : ∀ w ∈ writes, ∀ e ∈ w.elements.toList, ∀ x ∈ e.resources, x ∈ r.resources)
    (hcopies : ∀ c ∈ copies, ∀ d, c.source = some d → ∃ m : Nat, s.sets[m]? = some d)
    (hw : ∀ m k, w m k → w' m k) (hwriteTargets : ∀ x ∈ writes, ∀ k, x.Targets k → w' n k)
    (hcopyTargets : ∀ c ∈ copies, ∀ k, c.Targets k → w' n k) : s'.Sound r w' := by
  rcases update_cases h hupdate with ⟨-, rfl⟩ | ⟨d, d', hd, hd', rfl⟩
  · exact h.mono hw
  refine { h.mono hw with sets := fun m e he => ?_, unwritten := fun m e he k hk => ?_ }
  · simp only [Std.TreeMap.getElem?_insert] at he
    split at he
    · cases he
      refine DescriptorSet.sound_update (h.sets n d hd) hd' ?_ ?_
      · exact fun x hx e he y hy => h.resources y (hwrites x hx e he y hy)
      · intro c hc source hsource
        obtain ⟨m, hm⟩ := hcopies c hc source hsource
        exact h.sets m source hm
    · exact h.sets m e he
  · simp only [Std.TreeMap.getElem?_insert, Nat.compare_eq_eq] at he
    split at he
    · rename_i hm
      cases he
      subst hm
      rw [DescriptorSet.find?_update hd' (fun x hx ht => hk (hwriteTargets x hx k ht))
        fun c hc ht => hk (hcopyTargets c hc k ht)]
      exact h.unwritten n d hd k fun hwritten => hk (hw n k hwritten)
    · exact (h.mono hw).unwritten m e he k hk

theorem Sound.interrupted (h : s.Sound r w) {n : Nat} {writes : List DescriptorWrite}
    {copies : List DescriptorCopy} {i : Interruption Store}
    (hupdate : s.update n writes copies = .error i) : i.state.Sound r w := by
  obtain ⟨d, e, hd, -, rfl⟩ := update_eq_error h hupdate
  exact h.blocks (find_insert_same hd) (fun _ _ => id) h.fresh

/-! ## Runs -/

/-- A run changes the bytes of blocks, and no set. -/
theorem Sound.run (h : s.Sound r w) (routine : Routine) (inputs : Execution.InterfaceValues) :
    (s.run routine inputs).store.Sound r w := by
  have hsizes (b : Nat) : (s.run routine inputs).store.blocks.size? b = s.blocks.size? b :=
    Execution.run_sameSizes _ inputs _ b
  exact h.blocks (fun _ => rfl) (fun b n hb => (hsizes b).trans hb) fun b n hb =>
    h.fresh b n ((hsizes b).symm.trans hb)

/-! ## Lifetimes -/

/-- A resource is held from outside or by a descriptor of a set that lives. -/
def Holds (s : Store) (r : Roots) (x : Resource) : Prop :=
  x ∈ r.resources ∨ ∃ n ∈ r.liveSets, ∃ d, s.sets[n]? = some d ∧ x ∈ d.resources.all

theorem mem_alive_resources {x : Resource} (h : s.Holds r x) (list : List Resource) :
    x ∈ r.resources ++ (r.liveSets.filterMap (s.sets[·]?)).flatMap (·.allResources) ++ list := by
  rw [List.mem_append, List.mem_append]
  rcases h with h | ⟨n, hn, d, hd, hx⟩
  · exact .inl (.inl h)
  · exact .inl (.inr (List.mem_flatMap.mpr ⟨d, List.mem_filterMap.mpr ⟨n, hn, hd⟩, hx⟩))

/-- The memory of what is held lives. -/
theorem block_mem_alive {x : Resource} (h : s.Holds r x) {block : Nat}
    (hblock : x.block? = some block) : block ∈ (s.alive r).blocks :=
  List.mem_append.mpr (.inr (List.mem_filterMap.mpr ⟨x, mem_alive_resources h _, hblock⟩))

/-- A view that is held lives. -/
theorem view_mem_alive {x : Resource} (h : s.Holds r x) {id : Nat} (hid : x.viewId? = some id) :
    id ∈ (s.alive r).views :=
  List.mem_filterMap.mpr ⟨x, mem_alive_resources h _, hid⟩

theorem size?_sweep {block : Nat} (h : block ∈ (s.alive r).blocks) :
    (s.sweep r).blocks.size? block = s.blocks.size? block := by
  have hcontains : (s.alive r).blocks.contains block = true := List.contains_iff_mem.mpr h
  simp only [sweep, BlockTable.size?, Std.TreeMap.getElem?_filter', Option.filter, hcontains]
  cases s.blocks[block]? <;> rfl

/-- Sets that stay live and were there. -/
theorem of_sets_sweep {n : Nat} {d : DescriptorSet} (h : (s.sweep r).sets[n]? = some d) :
    n ∈ r.liveSets ∧ s.sets[n]? = some d := by
  simp only [sweep, Std.TreeMap.getElem?_filter', Option.filter_eq_some_iff,
    List.contains_iff_mem] at h
  exact ⟨h.2, h.1⟩

/-- **Memory goes only when nothing refers to it.** -/
theorem Sound.sweep (h : s.Sound r w) : (s.sweep r).Sound r w where
  unwritten n d hd := h.unwritten n d (of_sets_sweep hd).2
  fresh block n hn := by
    have hold : s.blocks.size? block = some n := by
      simp only [Store.sweep, BlockTable.size?, Std.TreeMap.getElem?_filter',
        Option.map_eq_some_iff, Option.filter_eq_some_iff] at hn
      obtain ⟨m, ⟨hm, -⟩, rfl⟩ := hn
      rw [BlockTable.size?, hm]
      rfl
    exact h.fresh block n hold
  images i hi := by
    have hlive : i.block ∈ (s.alive r).blocks :=
      List.mem_append.mpr (.inl (List.mem_map_of_mem hi))
    exact ⟨(h.images i hi).made, (size?_sweep hlive).trans (h.images i hi).memory⟩
  resources x hx := (h.resources x hx).mono fun b n hb hn =>
    (size?_sweep (block_mem_alive (.inl hx) hb)).trans hn
  layouts := h.layouts
  sets n d hd := by
    obtain ⟨hlive, hold⟩ := of_sets_sweep hd
    refine (h.sets n d hold).mono fun x hx hbacked => hbacked.mono fun b m hb hm => ?_
    exact (size?_sweep (block_mem_alive (.inr ⟨n, hlive, d, hold, hx⟩) hb)).trans hm

end Store

end HostGpu
