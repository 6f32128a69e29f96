import HostGpu.Proofs.Descriptor.Kept
import HostGpu.Proofs.Session.Frame

/-!
# What descriptors keep alive

Commands make sets and update them; nothing else happens to a set (`Session.setFrom_execute`).  So
the descriptors of all sets keep their memory and their views, and what a set that lives keeps lives
itself.  Samplers live as well, as long as no command copies descriptors between bindings with
different immutable samplers: a copy takes the identifier of an immutable sampler along, but the
sampler is held by the layout of the source only.
-/

namespace HostGpu

open Outcome DescriptorSet

/-! ## What lives with a set -/

theorem Resource.Backed.valid {x : Resource} {blocks : BlockTable} (h : x.Backed blocks) :
    x.Valid := by
  cases x with
  | buffer | sampler => trivial
  | bufferView v => exact h.created.valid
  | view v => exact h.created.valid

theorem Resource.Backed.size?_of_contains {x : Resource} {blocks : BlockTable} (h : x.Backed blocks)
    {p : Pointer} (hp : x.Contains p) :
    ∃ size, blocks.size? p.block = some size ∧ p.offset < size := by
  obtain ⟨hblock, hoffset⟩ := hp
  cases x with
  | sampler => cases hblock
  | buffer b => exact ⟨_, Option.some.inj hblock ▸ h.memory, hoffset⟩
  | bufferView v => exact ⟨_, Option.some.inj hblock ▸ h.memory, hoffset⟩
  | view v => exact ⟨_, Option.some.inj hblock ▸ h.memory, hoffset⟩

namespace Store

variable {s : Store} {r : Roots}

/-- A sampler that is held lives. -/
theorem sampler_mem_alive {y : Sampler} (h : s.Holds r (.sampler y)) :
    y.id ∈ (s.alive r).samplers :=
  List.mem_filterMap.mpr ⟨_, mem_alive_resources h _, rfl⟩

/-- The immutable samplers of a set that lives live. -/
theorem immutableSampler_mem_alive {n : Nat} (hn : n ∈ r.liveSets) {d : DescriptorSet}
    (hd : s.sets[n]? = some d) {b : LayoutBinding} (hb : b ∈ d.layout.bindings) {y : Sampler}
    (hy : y ∈ b.immutableSamplers) : y.id ∈ (s.alive r).samplers := by
  have hset : d ∈ r.liveSets.filterMap (s.sets[·]?) := List.mem_filterMap.mpr ⟨n, hn, hd⟩
  have hlayout : d.layout ∈ r.liveLayouts (r.liveSets.filterMap (s.sets[·]?)) :=
    List.mem_append_left _ (List.mem_append_right _ (List.mem_map_of_mem hset))
  refine List.mem_filterMap.mpr ⟨.sampler y, List.mem_append_right _ (List.mem_map_of_mem ?_), rfl⟩
  exact List.mem_flatMap.mpr ⟨d.layout, hlayout, List.mem_flatMap.mpr ⟨b, hb, hy⟩⟩

/-- A set after one was added. -/
theorem find_addSet {n : Nat} {d d' : DescriptorSet}
    (h : (s.addSet d').store.sets[n]? = some d) : d' = d ∨ s.sets[n]? = some d := by
  simp only [addSet, Std.TreeMap.getElem?_insert] at h
  split at h
  case isTrue => exact .inl (Option.some.inj h)
  case isFalse => exact .inr h

end Store

namespace Session

variable {s : Session} {n : Nat} {d d' : DescriptorSet} {c : Command}

/-! ## What commands do to sets -/

/-- A command updates a set by some writes and copies. -/
inductive Updates (s : Session) (n : Nat) (d d' : DescriptorSet) (writes : List DescriptorWrite)
    (copies : List DescriptorCopy) : Command → Prop
  | update {set : String} {writeFields : List WriteFields} {copyFields : List CopyFields}
      {copies' : List SetCopy} (hset : s.sets[set]? = some n)
      (hwrites : writeFields.mapM s.resolveWrite = .ok writes)
      (hcopies : copyFields.mapM s.resolveCopy = .ok copies')
      (hcopies' : copies'.map (·.to s.store n) = copies) (hd : s.store.sets[n]? = some d)
      (hupdate : d.update writes copies = .ok d') :
      Updates s n d d' writes copies (.update set writeFields copyFields)

namespace Updates

variable {writes : List DescriptorWrite} {copies : List DescriptorCopy}
  (h : s.Updates n d d' writes copies c)
include h

theorem found : s.store.sets[n]? = some d := by
  obtain ⟨-, -, -, -, hd, -⟩ := h
  exact hd

theorem update_eq_ok : d.update writes copies = .ok d' := by
  obtain ⟨-, -, -, -, -, hupdate⟩ := h
  exact hupdate

/-- What is written is held by names. -/
theorem mem_resources : ∀ w ∈ writes, ∀ e ∈ w.elements.toList, ∀ x ∈ e.resources,
    x ∈ s.roots.resources := by
  obtain ⟨-, hwrites, -, -, -, -⟩ := h
  exact Sound.mem_of_resolveWrites hwrites

/-- Copies are from sets that there are. -/
theorem exists_source : ∀ x ∈ copies, ∀ source, x.source = some source →
    ∃ m : Nat, s.store.sets[m]? = some source := by
  obtain ⟨-, -, -, rfl, -, -⟩ := h
  exact Sound.exists_source

end Updates

/-- A command copies descriptors between bindings with different immutable samplers. -/
def MixesSamplers (s : Session) (c : Command) : Prop :=
  ∃ n d d' writes copies, s.Updates n d d' writes copies c ∧ ∃ x ∈ copies, ∃ b b',
    (x.source.elim d.layout (·.layout)).find? x.srcBinding = some b ∧
    d.layout.find? x.dstBinding = some b' ∧
    (b.usesImmutableSamplers = true ∨ b'.usesImmutableSamplers = true) ∧
    b.immutableSamplers ≠ b'.immutableSamplers

/-- Where a set comes from that there is after a command. -/
inductive SetFrom (s : Session) (n : Nat) (d : DescriptorSet) (c : Command) : Prop
  /-- It was there. -/
  | kept (h : s.store.sets[n]? = some d)
  /-- It was made. -/
  | made {layout : SetLayout} {place : Option PoolPlace} (hlayout : layout ∈ s.setLayouts.values)
      (hcreate : create layout place = .ok d)
  /-- It was updated. -/
  | updated {d' : DescriptorSet} {writes : List DescriptorWrite} {copies : List DescriptorCopy}
      (h : s.Updates n d' d writes copies c)

theorem SetFrom.of_sets_eq {s' : Session} (h : s'.store.sets = s.store.sets)
    (hd : s'.store.sets[n]? = some d) : s.SetFrom n d c :=
  .kept (h ▸ hd)

theorem setFrom_makeSet {id layout : String}
    (h : (s.execute (.set id layout)).session.store.sets[n]? = some d) : s.SetFrom n d c := by
  revert h
  refine session_attempt (P := fun s' => s'.store.sets[n]? = some d → s.SetFrom n d c) .kept ?_
  rintro ⟨s', answer⟩ hmake hd
  simp only [makeSet, Store.createSet, bind_eq_ok, mapError_eq_ok, pure_eq_ok,
    Prod.mk.injEq] at hmake
  obtain ⟨layout, hlayout, made, ⟨d', hcreate, rfl⟩, rfl, -⟩ := hmake
  rcases Store.find_addSet hd with rfl | hd
  · exact .made (mem_of_find hlayout) hcreate
  · exact .kept hd

theorem setFrom_allocate {id pool layout : String}
    (h : (s.execute (.allocate id pool layout)).session.store.sets[n]? = some d) :
    s.SetFrom n d c := by
  revert h
  refine session_callPool (P := fun s' => s'.store.sets[n]? = some d → s.SetFrom n d c) .kept
    (fun _ hd => .kept hd) ?_
  intro x p d' p' hx hrun hd
  obtain ⟨layout, hlayout, rfl⟩ := map_eq_ok.mp hx
  obtain ⟨place, hcreate⟩ := Store.exists_create_of_allocate hrun
  rcases Store.find_addSet hd with rfl | hd
  · exact .made (mem_of_find hlayout) hcreate
  · exact .kept hd

theorem setFrom_update {w : Nat → ElementKey → Prop} (hs : s.Sound w) {set : String}
    {writes : List WriteFields} {copies : List CopyFields}
    (h : (s.execute (.update set writes copies)).session.store.sets[n]? = some d) :
    s.SetFrom n d (.update set writes copies) := by
  rw [execute, Session.update] at h
  split at h
  case h_1 => exact .kept h
  case h_2 u hu =>
    obtain ⟨hset, hwrites, copies', hcopies, hsources⟩ := Sound.resolveUpdate_eq_ok hu
    split at h
    case h_1 store hstore =>
      rcases Store.update_cases hs hstore with ⟨-, rfl⟩ | ⟨old, new, hold, hnew, rfl⟩
      · exact .kept h
      · simp only [Std.TreeMap.getElem?_insert, Nat.compare_eq_eq] at h
        split at h
        case isTrue heq =>
          subst heq
          cases h
          exact .updated (.update hset hwrites hcopies hsources hold hnew)
        case isFalse => exact .kept h
    case h_2 i hi =>
      obtain ⟨old, e, hold, -, rfl⟩ := Store.update_eq_error hs hi
      exact .kept ((Store.find_insert_same hold n).symm.trans h)

/-- Every command leaves a set as it is, makes it, or updates it. -/
theorem setFrom_execute {w : Nat → ElementKey → Prop} (hs : s.Sound w)
    (h : (s.execute c).session.store.sets[n]? = some d) : s.SetFrom n d c := by
  cases c with
  | set => exact setFrom_makeSet h
  | allocate => exact setFrom_allocate h
  | update => exact setFrom_update hs h
  | _ => exact .of_sets_eq (s.execute_leaves (p := .sets) rfl) h

/-- **A property of all sets**: new sets have it, and updates keep it, copying from sets that have
it. -/
theorem forall_sets_after {P : DescriptorSet → Prop} (commands : List Command)
    (hcreate : ∀ before c rest, commands = before ++ c :: rest →
      ∀ layout ∈ (after before).setLayouts.values, ∀ (place : Option PoolPlace) (d : DescriptorSet),
        create layout place = .ok d → P d)
    (hupdate : ∀ before c rest, commands = before ++ c :: rest →
      ∀ (n : Nat) (d d' : DescriptorSet) (writes : List DescriptorWrite)
        (copies : List DescriptorCopy), (after before).Updates n d d' writes copies c → P d →
        (∀ c ∈ copies, ∀ source, c.source = some source → P source) → P d') :
    ∀ (n : Nat) (d : DescriptorSet), (after commands).store.sets[n]? = some d → P d := by
  -- on the last command; the sweep that follows it removes sets, but changes none
  induction commands using List.reverseRecOn with
  | nil =>
    intro n d hd
    simp [after] at hd
  | append_singleton commands c ih =>
    have hbefore := ih (fun before c' rest h => hcreate before c' (rest ++ [c]) (by simp [h]))
      fun before c' rest h => hupdate before c' (rest ++ [c]) (by simp [h])
    intro n d hd
    rw [after_append] at hd
    cases setFrom_execute (sound_after commands) (Store.of_sets_sweep hd).2 with
    | kept h => exact hbefore n d h
    | made hlayout h => exact hcreate commands c [] rfl _ hlayout _ d h
    | @updated d' writes copies h =>
      refine hupdate commands c [] rfl n d' d writes copies h (hbefore n d' h.found) ?_
      intro x hx source hsource
      obtain ⟨m, hm⟩ := h.exists_source x hx source hsource
      exact hbefore m source hm

/-- The views and the memory that descriptors refer to are kept. -/
theorem viewKept_after (commands : List Command) (hd : (after commands).store.sets[n]? = some d) :
    d.Each ViewKept := by
  refine forall_sets_after commands (fun before _ _ _ layout hlayout _ _ h =>
    (kept_of_create ((sound_after before).layouts layout hlayout) h).1) ?_ n d hd
  intro before c _ _ n d d' writes copies hupdates h hsources
  refine viewKept_update h hupdates.update_eq_ok (fun w hw e he x hx => ?_) hsources
  exact ((sound_after before).resources x (hupdates.mem_resources w hw e he x hx)).valid

/-- Samplers are kept if no command mixes immutable ones. -/
theorem samplerKept_after (commands : List Command)
    (hmixes : ∀ before c rest, commands = before ++ c :: rest → ¬ (after before).MixesSamplers c)
    (hd : (after commands).store.sets[n]? = some d) : d.Each SamplerKept := by
  refine forall_sets_after commands (fun before _ _ _ layout hlayout _ _ h =>
    (kept_of_create ((sound_after before).layouts layout hlayout) h).2) ?_ n d hd
  intro before c rest heq n d d' writes copies hupdates h hsources
  refine samplerKept_update h hupdates.update_eq_ok hsources fun x hx b b' hb hb' huses => ?_
  by_contra hdiffer
  exact hmixes before c rest heq
    ⟨n, d, d', writes, copies, hupdates, x, hx, b, b', hb, hb', huses, hdiffer⟩

/-- What is kept is named. -/
theorem namesKept_after (commands : List Command) (hd : (after commands).store.sets[n]? = some d) :
    d.Each NamesKept :=
  forall_sets_after commands
    (fun before _ _ _ layout hlayout _ _ h =>
      namesKept_of_create ((sound_after before).layouts layout hlayout) h)
    (fun _ _ _ _ _ _ _ _ _ hupdates h hsources =>
      namesKept_update h hupdates.update_eq_ok hsources) n d hd

/-! ## What descriptors refer to -/

/-- Everything that lives. -/
def alive (s : Session) : Alive := s.store.alive s.roots

/-- **What the descriptors of sets refer to lives**: pointers point into memory that lives, and
views live.  Samplers live if no command mixed immutable ones. -/
theorem descriptors_refer_to_live (commands : List Command)
    (hd : (after commands).store.sets[n]? = some d) {k : ElementKey} {b : LayoutBinding} {o : Nat}
    (hb : d.layout.Element k b o) :
    (∀ kind, b.kind.record? = some kind → ∀ p, some p ∈ kind.pointers d.data o →
      p.block ∈ (after commands).alive.blocks ∧
        ∃ size, (after commands).store.blocks.size? p.block = some size ∧ p.offset < size) ∧
    (b.kind.record? = some .sampled → (SampledRecord.read d.data o).view ≠ 0 →
      ∃ id ∈ (after commands).alive.views, (SampledRecord.read d.data o).view = wordOf id) ∧
    (b.kind.record? = some .sampled → (SampledRecord.read d.data o).sampler ≠ 0 →
      (∀ before c rest, commands = before ++ c :: rest → ¬ (after before).MixesSamplers c) →
      ∃ id ∈ (after commands).alive.samplers,
        (SampledRecord.read d.data o).sampler = wordOf id) := by
  have hlive := live_after commands hd
  have hviews := viewKept_after commands hd k b o hb
  have hkept (x : Resource) (hx : x ∈ (d.resources.find? k).getD []) : x ∈ d.resources.all :=
    ResourceTable.mem_all_of_mem_getD hx
  have hholds (x : Resource) (hx : x ∈ (d.resources.find? k).getD []) :
      (after commands).store.Holds (after commands).roots x :=
    .inr ⟨n, hlive, d, hd, hkept x hx⟩
  refine ⟨fun kind hkind p hp => ?_, fun hkind hne => ?_, fun hkind hne hmixes => ?_⟩
  · obtain ⟨-, x, hx, hinside⟩ := hviews.pointers kind hkind p hp
    have hbacked := ((sound_after commands).sets n d hd).kept x (hkept x hx)
    exact ⟨Store.block_mem_alive (hholds x hx) hinside.1, hbacked.size?_of_contains hinside⟩
  · obtain ⟨-, x, hx, id, hid, hview⟩ := hviews.view hkind hne
    exact ⟨id, Store.view_mem_alive (hholds x hx) hid, hview⟩
  · obtain ⟨-, y, hy, hmem⟩ := samplerKept_after commands hmixes hd k b o hb hkind hne
    refine ⟨y.id, ?_, hy⟩
    -- the layout holds an immutable sampler, the set itself any other
    split at hmem
    · exact Store.immutableSampler_mem_alive hlive hd (List.mem_of_find?_eq_some hb.binding) hmem
    · exact Store.sampler_mem_alive (hholds _ hmem)

/-! ### A set that outlives names -/

namespace DroppedNames

/-- A session that gives a view and a sampler to a set and drops all names but that of the set. -/
def commands : List Command := [
  .device "" true none,
  .image "" "" { kind := .dim1, format := .r32Uint, extent := ⟨4, 1, 1⟩ },
  .view "" "" { preset := .wholeImage },
  .sampler "" "" {},
  .setLayout "" "" [{ number := 0, kind := .combinedImageSampler }],
  .set "set" "",
  .update "set" [{ binding := 0, elements := .viewSamplers [("", "")] }] [],
  .drop ""]

theorem isSome_set : ((after commands).store.sets[6]?).isSome = true := by decide +kernel

def set : DescriptorSet := ((after commands).store.sets[6]?).get isSome_set

set_option maxRecDepth 4000 in
/-- The descriptor refers to memory, a view and a sampler. -/
theorem set_refers :
    ((SampledRecord.readLevel set.data 0 0).faces[0]?.join).isSome = true ∧
      (SampledRecord.read set.data 0).view ≠ 0 ∧ (SampledRecord.read set.data 0).sampler ≠ 0 := by
  decide +kernel

/-- Nothing is copied. -/
theorem not_mixesSamplers (s : Session) (hc : c ∈ commands) : ¬ s.MixesSamplers c := by
  rintro ⟨n, d, d', writes, copies, ⟨-, -, hcopies, rfl, -, -⟩, x, hx, -⟩
  simp only [commands, List.mem_cons, Command.update.injEq, reduceCtorEq, List.not_mem_nil,
    false_or, or_false] at hc
  obtain ⟨-, -, rfl⟩ := hc
  cases hcopies
  cases hx

end DroppedNames

open DroppedNames in
/-- The image, the view and the sampler live on with the set. -/
theorem dropped_objects_live : ∃ p, some p ∈ RecordKind.sampled.pointers set.data 0 ∧
    p.block ∈ (after commands).alive.blocks ∧
    (∃ id ∈ (after commands).alive.views, (SampledRecord.read set.data 0).view = wordOf id) ∧
    ∃ id ∈ (after commands).alive.samplers,
      (SampledRecord.read set.data 0).sampler = wordOf id := by
  have hbindings : set.layout.bindings = [{ number := 0, kind := .combinedImageSampler }] := by
    decide +kernel
  obtain ⟨hpointers, hviews, hsamplers⟩ := descriptors_refer_to_live commands
    (Option.some_get isSome_set).symm (.first hbindings Nat.one_pos)
  obtain ⟨hface, hview, hsampler⟩ := set_refers
  obtain ⟨p, hp⟩ := Option.isSome_iff_exists.mp hface
  have hmem : some p ∈ RecordKind.sampled.pointers set.data 0 :=
    List.mem_flatMap.mpr ⟨0, by decide, List.mem_of_getElem? (Option.join_eq_some_iff.mp hp)⟩
  refine ⟨p, hmem, (hpointers _ rfl p hmem).1, hviews rfl hview, hsamplers rfl hsampler ?_⟩
  intro before c rest heq
  exact not_mixesSamplers _ (heq ▸ List.mem_append_right _ List.mem_cons_self)

/-! ### A sampler that a copy does not keep -/

namespace CopiedSampler

/-- A session that copies a descriptor with an immutable sampler to a binding without them, and
drops the sampler and the source with its layout. -/
def commands : List Command := [
  .device "" true none,
  .sampler "" "" {},
  .setLayout "" "" [{ number := 0, kind := .sampler, immutableSamplers := [""] }],
  .set "" "",
  .setLayout "target" "" [{ number := 0, kind := .sampler }],
  .set "target" "target",
  .update "target" [] [{ source := "" }],
  .drop ""]

theorem isSome_target : ((after commands).store.sets[6]?).isSome = true := by decide +kernel

def target : DescriptorSet := ((after commands).store.sets[6]?).get isSome_target

end CopiedSampler

open CopiedSampler in
/-- The record still names the sampler, but nothing holds it. -/
theorem copied_sampler_ends : ¬ ∀ (commands : List Command) (n : Nat) (d : DescriptorSet)
    (k : ElementKey) (b : LayoutBinding) (o : Nat), (after commands).store.sets[n]? = some d →
    d.layout.Element k b o → b.kind.record? = some .sampled →
    (SampledRecord.read d.data o).sampler ≠ 0 → ∃ id ∈ (after commands).alive.samplers,
      (SampledRecord.read d.data o).sampler = wordOf id := by
  intro hclaim
  have hbindings : target.layout.bindings = [{ number := 0, kind := .sampler }] := by
    decide +kernel
  have hsampler : (SampledRecord.read target.data 0).sampler ≠ 0 := by decide +kernel
  have hnone : (after commands).alive.samplers.isEmpty = true := by decide +kernel
  obtain ⟨id, hid, -⟩ := hclaim commands 6 target _ _ 0 (Option.some_get isSome_target).symm
    (.first hbindings Nat.one_pos) rfl hsampler
  rw [List.isEmpty_iff.mp hnone] at hid
  cases hid

end Session

end HostGpu
