import HostGpu.Proofs.Store.Backing
import HostGpu.Session.Step

/-!
# Sessions that commands lead to

After any list of commands the store of a session is sound for what the names hold
(`Session.sound_after`), and all its sets live.  An element of a descriptor set keeps something only
if a command has written to it (`Session.Written`).
-/

namespace HostGpu

open Outcome

/-! ## Values of tables -/

section Tables

variable {κ α : Type} [Ord κ] [Std.TransOrd κ] [Std.LawfulEqOrd κ] {t : Std.TreeMap κ α}

theorem mem_values_iff {a : α} : a ∈ t.values ↔ ∃ k : κ, t[k]? = some a := by
  have hvalues : t.values = t.toList.map (·.2) := by
    have hfold : t.values = t.foldr (fun _ a l => a :: l) [] := rfl
    rw [hfold, Std.TreeMap.foldr_eq_foldr_toList]
    induction t.toList with
    | nil => rfl
    | cons entry rest ih => simp [ih]
  simp only [hvalues, List.mem_map, Prod.exists, Std.TreeMap.mem_toList_iff_getElem?_eq_some,
    exists_eq_right]

theorem mem_values_insert {k : κ} {a b : α} (h : b ∈ (t.insert k a).values) :
    b = a ∨ b ∈ t.values := by
  obtain ⟨j, hj⟩ := mem_values_iff.mp h
  rw [Std.TreeMap.getElem?_insert] at hj
  split at hj
  · exact .inl (Option.some.inj hj).symm
  · exact .inr (mem_values_iff.mpr ⟨j, hj⟩)

theorem mem_values_erase {k : κ} {b : α} (h : b ∈ (t.erase k).values) : b ∈ t.values := by
  obtain ⟨j, hj⟩ := mem_values_iff.mp h
  rw [Std.TreeMap.getElem?_erase] at hj
  split at hj
  · cases hj
  · exact mem_values_iff.mpr ⟨j, hj⟩

end Tables

/-- What is held from outside, by kind of resource. -/
theorem Roots.mem_resources {r : Roots} {x : Resource} : x ∈ r.resources ↔
    match x with
    | .buffer b => b ∈ r.buffers
    | .bufferView v => v ∈ r.bufferViews
    | .view v => v ∈ r.views
    | .sampler y => y ∈ r.samplers := by
  cases x <;> simp [resources]

namespace Session

/-! ## Names -/

theorem find_eq_ok {α : Type} {table : NameTable α} {name : String} {a : α} :
    find table name = .ok a ↔ table[name]? = some a := by
  rw [find]
  cases table[name]? with
  | none => simp
  | some b => simp

theorem mem_of_find {α : Type} {table : NameTable α} {name : String} {a : α}
    (h : find table name = .ok a) : a ∈ table.values :=
  mem_values_iff.mpr ⟨name, find_eq_ok.mp h⟩

/-- What a step makes of the elements of a list one by one. -/
theorem exists_of_mapM {ε α β : Type} {f : α → Except ε β} {list : List α} {result : List β}
    (h : list.mapM f = .ok result) : ∀ b ∈ result, ∃ a ∈ list, f a = .ok b := by
  induction list generalizing result with
  | nil =>
    cases h
    exact fun b hb => absurd hb List.not_mem_nil
  | cons a rest ih =>
    simp only [List.mapM_cons, bind_eq_ok, pure_eq_ok] at h
    obtain ⟨b, hb, bs, hbs, rfl⟩ := h
    rw [List.forall_mem_cons]
    refine ⟨⟨a, List.mem_cons_self, hb⟩, ?_⟩
    intro c hc
    obtain ⟨a', ha', hc'⟩ := ih hbs c hc
    exact ⟨a', List.mem_cons_of_mem _ ha', hc'⟩

theorem mem_of_findAll {α : Type} {table : NameTable α} {names : List String} {list : List α}
    (h : findAll table names = .ok list) : ∀ a ∈ list, a ∈ table.values := by
  intro a ha
  obtain ⟨name, -, hname⟩ := exists_of_mapM h a ha
  exact mem_of_find hname

/-! ## What was written -/

/-- A command replaces an element of a set. -/
inductive Writes (s : Session) (n : Nat) (k : ElementKey) : Command → Prop
  | update {set : String} {writes : List WriteFields} {copies : List CopyFields}
      {writes' : List DescriptorWrite} {copies' : List SetCopy} {store : Store}
      (hset : s.sets[set]? = some n) (hwrites : writes.mapM s.resolveWrite = .ok writes')
      (hcopies : copies.mapM s.resolveCopy = .ok copies')
      (hupdate : s.store.update n writes' (copies'.map (·.to s.store n)) = .ok store)
      (htargets : (∃ x ∈ writes', x.Targets k) ∨
        ∃ c ∈ copies'.map (·.to s.store n), c.Targets k) :
      Writes s n k (.update set writes copies)

/-- The session after commands, from an empty one. -/
def after (commands : List Command) : Session :=
  commands.foldl (fun s c => (s.step c).session) {}

theorem after_append (commands : List Command) (c : Command) :
    after (commands ++ [c]) = ((after commands).step c).session := by
  rw [after, List.foldl_append]
  rfl

/-- Some command replaced an element of a set. -/
def Written (commands : List Command) (n : Nat) (k : ElementKey) : Prop :=
  ∃ before c rest, commands = before ++ c :: rest ∧ (after before).Writes n k c

theorem written_append {commands : List Command} {c : Command} {n : Nat} {k : ElementKey}
    (h : Written commands n k ∨ (after commands).Writes n k c) :
    Written (commands ++ [c]) n k := by
  rcases h with ⟨before, c', rest, rfl, h⟩ | h
  · exact ⟨before, c', rest ++ [c], by simp, h⟩
  · exact ⟨commands, c, [], rfl, h⟩

/-! ## Sound sessions -/

/-- The store is sound for what names hold. -/
def Sound (s : Session) (written : Nat → ElementKey → Prop) : Prop :=
  s.store.Sound s.roots written

variable {s s' : Session} {answer : Answer} {w w' : Nat → ElementKey → Prop}

theorem Sound.empty : Sound {} w where
  fresh block n h := by simp [BlockTable.size?] at h
  images i h := by simp [roots, mem_values_iff] at h
  resources x h := by
    rw [Roots.mem_resources] at h
    cases x <;> simp [roots, mem_values_iff] at h
  layouts l h := by simp [roots, mem_values_iff] at h
  sets n d h := by simp at h
  unwritten n d h := by simp at h

namespace Sound

theorem makeImage (h : s.Sound w) {id device : String} {info : ImageInfo}
    (hmake : s.makeImage id device info = .ok (s', answer)) : s'.Sound w := by
  simp only [Session.makeImage, bind_eq_ok, mapError_eq_ok, pure_eq_ok, Prod.mk.injEq] at hmake
  obtain ⟨device, -, made, hmade, rfl, -⟩ := hmake
  obtain ⟨hsound, hbacked⟩ := h.createImage hmade
  refine hsound.roots (fun i hi => ?_) (fun x hx => .inl hx) (fun l hl => .inl hl)
  rcases mem_values_insert hi with rfl | hi
  · exact .inr hbacked
  · exact .inl hi

theorem makeView (h : s.Sound w) {id image : String} {fields : ViewFields}
    (hmake : s.makeView id image fields = .ok (s', answer)) : s'.Sound w := by
  simp only [Session.makeView, bind_eq_ok, mapError_eq_ok, pure_eq_ok, Prod.mk.injEq] at hmake
  obtain ⟨image, himage, made, hmade, rfl, -⟩ := hmake
  obtain ⟨hsound, hbacked⟩ := h.createView (h.images image (mem_of_find himage)) hmade
  refine hsound.roots (fun i hi => .inl hi) (fun x hx => ?_) (fun l hl => .inl hl)
  rw [Roots.mem_resources] at hx ⊢
  cases x with
  | view v =>
    rcases mem_values_insert hx with rfl | hx
    · exact .inr hbacked
    · exact .inl hx
  | _ => exact .inl hx

theorem makeSampler (h : s.Sound w) {id device : String} {info : SamplerInfo}
    (hmake : s.makeSampler id device info = .ok (s', answer)) : s'.Sound w := by
  simp only [Session.makeSampler, Store.createSampler, bind_eq_ok, mapError_eq_ok, pure_eq_ok,
    Prod.mk.injEq] at hmake
  obtain ⟨device, -, made, ⟨-, -, rfl⟩, rfl, -⟩ := hmake
  have hsound : (s.store.advance.onDevice device (·.registerSampler s.store.next info)).Sound
      s.roots w := h.congr rfl rfl (Nat.le_succ _)
  refine hsound.roots (fun i hi => .inl hi) (fun x hx => ?_) (fun l hl => .inl hl)
  rw [Roots.mem_resources] at hx ⊢
  cases x with
  | sampler y => exact .inr trivial
  | _ => exact .inl hx

theorem makeBuffer {id device : String}
    {create : Nat → Except (Refusal ResourceError) (Store.Made Buffer)}
    (hcreate : ∀ d made, create d = .ok made →
      made.store.Sound s.roots w ∧ made.value.Backed made.store.blocks)
    (hmake : s.makeBuffer id device create = .ok (s', answer)) : s'.Sound w := by
  simp only [Session.makeBuffer, bind_eq_ok, mapError_eq_ok, pure_eq_ok, Prod.mk.injEq] at hmake
  obtain ⟨device, -, made, hmade, rfl, -⟩ := hmake
  obtain ⟨hsound, hbacked⟩ := hcreate device made hmade
  refine hsound.roots (fun i hi => .inl hi) (fun x hx => ?_) (fun l hl => .inl hl)
  rw [Roots.mem_resources] at hx ⊢
  cases x with
  | buffer b =>
    rcases mem_values_insert hx with rfl | hx
    · exact .inr hbacked
    · exact .inl hx
  | _ => exact .inl hx

theorem makeBufferView (h : s.Sound w) {id buffer : String} {format : Format} {range : Span}
    (hmake : s.makeBufferView id buffer format range = .ok (s', answer)) : s'.Sound w := by
  simp only [Session.makeBufferView, bind_eq_ok, mapError_eq_ok, pure_eq_ok,
    Prod.mk.injEq] at hmake
  obtain ⟨buffer, hbuffer, made, hmade, rfl, -⟩ := hmake
  have hheld : Resource.buffer buffer ∈ s.roots.resources :=
    Roots.mem_resources.mpr (mem_of_find hbuffer)
  obtain ⟨hsound, hbacked⟩ := h.createBufferView (h.resources _ hheld) hmade
  refine hsound.roots (fun i hi => .inl hi) (fun x hx => ?_) (fun l hl => .inl hl)
  rw [Roots.mem_resources] at hx ⊢
  cases x with
  | bufferView v =>
    rcases mem_values_insert hx with rfl | hx
    · exact .inr hbacked
    · exact .inl hx
  | _ => exact .inl hx

theorem makeSetLayout (h : s.Sound w) {id device : String} {bindings : List BindingFields}
    (hmake : s.makeSetLayout id device bindings = .ok (s', answer)) : s'.Sound w := by
  simp only [Session.makeSetLayout, Store.createSetLayout, bind_eq_ok, mapError_eq_ok, pure_eq_ok,
    Prod.mk.injEq] at hmake
  obtain ⟨device, -, bindings, -, made, ⟨layout, hlayout, rfl⟩, summary, -, rfl, -⟩ := hmake
  have hsound : s.store.advance.Sound s.roots w := h.congr rfl rfl (Nat.le_succ _)
  refine hsound.roots (fun i hi => .inl hi) (fun x hx => .inl hx) (fun l hl => ?_)
  rcases mem_values_insert hl with rfl | hl
  · exact .inr (SetLayout.samplersFit_of_create hlayout)
  · exact .inl hl

/-- A session that holds the same things with memory from outside. -/
theorem same (h : s'.store.Sound s.roots w) (hheld : s'.roots.images = s.roots.images ∧
    s'.roots.resources = s.roots.resources ∧ s'.roots.setLayouts = s.roots.setLayouts) :
    s'.Sound w := by
  obtain ⟨himages, hresources, hlayouts⟩ := hheld
  refine h.roots (fun i hi => .inl ?_) (fun x hx => .inl ?_) (fun l hl => .inl ?_)
  · rwa [← himages]
  · rwa [← hresources]
  · rwa [← hlayouts]

theorem makePipelineLayout (h : s.Sound w) {id device : String} {setLayouts : List String}
    (hmake : s.makePipelineLayout id device setLayouts = .ok (s', answer)) : s'.Sound w := by
  simp only [Session.makePipelineLayout, Store.createPipelineLayout, bind_eq_ok, mapError_eq_ok,
    pure_eq_ok, Prod.mk.injEq] at hmake
  obtain ⟨device, -, setLayouts, -, made, ⟨layout, -, rfl⟩, rfl, -⟩ := hmake
  have hsound : s.store.advance.Sound s.roots w := h.congr rfl rfl (Nat.le_succ _)
  exact same hsound ⟨rfl, rfl, rfl⟩

theorem makePool (h : s.Sound w) {id device : String} {maxSets : Nat}
    {sizes : List (DescriptorKind × Nat)}
    (hmake : s.makePool id device maxSets sizes = .ok (s', answer)) : s'.Sound w := by
  simp only [Session.makePool, Store.createPool, bind_eq_ok, mapError_eq_ok, pure_eq_ok,
    Prod.mk.injEq] at hmake
  obtain ⟨device, -, made, ⟨pool, -, rfl⟩, rfl, -⟩ := hmake
  have hsound : s.store.advance.Sound s.roots w := h.congr rfl rfl (Nat.le_succ _)
  exact same hsound ⟨rfl, rfl, rfl⟩

theorem makeSet (h : s.Sound w) {id layout : String}
    (hmake : s.makeSet id layout = .ok (s', answer)) : s'.Sound w := by
  simp only [Session.makeSet, bind_eq_ok, mapError_eq_ok, pure_eq_ok, Prod.mk.injEq] at hmake
  obtain ⟨layout, hlayout, made, hmade, rfl, -⟩ := hmake
  exact same (h.createSet (h.layouts layout (mem_of_find hlayout)) hmade) ⟨rfl, rfl, rfl⟩

theorem putPool (h : s.Sound w) (name : String) (pool : DescriptorPool) :
    Session.Sound { s with pools := s.pools.insert name pool } w := same h ⟨rfl, rfl, rfl⟩

theorem putRoutine (h : s.Sound w) (name : String) (r : Routine) : (s.putRoutine name r).Sound w :=
  same h ⟨rfl, rfl, rfl⟩

theorem forget (h : s.Sound w) (name : String) : (s.forget name).Sound w := by
  refine h.roots (fun i hi => .inl (mem_values_erase hi)) (fun x hx => .inl ?_)
    fun l hl => .inl (mem_values_erase hl)
  rw [Roots.mem_resources] at hx ⊢
  cases x <;> exact mem_values_erase hx

/-- Bytes are written to memory that is there. -/
theorem writeBytes (h : s.Sound w) {object : String} {offset : Nat} {data : List UInt8}
    (hwrite : s.writeBytes object offset data = .ok (s', answer)) : s'.Sound w := by
  simp only [Session.writeBytes, bind_eq_ok, pure_eq_ok, Prod.mk.injEq] at hwrite
  obtain ⟨block, hblock, memory, hmemory, rfl, -⟩ := hwrite
  have hpresent : ∃ n, s.store.blocks.size? block = some n := by
    simp only [findBlock] at hblock
    split at hblock
    · rename_i image himage
      cases hblock
      exact ⟨_, (h.images image (mem_values_iff.mpr ⟨object, himage⟩)).memory⟩
    · simp only [bind_eq_ok, pure_eq_ok] at hblock
      obtain ⟨buffer, hbuffer, rfl⟩ := hblock
      have hheld : Resource.buffer buffer ∈ s.roots.resources :=
        Roots.mem_resources.mpr (mem_of_find hbuffer)
      have hbacked : buffer.Backed s.store.blocks := h.resources _ hheld
      exact ⟨_, hbacked.memory⟩
  have hsize : s.store.blocks.size? block = some memory.size := by
    obtain ⟨n, hn⟩ := hpresent
    simp only [orFault, mapError_eq_ok, Memory.write, ite_ok_error, Except.ok.injEq] at hmemory
    obtain ⟨-, rfl⟩ := hmemory
    simp only [BlockTable.size?, Option.map_eq_some_iff] at hn
    obtain ⟨m, hm, -⟩ := hn
    simp [Store.memory, BlockTable.size?, hm]
  exact same (h.setMemory hsize) ⟨rfl, rfl, rfl⟩

/-- What is written to descriptors is held by names. -/
theorem mem_of_resolveElements {names : ElementNames} {elements : WriteElements}
    (h : s.resolveElements names = .ok elements) :
    ∀ e ∈ elements.toList, ∀ x ∈ e.resources, x ∈ s.roots.resources := by
  intro e he x hx
  rw [Roots.mem_resources]
  cases names with
  | buffers names =>
    simp only [resolveElements, bind_eq_ok, pure_eq_ok] at h
    obtain ⟨buffers, hbuffers, rfl⟩ := h
    simp only [WriteElements.toList, List.mem_map] at he
    obtain ⟨-, ⟨b, hb, rfl⟩, rfl⟩ := he
    obtain rfl := List.mem_singleton.mp hx
    exact mem_of_findAll hbuffers b hb
  | bufferRanges ranges =>
    simp only [resolveElements, bind_eq_ok, pure_eq_ok] at h
    obtain ⟨ranges', hranges, rfl⟩ := h
    simp only [WriteElements.toList, List.mem_map] at he
    obtain ⟨range, hrange, rfl⟩ := he
    obtain ⟨⟨name, span⟩, -, hname⟩ := exists_of_mapM hranges range hrange
    simp only [bind_eq_ok, pure_eq_ok] at hname
    obtain ⟨b, hb, rfl⟩ := hname
    obtain rfl := List.mem_singleton.mp hx
    exact mem_of_find hb
  | bufferViews names =>
    simp only [resolveElements, map_eq_ok] at h
    obtain ⟨views, hviews, rfl⟩ := h
    simp only [WriteElements.toList, List.mem_map] at he
    obtain ⟨v, hv, rfl⟩ := he
    obtain rfl := List.mem_singleton.mp hx
    exact mem_of_findAll hviews v hv
  | views names =>
    simp only [resolveElements, map_eq_ok] at h
    obtain ⟨views, hviews, rfl⟩ := h
    simp only [WriteElements.toList, List.mem_map] at he
    obtain ⟨v, hv, rfl⟩ := he
    obtain rfl := List.mem_singleton.mp hx
    exact mem_of_findAll hviews v hv
  | viewSamplers names =>
    simp only [resolveElements, bind_eq_ok, pure_eq_ok] at h
    obtain ⟨pairs, hpairs, rfl⟩ := h
    simp only [WriteElements.toList, List.mem_map] at he
    obtain ⟨⟨v, y⟩, hpair, rfl⟩ := he
    obtain ⟨⟨view, sampler⟩, -, hname⟩ := exists_of_mapM hpairs _ hpair
    simp only [bind_eq_ok, pure_eq_ok, Prod.mk.injEq] at hname
    obtain ⟨v', hv, y', hy, rfl, rfl⟩ := hname
    simp only [WriteElement.resources, List.mem_cons, List.not_mem_nil, or_false] at hx
    rcases hx with rfl | rfl
    · exact mem_of_find hv
    · exact mem_of_find hy
  | samplers names =>
    simp only [resolveElements, map_eq_ok] at h
    obtain ⟨samplers, hsamplers, rfl⟩ := h
    simp only [WriteElements.toList, List.mem_map] at he
    obtain ⟨y, hy, rfl⟩ := he
    obtain rfl := List.mem_singleton.mp hx
    exact mem_of_findAll hsamplers y hy

theorem mem_of_resolveWrites {writes : List WriteFields} {writes' : List DescriptorWrite}
    (h : writes.mapM s.resolveWrite = .ok writes') :
    ∀ w ∈ writes', ∀ e ∈ w.elements.toList, ∀ x ∈ e.resources, x ∈ s.roots.resources := by
  intro x hx
  obtain ⟨fields, -, hfields⟩ := exists_of_mapM h x hx
  simp only [resolveWrite, bind_eq_ok, pure_eq_ok] at hfields
  obtain ⟨elements, helements, rfl⟩ := hfields
  exact mem_of_resolveElements helements

/-- Copies are from sets of the store. -/
theorem exists_source {copies : List SetCopy} {n : Nat} : ∀ c ∈ copies.map (·.to s.store n),
    ∀ d, c.source = some d → ∃ m : Nat, s.store.sets[m]? = some d := by
  intro c hc d hd
  obtain ⟨copy, -, rfl⟩ := List.mem_map.mp hc
  simp only [SetCopy.to, Store.copySource] at hd
  split at hd
  · cases hd
  · exact ⟨_, hd⟩

/-- What an update found by name. -/
theorem resolveUpdate_eq_ok {set : String} {writes : List WriteFields} {copies : List CopyFields}
    {u : SetUpdate} (h : s.resolveUpdate set writes copies = .ok u) :
    s.sets[set]? = some u.set ∧ writes.mapM s.resolveWrite = .ok u.writes ∧
      ∃ copies', copies.mapM s.resolveCopy = .ok copies' ∧
        copies'.map (·.to s.store u.set) = u.copies := by
  simp only [resolveUpdate, bind_eq_ok, pure_eq_ok] at h
  obtain ⟨writes', hwrites, copies', hcopies, n, hn, rfl⟩ := h
  exact ⟨find_eq_ok.mp hn, hwrites, copies', hcopies, rfl⟩

theorem update (h : s.Sound w) (set : String) (writes : List WriteFields)
    (copies : List CopyFields) : (s.update set writes copies).session.Sound
      fun n k => w n k ∨ s.Writes n k (.update set writes copies) := by
  have hmono : s.Sound fun n k => w n k ∨ s.Writes n k (.update set writes copies) :=
    Store.Sound.mono h fun _ _ => .inl
  rw [Session.update]
  split
  · exact hmono
  · rename_i u hu
    obtain ⟨hset, hwrites, copies', hcopies, hsources⟩ := resolveUpdate_eq_ok hu
    split
    · rename_i store hstore
      rw [← hsources] at hstore
      refine same (Store.Sound.update h hstore (mem_of_resolveWrites hwrites) exists_source
        (fun _ _ => .inl) (fun x hx k hk => .inr ?_) fun c hc k hk => .inr ?_) ⟨rfl, rfl, rfl⟩
      · exact .update hset hwrites hcopies hstore (.inl ⟨x, hx, hk⟩)
      · exact .update hset hwrites hcopies hstore (.inr ⟨c, hc, hk⟩)
    · rename_i i hi
      exact same (hmono.interrupted hi) ⟨rfl, rfl, rfl⟩

theorem resolve (h : s.Sound w) {device : String} {signature : SamplingSignature}
    {sampler view : Option String} {events : List SamplingEvent}
    (hresolve : s.resolve device signature sampler view = .ok (s', answer, events)) :
    s'.Sound w := by
  simp only [Session.resolve, Store.resolve, orFault, bind_eq_ok, mapError_eq_ok, pure_eq_ok,
    Prod.mk.injEq] at hresolve
  obtain ⟨device, -, ⟨events', store⟩, ⟨r, -, -, rfl⟩, rfl, -⟩ := hresolve
  have hsound : (s.store.onDevice device fun _ => r.device).Sound s.roots w :=
    h.congr rfl rfl (Nat.le_refl _)
  exact same hsound ⟨rfl, rfl, rfl⟩

theorem runRoutine (h : s.Sound w) (routine : String) (inputs : Execution.InterfaceValues)
    (outputs : List Nat) : (s.runRoutine routine inputs outputs).session.Sound w := by
  rw [Session.runRoutine]
  split
  · exact h
  · rename_i r hr
    exact same (h.run r inputs) ⟨rfl, rfl, rfl⟩

end Sound

/-! ## All commands -/

/-- An update changes no more than the store, and makes nothing. -/
theorem exists_store_update (s : Session) (set : String) (writes : List WriteFields)
    (copies : List CopyFields) : ∃ store, store.next = s.store.next ∧
      (s.update set writes copies).session = { s with store := store } := by
  rw [Session.update]
  split
  · exact ⟨s.store, rfl, rfl⟩
  · split
    case h_1 hstore => exact ⟨_, Store.next_update hstore, rfl⟩
    case h_2 hi => exact ⟨_, Store.next_interrupted hi, rfl⟩

/-- What holds of a session and of those that an attempt leads to holds after the attempt. -/
theorem session_attempt {P : Session → Prop} {a : Attempt} (h : P s)
    (ha : Yields (fun r => P r.1) a) : P (s.attempt a).session := by
  cases a with
  | error e => exact h
  | ok r => exact ha r rfl

/-- What holds of a session with any pools, and of those that a call to a pool leads to, holds after
the call. -/
theorem session_callPool {P : Session → Prop} {α : Type} {name : String}
    {call : Except StepError (DescriptorPool.Call α)} {next : Session → α → Session} (h : P s)
    (hput : ∀ pool, P { s with pools := s.pools.insert name pool })
    (hnext : ∀ x pool a pool', call = .ok x → x.run pool = (.ok a, pool') →
      P (next { s with pools := s.pools.insert name pool' } a)) :
    P (s.callPool name call next).session := by
  rw [callPool]
  split
  · exact h
  · rename_i pool x hfound
    obtain ⟨_, -, hx⟩ := bind_eq_ok.mp hfound
    obtain ⟨_, hcall, hx⟩ := bind_eq_ok.mp hx
    cases hx
    dsimp only
    rcases hrun : x.run pool with ⟨e | a, pool'⟩
    · exact hput pool'
    · exact hnext x pool a pool' hcall hrun

theorem Sound.attempt (h : s.Sound w) {a : Attempt}
    (ha : ∀ s' answer, a = .ok (s', answer) → s'.Sound w) : (s.attempt a).session.Sound w :=
  session_attempt (P := (·.Sound w)) h fun r => ha r.1 r.2

theorem Sound.allocate (h : s.Sound w) (id pool layout : String) :
    (s.allocate id pool layout).session.Sound w := by
  refine session_callPool (P := (·.Sound w)) h (h.putPool pool) ?_
  intro x p d p' hx hrun
  obtain ⟨layout, hlayout, rfl⟩ := map_eq_ok.mp hx
  obtain ⟨place, hcreate⟩ := Store.exists_create_of_allocate hrun
  exact same (h.addSet (h.layouts layout (mem_of_find hlayout)) hcreate) ⟨rfl, rfl, rfl⟩

/-- Every command keeps a session sound. -/
theorem Sound.execute (h : s.Sound w) (c : Command) :
    (s.execute c).session.Sound fun n k => w n k ∨ s.Writes n k c := by
  have hold := h
  replace h : s.Sound fun n k => w n k ∨ s.Writes n k c := Store.Sound.mono h fun _ _ => .inl
  cases c with
  | device id robust builder =>
    have hsound : (s.makeDevice id robust builder).1.store.Sound s.roots _ :=
      h.congr rfl rfl (Nat.le_succ _)
    exact same hsound ⟨rfl, rfl, rfl⟩
  | constants | queryImage | queryView | read | registry | queryLayout | dump | queryPipeline
    | cache => exact h
  | image => exact h.attempt fun _ _ => h.makeImage
  | view => exact h.attempt fun _ _ => h.makeView
  | sampler => exact h.attempt fun _ _ => h.makeSampler
  | buffer => exact h.attempt fun _ _ => makeBuffer fun _ _ => h.createBuffer
  | bufferOfBytes => exact h.attempt fun _ _ => makeBuffer fun _ _ => h.createBufferOfBytes
  | bufferView => exact h.attempt fun _ _ => h.makeBufferView
  | write => exact h.attempt fun _ _ => h.writeBytes
  | drop name => exact h.forget name
  | resolve device signature sampler view =>
    simp only [Session.execute]
    split
    · rename_i hresolve
      exact h.resolve hresolve
    · exact h
  | setLayout => exact h.attempt fun _ _ => h.makeSetLayout
  | set => exact h.attempt fun _ _ => h.makeSet
  | pool => exact h.attempt fun _ _ => h.makePool
  | allocate id pool layout => exact h.allocate id pool layout
  | free pool set =>
    exact session_callPool (P := (·.Sound _)) h (h.putPool pool) fun _ _ _ p' _ _ =>
      h.putPool pool p'
  | reset pool =>
    exact session_callPool (P := (·.Sound _)) h (h.putPool pool) fun _ _ _ p' _ _ =>
      h.putPool pool p'
  | update set writes copies => exact hold.update set writes copies
  | pipelineLayout => exact h.attempt fun _ _ => h.makePipelineLayout
  | shader id device words =>
    refine h.attempt ?_
    intro _ _ hmake
    simp only [makeShader, bind_eq_ok, mapError_eq_ok, pure_eq_ok, Prod.mk.injEq] at hmake
    obtain ⟨_, -, _, -, _, -, rfl, -⟩ := hmake
    exact same h ⟨rfl, rfl, rfl⟩
  | routine id shader layout fields =>
    refine h.attempt ?_
    intro _ _ hmake
    simp only [makeRoutine, bind_eq_ok, mapError_eq_ok, pure_eq_ok, Prod.mk.injEq] at hmake
    obtain ⟨_, -, _, -, _, -, rfl, -⟩ := hmake
    exact same h ⟨rfl, rfl, rfl⟩
  | bind set routine index =>
    refine h.attempt ?_
    intro _ _ hbind
    simp only [bind, bind_eq_ok, mapError_eq_ok, pure_eq_ok, Prod.mk.injEq] at hbind
    obtain ⟨_, -, _, -, _, -, r, -, rfl, -⟩ := hbind
    exact h.putRoutine routine r
  | masks routine active helper =>
    refine h.attempt ?_
    intro _ _ hmasks
    simp only [setMasks, bind_eq_ok, pure_eq_ok, Prod.mk.injEq] at hmasks
    obtain ⟨r, -, rfl, -⟩ := hmasks
    exact h.putRoutine routine _
  | run routine inputs outputs => exact h.runRoutine routine inputs outputs

theorem Sound.step (h : s.Sound w) (c : Command) :
    (s.step c).session.Sound fun n k => w n k ∨ s.Writes n k c := (h.execute c).sweep

/-- **The sessions that commands lead to are sound.** -/
theorem sound_after (commands : List Command) : (after commands).Sound (Written commands) := by
  induction commands using List.reverseRecOn with
  | nil => exact Sound.empty
  | append_singleton commands c ih =>
    rw [after_append]
    exact (ih.step c).mono fun _ _ => written_append

/-- All sets of such a session live. -/
theorem live_after (commands : List Command) {n : Nat} {d : DescriptorSet}
    (h : (after commands).store.sets[n]? = some d) : n ∈ (after commands).roots.liveSets := by
  induction commands using List.reverseRecOn with
  | nil => simp [after] at h
  | append_singleton commands c ih =>
    rw [after_append] at h ⊢
    exact (Store.of_sets_sweep h).1

end Session

end HostGpu

