import HostGpu.Proofs.Session.Routines

/-!
# Sets that routines hold

Whatever a session makes gets the next number, so no two of its set layouts share one
(`Session.Orderly`).  A routine compares layouts by number when a set is bound to it, and holds the
set from then on.  So a bound set is there as long as the routine is, and has the very layout that
the pipeline layout has at its place (`Session.orderly_after`).
-/

namespace HostGpu

open Outcome

/-! ## Sets of stores -/

namespace Store

variable {s : Store} {n : Nat} {d d' : DescriptorSet}

/-- A set that is added leaves the others alone. -/
theorem find_addSet_of_lt (h : n < s.next) :
    (s.addSet d').store.sets[n]? = s.sets[n]? := by
  simp only [addSet, Std.TreeMap.getElem?_insert, Nat.compare_eq_eq]
  exact if_neg (Nat.ne_of_gt h)

theorem lt_of_find_addSet (hs : ∀ (n : Nat) (d : DescriptorSet), s.sets[n]? = some d → n < s.next)
    (h : (s.addSet d').store.sets[n]? = some d) : n < (s.addSet d').store.next := by
  simp only [addSet, Std.TreeMap.getElem?_insert, Nat.compare_eq_eq] at h
  split at h
  case isTrue heq => exact heq ▸ Nat.lt_succ_self s.next
  case isFalse => exact Nat.lt_succ_of_lt (hs n d h)

/-- Sets that live stay. -/
theorem find_sweep {r : Roots} (hd : s.sets[n]? = some d) (hn : n ∈ r.liveSets) :
    (s.sweep r).sets[n]? = some d := by
  have hcontains : (s.alive r).sets.contains n = true := List.contains_iff_mem.mpr hn
  simp only [sweep, Std.TreeMap.getElem?_filter', hd, Option.filter, hcontains, if_true]

end Store

theorem DescriptorSet.layout_update {d d' : DescriptorSet} {writes : List DescriptorWrite}
    {copies : List DescriptorCopy} (h : d.update writes copies = .ok d') :
    d'.layout = d.layout := by
  obtain ⟨-, -, rfl⟩ := update_eq_ok.mp h
  exact layout_applyUpdate

/-- The bound sets are there and have the layouts that the pipeline layout has at their places. -/
def Routine.HasSets (r : Routine) (sets : SetTable) : Prop :=
  ∀ (k n : Nat), r.bound[k]? = some (some n) →
    ∃ d, sets[n]? = some d ∧ r.layout.setLayouts[k]? = some d.layout

namespace Session

variable {s s' : Session} {c : Command} {l : SetLayout} {r : Routine} {n : Nat} {d : DescriptorSet}

/-! ## What commands do -/

/-- A session has a set layout, by itself or as a part. -/
inductive Has (s : Session) (l : SetLayout) : Prop
  | named (h : l ∈ s.setLayouts.values)
  | pipeline {p : PipelineLayout} (hp : p ∈ s.pipelineLayouts.values) (h : l ∈ p.setLayouts)
  | routine {r : Routine} (hr : r ∈ s.routines.values) (h : l ∈ r.layout.setLayouts)
  | set {n : Nat} {d : DescriptorSet} (hd : s.store.sets[n]? = some d) (h : d.layout = l)

/-- Where a routine comes from that there is after a command, with its layout and its sets. -/
inductive HolderFrom (s : Session) (r : Routine) : Prop
  /-- It held the same. -/
  | kept {r' : Routine} (hr' : r' ∈ s.routines.values) (hlayout : r.layout = r'.layout)
      (hbound : r.bound = r'.bound)
  /-- It was made and holds no sets. -/
  | made (hlayout : r.layout ∈ s.pipelineLayouts.values) (hbound : ∀ set ∈ r.bound, set = none)
  /-- A set was bound to it, by the number of its layout. -/
  | bound {r' : Routine} {index number : Nat} {d : DescriptorSet} {l : SetLayout}
      (hr' : r' ∈ s.routines.values) (hlayout : r.layout = r'.layout)
      (hd : s.store.sets[number]? = some d) (hl : r'.layout.setLayouts[index]? = some l)
      (hid : d.layout.id = l.id) (hbound : r.bound = r'.bound.set index (some number))

/-- Numbers only grow. -/
theorem next_le_execute (s : Session) (c : Command) :
    s.store.next ≤ (s.execute c).session.store.next := by
  have hstays := Nat.le_refl s.store.next
  cases c with
  | device => exact Nat.le_succ _
  | image | view | sampler | buffer | bufferOfBytes | bufferView | pool =>
    refine session_attempt (P := fun s' => s.store.next ≤ s'.store.next) hstays <|
      .next fun _ => .bind (P := (s.store.next < ·.store.next)) (.mapError (.next fun _ => ?_) _)
        fun _ hnext => .pure (Nat.le_of_lt hnext)
    exact .pure (Nat.lt_succ_self _)
  | setLayout =>
    refine session_attempt (P := fun s' => s.store.next ≤ s'.store.next) hstays <|
      .next fun _ => .next fun _ => .bind (P := (s.store.next < ·.store.next))
        (.mapError (.next fun _ => ?_) _) fun _ hnext => .next fun _ => .pure (Nat.le_of_lt hnext)
    exact .pure (Nat.lt_succ_self _)
  | pipelineLayout =>
    refine session_attempt (P := fun s' => s.store.next ≤ s'.store.next) hstays <|
      .next fun _ => .next fun _ => .bind (P := (s.store.next < ·.store.next))
        (.mapError (.next fun _ => ?_) _) fun _ hnext => .pure (Nat.le_of_lt hnext)
    exact .pure (Nat.lt_succ_self _)
  | set =>
    refine session_attempt (P := fun s' => s.store.next ≤ s'.store.next) hstays <|
      .next fun _ => .bind (P := (s.store.next < ·.store.next)) (.mapError (.next fun _ => ?_) _)
        fun _ hnext => .pure (Nat.le_of_lt hnext)
    exact .pure (Nat.lt_succ_self _)
  | allocate =>
    exact session_callPool (P := fun s' => s.store.next ≤ s'.store.next) hstays (fun _ => hstays)
      fun _ _ _ _ _ _ => Nat.le_succ _
  | _ => exact (s.execute_leaves (p := .next) rfl).ge

/-- A command makes one set layout at most, which gets the next number. -/
theorem exists_setLayout_of_execute (s : Session) (c : Command) :
    ∃ new : SetLayout, new.id = s.store.next ∧ ∀ l ∈ (s.execute c).session.setLayouts.values,
      l ∈ s.setLayouts.values ∨ l = new ∧ s.store.next < (s.execute c).session.store.next := by
  have hnone {s' : Session} (h : ∀ l ∈ s'.setLayouts.values, l ∈ s.setLayouts.values) :
      ∃ new : SetLayout, new.id = s.store.next ∧ ∀ l ∈ s'.setLayouts.values,
        l ∈ s.setLayouts.values ∨ l = new ∧ s.store.next < s'.store.next :=
    ⟨⟨s.store.next, 0, []⟩, rfl, fun l hl => .inl (h l hl)⟩
  have hsame {t : Session} (h : t.setLayouts = s.setLayouts) :=
    hnone fun l (hl : l ∈ t.setLayouts.values) => h ▸ hl
  cases c with
  | setLayout =>
    refine session_attempt (P := fun s' => ∃ new : SetLayout, new.id = s.store.next ∧
      ∀ l ∈ s'.setLayouts.values, l ∈ s.setLayouts.values ∨ l = new ∧ s.store.next < s'.store.next)
      (hnone fun _ hl => hl) ?_
    rintro ⟨s', answer⟩ hmake
    simp only [makeSetLayout, Store.createSetLayout, SetLayout.create, bind_eq_ok, mapError_eq_ok,
      throw_eq_error, error_bind, ite_error_eq_ok, pure_eq_ok, Prod.mk.injEq] at hmake
    obtain ⟨_, -, _, -, _, ⟨layout, ⟨-, -, -, rfl⟩, rfl⟩, _, -, rfl, -⟩ := hmake
    exact ⟨_, rfl, fun l hl => (mem_values_insert hl).symm.imp_right (⟨·, Nat.lt_succ_self _⟩)⟩
  | drop => exact hnone fun _ hl => mem_values_erase hl
  | _ => exact hsame (s.execute_leaves (p := .setLayouts) rfl)

/-- Pipeline layouts are made of named set layouts. -/
theorem pipelineLayout_of_execute {p : PipelineLayout}
    (h : p ∈ (s.execute c).session.pipelineLayouts.values) :
    p ∈ s.pipelineLayouts.values ∨ ∀ l ∈ p.setLayouts, l ∈ s.setLayouts.values := by
  revert h
  have hsame {s' : Session} (hs : s'.pipelineLayouts = s.pipelineLayouts)
      (hp : p ∈ s'.pipelineLayouts.values) :
      p ∈ s.pipelineLayouts.values ∨ ∀ l ∈ p.setLayouts, l ∈ s.setLayouts.values := .inl (hs ▸ hp)
  cases c with
  | pipelineLayout =>
    refine session_attempt (P := fun s' => p ∈ s'.pipelineLayouts.values →
      p ∈ s.pipelineLayouts.values ∨ ∀ l ∈ p.setLayouts, l ∈ s.setLayouts.values) .inl ?_
    rintro ⟨s', answer⟩ hmake hp
    simp only [makePipelineLayout, Store.createPipelineLayout, PipelineLayout.create, bind_eq_ok,
      mapError_eq_ok, pure_eq_ok, Prod.mk.injEq] at hmake
    obtain ⟨_, -, _, hlayouts, _, ⟨layout, ⟨-, -, -, -, rfl⟩, rfl⟩, rfl, -⟩ := hmake
    rcases mem_values_insert hp with rfl | hp
    · exact .inr (mem_of_findAll hlayouts)
    · exact .inl hp
  | drop => exact fun hp => .inl (mem_values_erase hp)
  | _ => exact hsame (s.execute_leaves (p := .pipelineLayouts) rfl)

theorem HolderFrom.of_mem (h : r ∈ s.routines.values) : s.HolderFrom r := .kept h rfl rfl

theorem HolderFrom.of_routines_eq (h : s'.routines = s.routines) (hr : r ∈ s'.routines.values) :
    s.HolderFrom r := .of_mem (h ▸ hr)

theorem holderFrom_execute (h : r ∈ (s.execute c).session.routines.values) : s.HolderFrom r := by
  revert h
  cases c with
  | routine =>
    refine session_attempt (P := fun s' => r ∈ s'.routines.values → s.HolderFrom r) .of_mem ?_
    rintro ⟨s', answer⟩ hmake hr
    simp only [makeRoutine, Routine.create, bind_eq_ok, mapError_eq_ok, pure_eq_ok,
      Prod.mk.injEq] at hmake
    obtain ⟨_, -, layout, hlayout, r', ⟨-, -, rfl⟩, rfl, -⟩ := hmake
    rcases mem_values_insert hr with rfl | hr
    · exact .made (mem_of_find hlayout) fun set hset =>
        (List.mem_map.mp hset).elim fun _ h => h.2.symm
    · exact .of_mem hr
  | bind =>
    refine session_attempt (P := fun s' => r ∈ s'.routines.values → s.HolderFrom r) .of_mem ?_
    rintro ⟨s', answer⟩ hbind hr
    simp only [Session.bind, findSet, bind_eq_ok, mapError_eq_ok, pure_eq_ok,
      Prod.mk.injEq] at hbind
    obtain ⟨number, hnumber, d, ⟨number', hnumber', hd⟩, r', hr', r'', hr'', rfl, -⟩ := hbind
    obtain rfl := Except.ok.inj (hnumber.symm.trans hnumber')
    rcases mem_values_insert hr with rfl | hr
    · rw [Routine.bind] at hr''
      split at hr''
      case h_1 => cases hr''
      case h_2 expected hexpected =>
        rw [ite_ok_error, Except.ok.injEq] at hr''
        obtain ⟨hid, rfl⟩ := hr''
        split at hd
        case h_1 hset =>
          obtain rfl := pure_eq_ok.mp hd
          exact .bound (mem_of_find hr') rfl hset hexpected hid rfl
        case h_2 => cases hd
    · exact .of_mem hr
  | masks =>
    refine session_attempt (P := fun s' => r ∈ s'.routines.values → s.HolderFrom r) .of_mem ?_
    rintro ⟨s', answer⟩ hmasks hr
    simp only [setMasks, bind_eq_ok, pure_eq_ok, Prod.mk.injEq] at hmasks
    obtain ⟨r', hr', rfl, -⟩ := hmasks
    rcases mem_values_insert hr with rfl | hr
    · exact .kept (mem_of_find hr') rfl rfl
    · exact .of_mem hr
  | run =>
    rw [execute, runRoutine]
    intro hr
    split at hr
    case h_1 => exact .of_mem hr
    case h_2 r' hr' =>
      rcases mem_values_insert hr with rfl | hr
      · exact .kept (mem_of_find hr') rfl rfl
      · exact .of_mem hr
  | drop => exact fun hr => .of_mem (mem_values_erase hr)
  | _ => exact .of_routines_eq (s.execute_leaves (p := .routines) rfl)

/-- An update keeps the layouts of all sets. -/
theorem layouts_update {w : Nat → ElementKey → Prop} (hsound : s.Sound w) (set : String)
    (writes : List WriteFields) (copies : List CopyFields) (n : Nat) :
    ((s.update set writes copies).session.store.sets[n]?).map (·.layout) =
      (s.store.sets[n]?).map (·.layout) := by
  rw [Session.update]
  split
  case h_1 => rfl
  case h_2 u _ =>
    split
    case h_1 store hstore =>
      rcases Store.update_cases hsound hstore with ⟨-, rfl⟩ | ⟨old, new, hold, hnew, rfl⟩
      · rfl
      · simp only [Std.TreeMap.getElem?_insert, Nat.compare_eq_eq]
        split
        case isTrue heq =>
          rw [← heq, hold, Option.map_some, Option.map_some, DescriptorSet.layout_update hnew]
        case isFalse => rfl
    case h_2 i hi =>
      obtain ⟨old, e, hold, -, rfl⟩ := Store.update_eq_error hsound hi
      exact congrArg _ (Store.find_insert_same hold n)

section

variable {w : Nat → ElementKey → Prop} (hsound : s.Sound w)
include hsound

/-- Sets stay and keep their layouts. -/
theorem exists_set_of_execute
    (hs : ∀ (n : Nat) (d : DescriptorSet), s.store.sets[n]? = some d → n < s.store.next)
    (hd : s.store.sets[n]? = some d) :
    ∃ d', (s.execute c).session.store.sets[n]? = some d' ∧ d'.layout = d.layout := by
  have hstays : ∃ d', s.store.sets[n]? = some d' ∧ d'.layout = d.layout := ⟨d, hd, rfl⟩
  have hadded (d' : DescriptorSet) :
      ∃ d'', (s.store.addSet d').store.sets[n]? = some d'' ∧ d''.layout = d.layout :=
    ⟨d, (Store.find_addSet_of_lt (hs n d hd)).trans hd, rfl⟩
  have hsame {s' : Session} (h : s'.store.sets = s.store.sets) :
      ∃ d', s'.store.sets[n]? = some d' ∧ d'.layout = d.layout := ⟨d, h ▸ hd, rfl⟩
  cases c with
  | set =>
    refine session_attempt (P := fun s' => ∃ d', s'.store.sets[n]? = some d' ∧ d'.layout = d.layout)
      hstays ?_
    rintro ⟨s', answer⟩ hmake
    simp only [makeSet, Store.createSet, bind_eq_ok, mapError_eq_ok, pure_eq_ok,
      Prod.mk.injEq] at hmake
    obtain ⟨_, -, _, ⟨d', -, rfl⟩, rfl, -⟩ := hmake
    exact hadded d'
  | allocate =>
    exact session_callPool (P := fun s' => ∃ d', s'.store.sets[n]? = some d' ∧ d'.layout = d.layout)
      hstays (fun _ => hstays) fun _ _ d' _ _ _ => hadded d'
  | update set writes copies =>
    have hlayout := layouts_update hsound set writes copies n
    rw [hd, Option.map_some, Option.map_eq_some_iff] at hlayout
    exact hlayout
  | _ => exact hsame (s.execute_leaves (p := .sets) rfl)

theorem lt_next_of_execute
    (hs : ∀ (n : Nat) (d : DescriptorSet), s.store.sets[n]? = some d → n < s.store.next)
    (hd : (s.execute c).session.store.sets[n]? = some d) :
    n < (s.execute c).session.store.next := by
  revert hd
  have hsame {s' : Session} (h : s'.store.sets = s.store.sets)
      (hnext : s.store.next ≤ s'.store.next) (hd : s'.store.sets[n]? = some d) : n < s'.store.next :=
    Nat.lt_of_lt_of_le (hs n d (h ▸ hd)) hnext
  cases c with
  | set =>
    refine session_attempt (P := fun s' => s'.store.sets[n]? = some d → n < s'.store.next)
      (hs n d) ?_
    rintro ⟨s', answer⟩ hmake
    simp only [makeSet, Store.createSet, bind_eq_ok, mapError_eq_ok, pure_eq_ok,
      Prod.mk.injEq] at hmake
    obtain ⟨_, -, _, ⟨d', -, rfl⟩, rfl, -⟩ := hmake
    exact Store.lt_of_find_addSet hs
  | allocate =>
    exact session_callPool (P := fun s' => s'.store.sets[n]? = some d → n < s'.store.next) (hs n d)
      (fun _ => hs n d) fun _ _ d' _ _ _ => Store.lt_of_find_addSet hs
  | update set writes copies =>
    intro hd
    have hlayout := layouts_update hsound set writes copies n
    have hnext := s.next_le_execute (.update set writes copies)
    rw [execute] at hd hnext
    rw [hd, Option.map_some, eq_comm, Option.map_eq_some_iff] at hlayout
    obtain ⟨old, hold, -⟩ := hlayout
    exact Nat.lt_of_lt_of_le (hs n old hold) hnext
  | _ => exact hsame (s.execute_leaves (p := .sets) rfl) (s.next_le_execute _)

end

/-! ## Orderly sessions -/

/-- Things have numbers that were given out, no two set layouts share one, and routines have the
sets that are bound to them. -/
structure Orderly (s : Session) : Prop where
  older : ∀ l, s.Has l → l.id < s.store.next
  unique : ∀ l l', s.Has l → s.Has l' → l.id = l'.id → l = l'
  numbered : ∀ (n : Nat) (d : DescriptorSet), s.store.sets[n]? = some d → n < s.store.next
  bound : ∀ r ∈ s.routines.values, r.HasSets s.store.sets

/-- A session has the set layouts that it had, and one more at most. -/
theorem exists_new_of_execute {w : Nat → ElementKey → Prop} (hsound : s.Sound w) :
    ∃ new : SetLayout, new.id = s.store.next ∧ ∀ l, (s.execute c).session.Has l →
      s.Has l ∨ l = new ∧ s.store.next < (s.execute c).session.store.next := by
  obtain ⟨new, hid, hnew⟩ := s.exists_setLayout_of_execute c
  refine ⟨new, hid, fun l hl => ?_⟩
  cases hl with
  | named h => exact (hnew l h).imp_left .named
  | pipeline hp h =>
    rcases pipelineLayout_of_execute hp with hp | hlayouts
    · exact .inl (.pipeline hp h)
    · exact .inl (.named (hlayouts l h))
  | routine hr h =>
    cases holderFrom_execute hr with
    | kept hr' hlayout => exact .inl (.routine hr' (hlayout ▸ h))
    | made hlayout => exact .inl (.pipeline hlayout h)
    | bound hr' hlayout => exact .inl (.routine hr' (hlayout ▸ h))
  | set hd h =>
    cases setFrom_execute hsound hd with
    | kept hd => exact .inl (.set hd h)
    | made hlayout hcreate =>
      rw [← h, DescriptorSet.layout_of_create hcreate]
      exact .inl (.named hlayout)
    | updated hupdates =>
      rw [← h, DescriptorSet.layout_update hupdates.update_eq_ok]
      exact .inl (.set hupdates.found rfl)

theorem Orderly.execute (h : s.Orderly) {w : Nat → ElementKey → Prop} (hsound : s.Sound w)
    (c : Command) : (s.execute c).session.Orderly := by
  obtain ⟨new, hid, hhas⟩ := exists_new_of_execute (c := c) hsound
  have hstays {n : Nat} {d : DescriptorSet} (hd : s.store.sets[n]? = some d) :=
    exists_set_of_execute (c := c) hsound h.numbered hd
  refine ⟨fun l hl => ?_, fun l l' hl hl' heq => ?_,
    fun n d => lt_next_of_execute hsound h.numbered, fun r hr k n hbound => ?_⟩
  · rcases hhas l hl with hl | ⟨rfl, hlt⟩
    · exact Nat.lt_of_lt_of_le (h.older l hl) (s.next_le_execute c)
    · exact hid ▸ hlt
  · rcases hhas l hl with hl | ⟨rfl, -⟩ <;> rcases hhas l' hl' with hl' | ⟨rfl, -⟩
    · exact h.unique l l' hl hl' heq
    · exact absurd (heq.trans hid) (Nat.ne_of_lt (h.older l hl))
    · exact absurd (heq.symm.trans hid) (Nat.ne_of_lt (h.older l' hl'))
    · rfl
  · have hkept {r' : Routine} (hr' : r' ∈ s.routines.values) (hlayout : r.layout = r'.layout)
        (hbound : r'.bound[k]? = some (some n)) :
        ∃ d, (s.execute c).session.store.sets[n]? = some d ∧
          r.layout.setLayouts[k]? = some d.layout := by
      obtain ⟨d, hd, hl⟩ := h.bound r' hr' k n hbound
      obtain ⟨d', hd', hsame⟩ := hstays hd
      exact ⟨d', hd', by rw [hlayout, hl, hsame]⟩
    cases holderFrom_execute hr with
    | kept hr' hlayout hsame => exact hkept hr' hlayout (hsame ▸ hbound)
    | made _ hnone => exact absurd (hnone _ (List.mem_of_getElem? hbound)) nofun
    | @bound r' index number d l hr' hlayout hd hl hid' hsame =>
      rw [hsame, List.getElem?_set] at hbound
      split at hbound
      case isTrue heq =>
        split at hbound
        · cases hbound
          subst heq
          obtain ⟨d', hd', hsame⟩ := hstays hd
          -- layouts of one number are the same
          obtain rfl := h.unique _ l (.set hd rfl) (.routine hr' (List.mem_of_getElem? hl)) hid'
          exact ⟨d', hd', by rw [hlayout, hl, hsame]⟩
        · cases hbound
      case isFalse => exact hkept hr' hlayout hbound

theorem Orderly.sweep (h : s.Orderly) : s.sweep.Orderly := by
  have hhas {l : SetLayout} (hl : s.sweep.Has l) : s.Has l := by
    cases hl with
    | named h => exact .named h
    | pipeline hp h => exact .pipeline hp h
    | routine hr h => exact .routine hr h
    | set hd h => exact .set (Store.of_sets_sweep hd).2 h
  refine ⟨fun l hl => h.older l (hhas hl), fun l l' hl hl' => h.unique l l' (hhas hl) (hhas hl'),
    fun n d hd => h.numbered n d (Store.of_sets_sweep hd).2, fun r hr k n hbound => ?_⟩
  obtain ⟨d, hd, hl⟩ := h.bound r hr k n hbound
  refine ⟨d, Store.find_sweep hd (List.mem_append_right _ ?_), hl⟩
  exact List.mem_flatMap.mpr ⟨r, hr, List.mem_filterMap.mpr ⟨_, List.mem_of_getElem? hbound, rfl⟩⟩

/-- **The sessions that commands lead to are orderly.** -/
theorem orderly_after (commands : List Command) : (after commands).Orderly := by
  induction commands using List.reverseRecOn with
  | nil =>
    have hhas (l : SetLayout) : ¬ Has {} l := by
      intro hl
      cases hl with
      | named h | pipeline h | routine h => simp [mem_values_iff] at h
      | set hd => simp at hd
    exact ⟨fun l hl => absurd hl (hhas l), fun l _ hl => absurd hl (hhas l),
      fun n d hd => by simp [after] at hd, fun r hr => by simp [after, mem_values_iff] at hr⟩
  | append_singleton commands c ih =>
    rw [after_append]
    exact (ih.execute (sound_after commands) c).sweep

end Session

end HostGpu
