import HostGpu.Proofs.Session.Atomicity

/-!
# Copies move elements all at once

A copy moves the records of a run of elements as one block of cells, and their resources entry by
entry.  Both are read from the source as it was just before the copy, so that the two agree also if
the set is its own source and the runs overlap (`DescriptorCopy.Moves`).  In an update of a session
each copy finds the set as the writes and the copies before it left it
(`Session.copies_move_at_once`).
-/

namespace HostGpu

open Outcome DescriptorSet

namespace DescriptorCopy

/-- **What a copy makes of a set**: each element that it names holds the record and the resources
that the corresponding element of the source held, and all others hold what they did. -/
structure Moves (c : DescriptorCopy) (s s' : DescriptorSet) : Prop where
  layout : s'.layout = s.layout
  place : s'.place = s.place
  size : s'.data.size = s.data.size
  moved : ∀ k < c.count, ∃ b o b' o',
    (c.source.getD s).layout.Element ⟨c.srcBinding, c.srcFirst + k⟩ b o ∧
    s.layout.Element ⟨c.dstBinding, c.dstFirst + k⟩ b' o' ∧ b.kind = b'.kind ∧
    s'.data.cells o' b'.stride = (c.source.getD s).data.cells o b.stride ∧
    s'.resources.find? ⟨c.dstBinding, c.dstFirst + k⟩ =
      (c.source.getD s).resources.find? ⟨c.srcBinding, c.srcFirst + k⟩
  keptRecord : ∀ key b o, s.layout.Element key b o → ¬ c.Targets key →
    s'.data.cells o b.stride = s.data.cells o b.stride
  keptResources : ∀ key, ¬ c.Targets key → s'.resources.find? key = s.resources.find? key

variable {c : DescriptorCopy} {s : DescriptorSet}

/-- An element of the destination, by its number in the copy. -/
theorem exists_element_of_check (hcheck : c.check s.layout = .ok ()) {k : Nat} (hk : k < c.count) :
    ∃ b o, s.layout.Element ⟨c.dstBinding, c.dstFirst + k⟩ b o := by
  obtain ⟨-, b, -, dst, -, hdst, -⟩ := exists_apply_of_check hcheck
  exact ⟨b, _, hdst.elementAt hk⟩

/-- **A copy that passes its check moves what it names.** -/
theorem moves_apply (hs : s.Formed) (hcheck : c.check s.layout = .ok ()) :
    c.Moves s (c.apply s) where
  layout := c.layout_apply s
  place := c.place_apply s
  size := by
    have hformed : (c.apply s).Formed := c.formed_apply hs
    rw [DescriptorSet.Formed, c.layout_apply s, ← show s.data.size = _ from hs] at hformed
    exact hformed
  moved k hk := by
    obtain ⟨b', o', helement⟩ := exists_element_of_check hcheck hk
    have htarget : c.Targets ⟨c.dstBinding, c.dstFirst + k⟩ :=
      ⟨rfl, Nat.le_add_right _ _, Nat.add_lt_add_left hk _⟩
    obtain ⟨b, o, horigin, hkinds, hcells, hfind⟩ := exists_moved hcheck helement htarget
    have hstrides : b.stride = b'.stride := by
      rw [LayoutBinding.stride, LayoutBinding.stride, hkinds]
    rw [origin, Nat.add_sub_cancel_left] at horigin hfind
    refine ⟨b, o, b', o', horigin, helement, hkinds, ?_, hfind⟩
    rw [hstrides]
    exact SetData.cells_congr hcells
  keptRecord _ _ _ helement hkey := SetData.cells_congr (cell_apply hcheck helement hkey)
  keptResources _ hkey := find?_apply hkey

end DescriptorCopy

namespace DescriptorSet

variable {s : DescriptorSet} {writes : List DescriptorWrite} {before rest : List DescriptorCopy}
  {c : DescriptorCopy}

/-- An update makes its copies one after the other. -/
theorem performUpdate_cons (s : DescriptorSet) (writes : List DescriptorWrite)
    (before rest : List DescriptorCopy) (c : DescriptorCopy) :
    s.performUpdate writes (before ++ c :: rest) =
      (do let t ← s.performUpdate writes before
          let t' ← c.perform t
          t'.performUpdate [] rest) := by
  simp only [performUpdate, List.foldlM_append, List.foldlM_cons, List.foldlM_nil, bind_assoc,
    pure_bind]

/-- **A copy among others** moves elements of the set that the writes and the copies before it
left. -/
theorem exists_moves_of_check (hs : s.Formed)
    (hcheck : s.checkUpdate writes (before ++ c :: rest) = .ok ()) :
    ∃ t t' s', s.performUpdate writes before = .ok t ∧ c.perform t = .ok t' ∧ c.Moves t t' ∧
      t'.performUpdate [] rest = .ok s' ∧
      s.updateInPlace writes (before ++ c :: rest) = .ok s' := by
  obtain ⟨hwrites, hcopies⟩ := checkUpdate_eq_ok.mp hcheck
  simp only [List.forall_mem_append, List.forall_mem_cons] at hcopies
  obtain ⟨hbefore, hc, hrest⟩ := hcopies
  have hfirst := performUpdate_eq hs hwrites hbefore
  obtain ⟨hformed, hlayout⟩ := formedAs_applyUpdate hs writes before
  generalize s.applyUpdate writes before = t at hfirst hformed hlayout
  rw [← hlayout] at hc hrest
  have hmoves := c.moves_apply hformed hc
  have hlast : (c.apply t).performUpdate [] rest = .ok ((c.apply t).applyUpdate [] rest) :=
    performUpdate_eq (c.formed_apply hformed) (fun _ hw => absurd hw List.not_mem_nil)
      (hmoves.layout ▸ hrest)
  refine ⟨t, c.apply t, _, hfirst, c.perform_eq hc, hmoves, hlast, ?_⟩
  rw [updateInPlace, hcheck, performUpdate_cons, hfirst]
  simp only [Except.mapError, ok_bind, c.perform_eq hc]
  exact hlast

end DescriptorSet

namespace Session

/-- **Copies move elements all at once**, from the set as it is when a copy begins: records and
resources alike, whether the set is its own source or not.  No set changes but the updated one. -/
theorem copies_move_at_once (commands : List Command) {n : Nat} {d : DescriptorSet}
    (hd : (after commands).store.sets[n]? = some d) (writes : List DescriptorWrite)
    (before rest : List DescriptorCopy) (c : DescriptorCopy)
    (hcheck : d.checkUpdate writes (before ++ c :: rest) = .ok ()) :
    ∃ t t' d' store, d.performUpdate writes before = .ok t ∧ c.perform t = .ok t' ∧
      c.Moves t t' ∧ t'.performUpdate [] rest = .ok d' ∧
      (after commands).store.update n writes (before ++ c :: rest) = .ok store ∧
      store.sets[n]? = some d' ∧
      ∀ m : Nat, m ≠ n → store.sets[m]? = (after commands).store.sets[m]? := by
  have hsound := sound_after commands
  obtain ⟨t, t', d', hfirst, hperform, hmoves, hlast, hupdate⟩ :=
    exists_moves_of_check (hsound.sets n d hd).formed hcheck
  obtain ⟨store, hstore⟩ := (Store.exists_update_iff hsound hd).mpr hcheck
  obtain ⟨d'', hd'', hplace, hothers⟩ := Store.exists_set_of_update hsound hd hstore
  obtain rfl : d' = d'' := Except.ok.inj (hupdate.symm.trans hplace)
  exact ⟨t, t', d', store, hfirst, hperform, hmoves, hlast, hstore, hd'', hothers⟩

/-! ### A set that is its own source -/

namespace ShiftedElements

/-- A session with a set of four descriptors of buffers. -/
def commands : List Command := [
  .device "" true none,
  .buffer "" "" 64,
  .setLayout "" "" [{ number := 0, kind := .storageBuffer, count := 4 }],
  .set "" ""]

def set : DescriptorSet := ((after commands).store.sets[4]?).get (by decide +kernel)

def buffer : Buffer := { device := 1, block := 2, size := 64 }

/-- The first two elements; the others stay empty. -/
def writes : List DescriptorWrite := [
  { binding := 0, elements := .buffers [.whole buffer, ⟨buffer, ⟨16, 32⟩⟩] }]

/-- Three elements move by one, the last of them an empty one. -/
def shift : DescriptorCopy := { source := none, dstFirst := 1, count := 3 }

theorem check_shift : set.checkUpdate writes [shift] = .ok () := by decide +kernel

end ShiftedElements

open ShiftedElements in
/-- The element that was empty when the copy began is empty where it was moved to, although the copy
fills the element itself. -/
theorem shifted_elements_move : ∃ t t', set.performUpdate writes [] = .ok t ∧
    shift.perform t = .ok t' ∧ shift.Moves t t' ∧
    t'.resources.find? ⟨0, 3⟩ = t.resources.find? ⟨0, 2⟩ ∧
    t'.resources.find? ⟨0, 2⟩ = t.resources.find? ⟨0, 1⟩ := by
  have hset : (after commands).store.sets[4]? = some set := (Option.some_get _).symm
  obtain ⟨t, t', -, -, hfirst, hperform, hmoves, -⟩ :=
    copies_move_at_once commands hset writes [] [] shift check_shift
  obtain ⟨-, -, -, -, -, -, -, -, hlast⟩ := hmoves.moved 2 (by decide)
  obtain ⟨-, -, -, -, -, -, -, -, hmiddle⟩ := hmoves.moved 1 (by decide)
  exact ⟨t, t', hfirst, hperform, hmoves, hlast, hmiddle⟩

end Session

end HostGpu
