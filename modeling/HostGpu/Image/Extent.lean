/-!
# Extents and mip levels

An extent is the width, height and depth of an image in texels. Every mip level halves the extent of
the level before it, down to one texel.
-/

namespace HostGpu

structure Extent where
  width : Nat
  height : Nat
  depth : Nat
deriving DecidableEq, Repr

namespace Extent

def toList (e : Extent) : List Nat := [e.width, e.height, e.depth]

def map (f : Nat → Nat) (e : Extent) : Extent := ⟨f e.width, f e.height, f e.depth⟩

/-- The number of texels. -/
def texels (e : Extent) : Nat := e.width * e.height * e.depth

/-- The extent of a mip level. -/
def level (e : Extent) (l : Nat) : Extent := e.map fun n => max (n >>> l) 1

/-- The number of mip levels down to a single texel: the bits of the longest side. All sides are
combined first, which has as many bits as the longest one. -/
def maxMipLevels (e : Extent) : Nat :=
  let sides := e.width ||| e.height ||| e.depth
  if sides = 0 then 0 else sides.log2 + 1

@[simp] theorem level_zero (e : Extent) (h : ∀ n ∈ e.toList, 0 < n) : e.level 0 = e := by
  rcases e with ⟨w, h', d⟩
  simp only [toList, List.mem_cons, List.not_mem_nil, or_false, forall_eq_or_imp, forall_eq] at h
  simp only [level, map, Nat.shiftRight_zero, Extent.mk.injEq]
  omega

/-- A level is one texel at least on every side. -/
theorem level_pos (e : Extent) (l : Nat) : ∀ n ∈ (e.level l).toList, 0 < n := by
  simp only [level, map, toList, List.mem_cons, List.not_mem_nil, or_false, forall_eq_or_imp,
    forall_eq]
  omega

end Extent

end HostGpu
