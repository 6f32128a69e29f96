import HostGpu.Catalogue

/-!
# Aspects of an image

An image holds colour, or depth, or stencil, or depth and stencil. `AspectSet` is a set of these
three; `toList` lists it in the order colour, depth, stencil.
-/

namespace HostGpu

inductive Aspect where
  | color
  | depth
  | stencil
deriving DecidableEq, Repr

instance : Catalogue Aspect where
  entries := [⟨.color, "Color", 1⟩, ⟨.depth, "Depth", 2⟩, ⟨.stencil, "Stencil", 4⟩]

/-- A set of aspects. -/
structure AspectSet where
  color : Bool
  depth : Bool
  stencil : Bool
deriving DecidableEq, Repr

namespace AspectSet

def empty : AspectSet := ⟨false, false, false⟩

def single : Aspect → AspectSet
  | .color => ⟨true, false, false⟩
  | .depth => ⟨false, true, false⟩
  | .stencil => ⟨false, false, true⟩

def union (s t : AspectSet) : AspectSet :=
  ⟨s.color || t.color, s.depth || t.depth, s.stencil || t.stencil⟩

def ofList (l : List Aspect) : AspectSet := l.foldl (fun s a => s.union (single a)) empty

def isEmpty (s : AspectSet) : Bool := !s.color && !s.depth && !s.stencil

/-- Whether every aspect of `t` is in `s`. -/
def contains (s t : AspectSet) : Bool :=
  (s.color || !t.color) && (s.depth || !t.depth) && (s.stencil || !t.stencil)

/-- Whether some aspect is in both. -/
def intersects (s t : AspectSet) : Bool :=
  s.color && t.color || s.depth && t.depth || s.stencil && t.stencil

def toList (s : AspectSet) : List Aspect :=
  [Aspect.color, .depth, .stencil].filter fun a => s.contains (single a)

theorem mem_toList (s : AspectSet) (a : Aspect) : a ∈ s.toList ↔ s.contains (single a) = true := by
  cases a <;> simp [toList]

end AspectSet

end HostGpu
