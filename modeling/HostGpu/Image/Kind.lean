import HostGpu.Catalogue

/-!
# Kinds of images and views

The dimensionality of an image, the ways a view shows an image, and the number of samples of a
texel.
-/

namespace HostGpu

inductive ImageKind where
  | dim1
  | dim2
  | dim3
deriving DecidableEq, Repr

instance : Catalogue ImageKind where
  entries := [⟨.dim1, "Dim1d", 0⟩, ⟨.dim2, "Dim2d", 1⟩, ⟨.dim3, "Dim3d", 2⟩]

inductive ViewKind where
  | dim1
  | dim2
  | dim3
  | cube
  | dim1Array
  | dim2Array
  | cubeArray
deriving DecidableEq, Repr

instance : Catalogue ViewKind where
  entries := [
    ⟨.dim1, "Dim1d", 0⟩, ⟨.dim2, "Dim2d", 1⟩, ⟨.dim3, "Dim3d", 2⟩, ⟨.cube, "Cube", 3⟩,
    ⟨.dim1Array, "Dim1dArray", 4⟩, ⟨.dim2Array, "Dim2dArray", 5⟩, ⟨.cubeArray, "CubeArray", 6⟩]

namespace ViewKind

def isArrayed : ViewKind → Bool
  | dim1Array | dim2Array | cubeArray => true
  | dim1 | dim2 | dim3 | cube => false

def isCube : ViewKind → Bool
  | cube | cubeArray => true
  | _ => false

end ViewKind

inductive SampleCount where
  | one
  | two
  | four
  | eight
  | sixteen
  | thirtyTwo
  | sixtyFour
deriving DecidableEq, Repr

instance : Catalogue SampleCount where
  entries := [
    ⟨.one, "Sample1", 1⟩, ⟨.two, "Sample2", 2⟩, ⟨.four, "Sample4", 4⟩, ⟨.eight, "Sample8", 8⟩,
    ⟨.sixteen, "Sample16", 16⟩, ⟨.thirtyTwo, "Sample32", 32⟩, ⟨.sixtyFour, "Sample64", 64⟩]

/-- The number of samples. -/
def SampleCount.count : SampleCount → Nat
  | one => 1
  | two => 2
  | four => 4
  | eight => 8
  | sixteen => 16
  | thirtyTwo => 32
  | sixtyFour => 64

theorem SampleCount.count_pos (s : SampleCount) : 0 < s.count := by
  cases s <;> decide

end HostGpu
