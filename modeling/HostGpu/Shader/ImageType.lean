import HostGpu.Shader.Basic

/-!
# Image types

What the declaration of an image type says. The type of an image with a sampler stands for the type
of its image.
-/

namespace HostGpu

namespace Shader

open Spirv

structure ImageType where
  /-- The type of the components of texels. -/
  sampledType : Nat
  dimension : Dimension
  arrayed : Bool
  multisampled : Bool
  format : ImageFormat
deriving DecidableEq, Repr

namespace ImageType

/-- The image type that an instruction declares. -/
def ofInstruction (i : Instruction) : Except Fault ImageType := do
  let sampledType ← i.id 2
  let number ← i.id 3
  let some dimension := Catalogue.ofNumber? number | throw (.unknownDimension number)
  let arrayed := (← i.word 5) != 0
  let multisampled := (← i.word 6) != 0
  let number ← i.id 8
  let some format := Catalogue.ofNumber? number | throw (.unknownImageFormat number)
  return { sampledType, dimension, arrayed, multisampled, format }

end ImageType

/-- The instruction at a word offset. -/
def definition (s : Shader) (offset : Nat) : Except Fault Instruction := s.module.fetch offset

/-- The image type that a type stands for, through at most `fuel` declarations. -/
def imageTypeFrom (s : Shader) : (fuel : Nat) → (id : Nat) → Except Fault ImageType
  | 0, _ => .error .cyclicType
  | fuel + 1, id => do
    let type ← s.declarations.type id
    match type.op with
    | .opTypeSampledImage => s.imageTypeFrom fuel type.elementId
    | .opTypeImage => ImageType.ofInstruction (← s.definition type.offset)
    | _ => throw (.notImageType id)

/-- The image type that a type stands for. -/
def imageType (s : Shader) (id : Nat) : Except Fault ImageType :=
  s.imageTypeFrom (s.declarations.types.size + 1) id

/-- The image type of an object. -/
def objectImageType (s : Shader) (id : Nat) : Except Fault ImageType := do
  s.imageType (← s.declarations.object id).type

end Shader

end HostGpu
