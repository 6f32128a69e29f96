import HostGpu.Catalogue

/-!
# SPIR-V operations

The operations that the module reader knows by name, with their numbers. An instruction with any
other number is still read, but has no name and cannot be executed.
-/

namespace HostGpu.Spirv

inductive Opcode where
  | opNop
  | opUndef
  | opSourceContinued
  | opSource
  | opSourceExtension
  | opName
  | opMemberName
  | opString
  | opLine
  | opExtension
  | opExtInstImport
  | opMemoryModel
  | opEntryPoint
  | opExecutionMode
  | opCapability
  | opTypeVoid
  | opTypeBool
  | opTypeInt
  | opTypeFloat
  | opTypeVector
  | opTypeMatrix
  | opTypeImage
  | opTypeSampler
  | opTypeSampledImage
  | opTypeArray
  | opTypeRuntimeArray
  | opTypeStruct
  | opTypePointer
  | opTypeFunction
  | opConstantTrue
  | opConstantFalse
  | opConstant
  | opConstantComposite
  | opConstantNull
  | opFunction
  | opFunctionParameter
  | opFunctionEnd
  | opVariable
  | opImageTexelPointer
  | opLoad
  | opStore
  | opAccessChain
  | opInBoundsAccessChain
  | opDecorate
  | opMemberDecorate
  | opVectorShuffle
  | opCompositeConstruct
  | opCompositeExtract
  | opSampledImage
  | opImageSampleImplicitLod
  | opImageSampleExplicitLod
  | opImageSampleDrefImplicitLod
  | opImageSampleDrefExplicitLod
  | opImageSampleProjImplicitLod
  | opImageSampleProjExplicitLod
  | opImageSampleProjDrefImplicitLod
  | opImageSampleProjDrefExplicitLod
  | opImageFetch
  | opImageGather
  | opImageDrefGather
  | opImageRead
  | opImageWrite
  | opImage
  | opImageQueryFormat
  | opImageQueryOrder
  | opImageQuerySizeLod
  | opImageQuerySize
  | opImageQueryLod
  | opImageQueryLevels
  | opImageQuerySamples
  | opConvertFToU
  | opConvertFToS
  | opConvertSToF
  | opConvertUToF
  | opBitcast
  | opIAdd
  | opFAdd
  | opISub
  | opFSub
  | opIMul
  | opFMul
  | opAtomicIAdd
  | opPhi
  | opLoopMerge
  | opSelectionMerge
  | opLabel
  | opBranch
  | opBranchConditional
  | opSwitch
  | opReturn
  | opReturnValue
  | opModuleProcessed
deriving DecidableEq, Repr

instance : Catalogue Opcode where
  entries := [
    ⟨.opNop, "Nop", 0⟩,
    ⟨.opUndef, "Undef", 1⟩,
    ⟨.opSourceContinued, "SourceContinued", 2⟩,
    ⟨.opSource, "Source", 3⟩,
    ⟨.opSourceExtension, "SourceExtension", 4⟩,
    ⟨.opName, "Name", 5⟩,
    ⟨.opMemberName, "MemberName", 6⟩,
    ⟨.opString, "String", 7⟩,
    ⟨.opLine, "Line", 8⟩,
    ⟨.opExtension, "Extension", 10⟩,
    ⟨.opExtInstImport, "ExtInstImport", 11⟩,
    ⟨.opMemoryModel, "MemoryModel", 14⟩,
    ⟨.opEntryPoint, "EntryPoint", 15⟩,
    ⟨.opExecutionMode, "ExecutionMode", 16⟩,
    ⟨.opCapability, "Capability", 17⟩,
    ⟨.opTypeVoid, "TypeVoid", 19⟩,
    ⟨.opTypeBool, "TypeBool", 20⟩,
    ⟨.opTypeInt, "TypeInt", 21⟩,
    ⟨.opTypeFloat, "TypeFloat", 22⟩,
    ⟨.opTypeVector, "TypeVector", 23⟩,
    ⟨.opTypeMatrix, "TypeMatrix", 24⟩,
    ⟨.opTypeImage, "TypeImage", 25⟩,
    ⟨.opTypeSampler, "TypeSampler", 26⟩,
    ⟨.opTypeSampledImage, "TypeSampledImage", 27⟩,
    ⟨.opTypeArray, "TypeArray", 28⟩,
    ⟨.opTypeRuntimeArray, "TypeRuntimeArray", 29⟩,
    ⟨.opTypeStruct, "TypeStruct", 30⟩,
    ⟨.opTypePointer, "TypePointer", 32⟩,
    ⟨.opTypeFunction, "TypeFunction", 33⟩,
    ⟨.opConstantTrue, "ConstantTrue", 41⟩,
    ⟨.opConstantFalse, "ConstantFalse", 42⟩,
    ⟨.opConstant, "Constant", 43⟩,
    ⟨.opConstantComposite, "ConstantComposite", 44⟩,
    ⟨.opConstantNull, "ConstantNull", 46⟩,
    ⟨.opFunction, "Function", 54⟩,
    ⟨.opFunctionParameter, "FunctionParameter", 55⟩,
    ⟨.opFunctionEnd, "FunctionEnd", 56⟩,
    ⟨.opVariable, "Variable", 59⟩,
    ⟨.opImageTexelPointer, "ImageTexelPointer", 60⟩,
    ⟨.opLoad, "Load", 61⟩,
    ⟨.opStore, "Store", 62⟩,
    ⟨.opAccessChain, "AccessChain", 65⟩,
    ⟨.opInBoundsAccessChain, "InBoundsAccessChain", 66⟩,
    ⟨.opDecorate, "Decorate", 71⟩,
    ⟨.opMemberDecorate, "MemberDecorate", 72⟩,
    ⟨.opVectorShuffle, "VectorShuffle", 79⟩,
    ⟨.opCompositeConstruct, "CompositeConstruct", 80⟩,
    ⟨.opCompositeExtract, "CompositeExtract", 81⟩,
    ⟨.opSampledImage, "SampledImage", 86⟩,
    ⟨.opImageSampleImplicitLod, "ImageSampleImplicitLod", 87⟩,
    ⟨.opImageSampleExplicitLod, "ImageSampleExplicitLod", 88⟩,
    ⟨.opImageSampleDrefImplicitLod, "ImageSampleDrefImplicitLod", 89⟩,
    ⟨.opImageSampleDrefExplicitLod, "ImageSampleDrefExplicitLod", 90⟩,
    ⟨.opImageSampleProjImplicitLod, "ImageSampleProjImplicitLod", 91⟩,
    ⟨.opImageSampleProjExplicitLod, "ImageSampleProjExplicitLod", 92⟩,
    ⟨.opImageSampleProjDrefImplicitLod, "ImageSampleProjDrefImplicitLod", 93⟩,
    ⟨.opImageSampleProjDrefExplicitLod, "ImageSampleProjDrefExplicitLod", 94⟩,
    ⟨.opImageFetch, "ImageFetch", 95⟩,
    ⟨.opImageGather, "ImageGather", 96⟩,
    ⟨.opImageDrefGather, "ImageDrefGather", 97⟩,
    ⟨.opImageRead, "ImageRead", 98⟩,
    ⟨.opImageWrite, "ImageWrite", 99⟩,
    ⟨.opImage, "Image", 100⟩,
    ⟨.opImageQueryFormat, "ImageQueryFormat", 101⟩,
    ⟨.opImageQueryOrder, "ImageQueryOrder", 102⟩,
    ⟨.opImageQuerySizeLod, "ImageQuerySizeLod", 103⟩,
    ⟨.opImageQuerySize, "ImageQuerySize", 104⟩,
    ⟨.opImageQueryLod, "ImageQueryLod", 105⟩,
    ⟨.opImageQueryLevels, "ImageQueryLevels", 106⟩,
    ⟨.opImageQuerySamples, "ImageQuerySamples", 107⟩,
    ⟨.opConvertFToU, "ConvertFToU", 109⟩,
    ⟨.opConvertFToS, "ConvertFToS", 110⟩,
    ⟨.opConvertSToF, "ConvertSToF", 111⟩,
    ⟨.opConvertUToF, "ConvertUToF", 112⟩,
    ⟨.opBitcast, "Bitcast", 124⟩,
    ⟨.opIAdd, "IAdd", 128⟩,
    ⟨.opFAdd, "FAdd", 129⟩,
    ⟨.opISub, "ISub", 130⟩,
    ⟨.opFSub, "FSub", 131⟩,
    ⟨.opIMul, "IMul", 132⟩,
    ⟨.opFMul, "FMul", 133⟩,
    ⟨.opAtomicIAdd, "AtomicIAdd", 234⟩,
    ⟨.opPhi, "Phi", 245⟩,
    ⟨.opLoopMerge, "LoopMerge", 246⟩,
    ⟨.opSelectionMerge, "SelectionMerge", 247⟩,
    ⟨.opLabel, "Label", 248⟩,
    ⟨.opBranch, "Branch", 249⟩,
    ⟨.opBranchConditional, "BranchConditional", 250⟩,
    ⟨.opSwitch, "Switch", 251⟩,
    ⟨.opReturn, "Return", 253⟩,
    ⟨.opReturnValue, "ReturnValue", 254⟩,
    ⟨.opModuleProcessed, "ModuleProcessed", 330⟩]

namespace Opcode

/-- Whether the operation samples, fetches from or queries an image through a sampling function. -/
def isSampling : Opcode → Bool
  | opImageSampleImplicitLod | opImageSampleExplicitLod
  | opImageSampleDrefImplicitLod | opImageSampleDrefExplicitLod
  | opImageSampleProjImplicitLod | opImageSampleProjExplicitLod
  | opImageSampleProjDrefImplicitLod | opImageSampleProjDrefExplicitLod
  | opImageFetch | opImageGather | opImageDrefGather | opImageQueryLod => true
  | _ => false

/-- Whether the operation compares with a depth reference. -/
def hasDepthReference : Opcode → Bool
  | opImageSampleDrefImplicitLod | opImageSampleDrefExplicitLod
  | opImageSampleProjDrefImplicitLod | opImageSampleProjDrefExplicitLod | opImageDrefGather => true
  | _ => false

end Opcode

end HostGpu.Spirv
