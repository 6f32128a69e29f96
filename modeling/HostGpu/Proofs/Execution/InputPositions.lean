import HostGpu.Proofs.Execution.SamplingInputs

/-!
# Positions of inputs

A sampling function is built for the signature of an instruction, and finds its inputs by their
positions.  Two instructions of one signature, with coordinates and gradients of as many components,
have their depth references and what they say about the level of detail at the same positions.  An
instruction has a level of detail where its method asks for one, so offsets are at the same
positions too.  The sample comes after the offset, and a signature does not say whether there is an
offset: samples are at the same positions only if the offsets take as many vectors
(`same_positions_iff`).
-/

namespace HostGpu

open Outcome Spirv Shader Execution

/-! ## Operands -/

namespace Shader

/-- The kinds of operands that a sampling instruction can have besides its coordinate. -/
inductive OperandKind where
  | reference
  | bias
  | lod
  | gradients
  | offset
  | sample
deriving DecidableEq, Repr

namespace SamplingInstruction

/-- Whether an instruction has an operand of a kind. -/
def carries (site : SamplingInstruction) : OperandKind → Bool
  | .reference => site.dref.isSome
  | .bias => site.operands.bias.isSome
  | .lod => site.operands.lod.isSome
  | .gradients => site.operands.gradient.isSome
  | .offset => site.operands.constOffset.isSome
  | .sample => site.operands.sample.isSome

/-- An instruction says about the level of detail what its method asks for.  A fetch may leave it
out. -/
structure LevelFits (site : SamplingInstruction) : Prop where
  bias : site.carries .bias ↔ site.signature.method = .bias
  lod : site.carries .lod → site.signature.method = .lod ∨ site.signature.method = .fetch
  stated : site.signature.method = .lod → site.carries .lod
  gradients : site.carries .gradients ↔ site.signature.method = .grad

end SamplingInstruction

/-- The variants of the operations that compare have a depth reference. -/
theorem isDref_of_classify {op : Opcode} {o : ImageOperands} {variant : SamplingVariant}
    {method : SamplingMethod} (h : classify op o = .ok (variant, method)) :
    variant.isDref = op.hasDepthReference := by
  unfold classify at h
  split at h <;> cases h <;> rfl

end Shader

/-! ## Parts of inputs -/

namespace Execution

/-- The inputs that are given, by what they stand for. -/
structure InputParts where
  coordinates : List WordLanes
  reference : List WordLanes
  /-- A level of detail, a bias, or gradients. -/
  level : List WordLanes
  offset : List WordLanes
  sample : List WordLanes
deriving DecidableEq

namespace InputParts

/-- The inputs in order. -/
def all (p : InputParts) : List WordLanes :=
  p.coordinates ++ p.reference ++ p.level ++ p.offset ++ p.sample

/-- The vectors among which an operand is. -/
def vectors (p : InputParts) : OperandKind → List WordLanes
  | .reference => p.reference
  | .bias | .lod | .gradients => p.level
  | .offset => p.offset
  | .sample => p.sample

/-- The inputs before those vectors. -/
def before (p : InputParts) : OperandKind → List WordLanes
  | .reference => p.coordinates
  | .bias | .lod | .gradients => p.coordinates ++ p.reference
  | .offset => p.coordinates ++ p.reference ++ p.level
  | .sample => p.coordinates ++ p.reference ++ p.level ++ p.offset

/-- The position of the first vector for an operand. -/
def start (p : InputParts) (kind : OperandKind) : Nat := (p.before kind).length

/-- **Operands are at their positions.** -/
theorem isPrefix_drop_start (p : InputParts) (kind : OperandKind) :
    p.vectors kind <+: (filled p.all).drop (p.start kind) := by
  have hall : p.before kind ++ p.vectors kind <+: p.all := by
    have hsample :=
      List.prefix_append (p.coordinates ++ p.reference ++ p.level ++ p.offset) p.sample
    have hoffset := (List.prefix_append (p.coordinates ++ p.reference ++ p.level) p.offset).trans
      hsample
    have hlevel := (List.prefix_append (p.coordinates ++ p.reference) p.level).trans hoffset
    cases kind with
    | reference => exact hlevel
    | bias | lod | gradients => exact hoffset
    | offset => exact hsample
    | sample => exact List.prefix_rfl
  obtain ⟨rest, hrest⟩ := hall.trans (List.prefix_append _ _)
  rw [filled, ← hrest, start, List.append_assoc, List.drop_left]
  exact List.prefix_append ..

end InputParts

namespace Environment

/-- The number of components of an operand. -/
def operandCount (e : Environment) (s : State) (id : Nat) : Except Fault Nat := do
  return (← e.operand s id).components.length

/-- The parts of the inputs of a sampling function. -/
def inputParts (e : Environment) (s : State) (site : SamplingInstruction) :
    Except Fault InputParts := do
  let coordinate ← e.operand s site.coordinate
  let (coordinates, divisor) ← projected site.signature.variant coordinate.components
  let dref ← e.optionalFirst s site.dref
  let level ← e.methodInputs s site
  let offset ← e.optionalComponents s site.operands.constOffset
  let sample ← e.optionalFirst s site.operands.sample
  return ⟨coordinates, dref.map fun d => divisor.elim d d.divFloat, level, offset, sample⟩

variable {e : Environment} {s : State} {site : SamplingInstruction} {p : InputParts}

/-- The inputs that are given consist of their parts. -/
theorem givenInputs_eq_map (e : Environment) (s : State) (site : SamplingInstruction) :
    e.givenInputs s site = InputParts.all <$> e.inputParts s site := by
  simp only [givenInputs, inputParts, map_bind]
  rfl

/-- **Inputs are filled parts.** -/
theorem samplingInputs_eq_ok {inputs : List WordLanes} :
    e.samplingInputs s site = .ok inputs ↔ ∃ p, e.inputParts s site = .ok p ∧
      p.all.length ≤ samplingInputCount ∧ inputs = filled p.all := by
  rw [samplingInputs, givenInputs_eq_map]
  constructor
  · intro h
    obtain ⟨given, hgiven, h⟩ := bind_eq_ok.mp h
    obtain ⟨p, hp, rfl⟩ := map_eq_ok.mp hgiven
    obtain ⟨hcount, h⟩ : ¬ samplingInputCount < p.all.length ∧ _ := by
      split at h
      · cases h
      · exact ⟨‹_›, h⟩
    exact ⟨p, hp, Nat.not_lt.mp hcount, (pure_eq_ok.mp h).symm⟩
  · rintro ⟨p, hp, hcount, rfl⟩
    rw [hp]
    exact if_neg (Nat.not_lt.mpr hcount)

/-! ## Counting vectors -/

theorem length_of_projected {variant : SamplingVariant} {c coordinates : List WordLanes}
    {divisor : Option WordLanes} (h : projected variant c = .ok (coordinates, divisor)) :
    coordinates.length = c.length - variant.isProj.toNat := by
  unfold projected at h
  split at h
  next hproj =>
    split at h
    · cases h
      simp [hproj]
    · cases h
  next hproj =>
    cases h
    simp [hproj]

theorem length_of_optionalFirst {o : Option Nat} {first : List WordLanes}
    (h : e.optionalFirst s o = .ok first) : first.length = o.isSome.toNat := by
  cases o with
  | none =>
    cases h
    rfl
  | some id =>
    simp only [optionalFirst, bind_eq_ok] at h
    obtain ⟨_, -, component, -, h⟩ := h
    cases h
    rfl

/-- A level of detail is one vector, and so is a bias. -/
theorem length_methodInputs_of_some {level : List WordLanes} {id : Nat}
    (h : e.methodInputs s site = .ok level)
    (hid : site.operands.lod.or site.operands.bias = some id) : level.length = 1 := by
  rw [methodInputs, hid] at h
  exact length_of_optionalFirst h

/-- Gradients are as many vectors as they have components. -/
theorem length_methodInputs_of_gradient {level : List WordLanes} {dx dy : Nat}
    (h : e.methodInputs s site = .ok level) (hnone : site.operands.lod.or site.operands.bias = none)
    (hgradient : site.operands.gradient = some (dx, dy)) :
    ∃ m n, e.operandCount s dx = .ok m ∧ e.operandCount s dy = .ok n ∧ level.length = m + n := by
  simp only [methodInputs, hnone, hgradient, bind_eq_ok] at h
  obtain ⟨x, hx, y, hy, h⟩ := h
  obtain rfl := pure_eq_ok.mp h
  refine ⟨_, _, ?_, ?_, List.length_append⟩
  · rw [operandCount, hx]
    rfl
  · rw [operandCount, hy]
    rfl

/-- Only a fetch is given something that it does not have. -/
theorem length_methodInputs_of_none {level : List WordLanes}
    (h : e.methodInputs s site = .ok level) (hnone : site.operands.lod.or site.operands.bias = none)
    (hgradient : site.operands.gradient = none) :
    level.length = (decide (site.signature.method = .fetch)).toNat := by
  simp only [methodInputs, hnone, hgradient] at h
  obtain rfl := pure_eq_ok.mp h
  by_cases hfetch : site.signature.method = .fetch <;> simp [hfetch]

end Environment

/-! ## Two instructions -/

/-- A sampling instruction where it is executed, and the inputs that it assembles there. -/
structure Assembly where
  environment : Environment
  state : State
  instruction : Instruction
  op : Opcode
  site : SamplingInstruction
  parts : InputParts
  read : SamplingInstruction.ofInstruction environment.declarations instruction op = .ok site
  inputParts_eq : environment.inputParts state site = .ok parts
  length_le : parts.all.length ≤ samplingInputCount

namespace Assembly

variable (a b : Assembly)

/-- The inputs that are passed. -/
def inputs : List WordLanes := filled a.parts.all

/-- The number of components of an operand. -/
def count (id : Nat) : Except Fault Nat := a.environment.operandCount a.state id

/-- Coordinates and gradients have as many components. -/
structure SameCounts : Prop where
  coordinate : a.count a.site.coordinate = b.count b.site.coordinate
  gradients : ∀ g ∈ a.site.operands.gradient, ∀ h ∈ b.site.operands.gradient,
    a.count g.1 = b.count h.1 ∧ a.count g.2 = b.count h.2

/-- Operands that both have are at the same positions. -/
def SamePositions : Prop :=
  ∀ kind, a.site.carries kind → b.site.carries kind → a.parts.start kind = b.parts.start kind

variable {a b}

theorem samplingInputs_eq : a.environment.samplingInputs a.state a.site = .ok a.inputs :=
  Environment.samplingInputs_eq_ok.mpr ⟨a.parts, a.inputParts_eq, a.length_le, rfl⟩

/-- Inputs that are passed are assembled. -/
theorem exists_of_samplingInputs {e : Environment} {s : State} {i : Instruction} {op : Opcode}
    {site : SamplingInstruction} {inputs : List WordLanes}
    (hread : SamplingInstruction.ofInstruction e.declarations i op = .ok site)
    (hinputs : e.samplingInputs s site = .ok inputs) : ∃ a : Assembly,
      a.environment = e ∧ a.state = s ∧ a.instruction = i ∧ a.site = site ∧ a.inputs = inputs := by
  obtain ⟨p, hp, hlength, rfl⟩ := Environment.samplingInputs_eq_ok.mp hinputs
  exact ⟨⟨e, s, i, op, site, p, hread, hp, hlength⟩, rfl, rfl, rfl, rfl, rfl⟩

/-- The parts by what they are made from. -/
theorem exists_parts : ∃ c divisor dref,
    a.environment.operand a.state a.site.coordinate = .ok c ∧
    Environment.projected a.site.signature.variant c.components =
      .ok (a.parts.coordinates, divisor) ∧
    a.environment.optionalFirst a.state a.site.dref = .ok dref ∧
    a.parts.reference = (dref.map fun d => divisor.elim d d.divFloat) ∧
    a.environment.methodInputs a.state a.site = .ok a.parts.level := by
  have h := a.inputParts_eq
  simp only [Environment.inputParts, bind_eq_ok] at h
  obtain ⟨c, hc, ⟨coordinates, divisor⟩, hprojected, dref, hdref, level, hlevel, offset, -, sample,
    -, hparts⟩ := h
  rw [← pure_eq_ok.mp hparts]
  exact ⟨c, divisor, dref, hc, hprojected, hdref, rfl, hlevel⟩

theorem methodInputs_eq :
    a.environment.methodInputs a.state a.site = .ok a.parts.level := by
  obtain ⟨_, _, _, -, -, -, -, h⟩ := a.exists_parts
  exact h

/-- A reference is one vector. -/
theorem length_reference : a.parts.reference.length = a.site.signature.variant.isDref.toNat := by
  obtain ⟨_, _, dref, -, -, hdref, hreference, -⟩ := a.exists_parts
  have hread := readFrom_of_ofInstruction a.read
  rw [hreference, List.length_map, Environment.length_of_optionalFirst hdref, hread.isSome_dref,
    isDref_of_classify hread.classify]

/-- There are as many coordinates as components of the coordinate, or one less. -/
theorem exists_count_coordinate : ∃ n, a.count a.site.coordinate = .ok n ∧
    a.parts.coordinates.length = n - a.site.signature.variant.isProj.toNat := by
  obtain ⟨c, _, _, hc, hprojected, -⟩ := a.exists_parts
  refine ⟨_, ?_, Environment.length_of_projected hprojected⟩
  rw [count, Environment.operandCount, hc]
  rfl

/-- A fitting instruction has one level of detail, or what its gradients have, or none. -/
theorem length_level_of_levelFits (h : a.site.LevelFits) :
    (∃ dx dy m n, a.site.operands.gradient = some (dx, dy) ∧ a.site.signature.method = .grad ∧
      a.count dx = .ok m ∧ a.count dy = .ok n ∧ a.parts.level.length = m + n) ∨
    (a.site.signature.method ≠ .grad ∧ a.parts.level.length =
      (decide (a.site.signature.method ∈ [.bias, .lod, .fetch])).toNat) := by
  obtain ⟨hbias, hlod, hstated, hgradients⟩ := h
  simp only [SamplingInstruction.carries] at hbias hlod hstated hgradients
  have hlevel := a.methodInputs_eq
  cases hor : a.site.operands.lod.or a.site.operands.bias with
  | some id =>
    have hone : a.site.signature.method ∈ [SamplingMethod.bias, .lod, .fetch] := by
      rcases Option.or_eq_some_iff.mp hor with hsome | ⟨-, hsome⟩
      · rcases hlod (by simp [hsome]) with h | h <;> simp [h]
      · simp [hbias.mp (by simp [hsome])]
    refine .inr ⟨fun hgrad => by simp [hgrad] at hone, ?_⟩
    rw [Environment.length_methodInputs_of_some hlevel hor]
    simp [hone]
  | none =>
    obtain ⟨hnolod, hnobias⟩ := Option.or_eq_none_iff.mp hor
    cases hgradient : a.site.operands.gradient with
    | some g =>
      obtain ⟨m, n, hm, hn, hlength⟩ :=
        Environment.length_methodInputs_of_gradient hlevel hor hgradient
      exact .inl ⟨g.1, g.2, m, n, rfl, hgradients.mp (by simp [hgradient]), hm, hn, hlength⟩
    | none =>
      have hbias' : a.site.signature.method ≠ .bias := fun h => by simpa [hnobias] using hbias.mpr h
      have hlod' : a.site.signature.method ≠ .lod := fun h => by simpa [hnolod] using hstated h
      have hgrad' : a.site.signature.method ≠ .grad := fun h => by
        simpa [hgradient] using hgradients.mpr h
      refine .inr ⟨hgrad', ?_⟩
      rw [Environment.length_methodInputs_of_none hlevel hor hgradient]
      simp [hbias', hlod']

variable (signature : a.site.signature = b.site.signature) (counts : a.SameCounts b)
include signature counts

theorem length_coordinates_eq : a.parts.coordinates.length = b.parts.coordinates.length := by
  obtain ⟨m, hm, hlength⟩ := a.exists_count_coordinate
  obtain ⟨n, hn, hlength'⟩ := b.exists_count_coordinate
  have hmn : m = n := Except.ok.inj (hm.symm.trans (counts.coordinate.trans hn))
  rw [hlength, hlength', hmn, signature]

/-- **What is said about the level of detail** takes as many vectors. -/
theorem length_level_eq (ha : a.site.LevelFits) (hb : b.site.LevelFits) :
    a.parts.level.length = b.parts.level.length := by
  rcases a.length_level_of_levelFits ha, b.length_level_of_levelFits hb with
    ⟨⟨dx, dy, m, n, hg, hmethod, hm, hn, hlength⟩ | ⟨hmethod, hlength⟩,
      ⟨dx', dy', m', n', hg', hmethod', hm', hn', hlength'⟩ | ⟨hmethod', hlength'⟩⟩
  · obtain ⟨hdx, hdy⟩ := counts.gradients _ hg _ hg'
    have hmm : m = m' := Except.ok.inj (hm.symm.trans (hdx.trans hm'))
    have hnn : n = n' := Except.ok.inj (hn.symm.trans (hdy.trans hn'))
    rw [hlength, hlength', hmm, hnn]
  · exact absurd (signature ▸ hmethod) hmethod'
  · exact absurd (signature.symm ▸ hmethod') hmethod
  · rw [hlength, hlength', signature]

/-- **Positions that a signature decides.**  Two instructions of one signature, with coordinates and
gradients of as many components, have every operand that both have at the same position just if what
comes before their offsets, and what comes before their samples, takes as many vectors.  What
they say about the level of detail takes as many if it fits their method; a signature does not say
how many an offset takes. -/
theorem same_positions_iff :
    a.environment.samplingInputs a.state a.site = .ok a.inputs ∧
    (∀ kind, a.parts.vectors kind <+: a.inputs.drop (a.parts.start kind)) ∧
    (∀ kind ∈ [OperandKind.reference, .bias, .lod, .gradients],
      a.parts.start kind = b.parts.start kind) ∧
    (a.site.LevelFits → b.site.LevelFits → a.parts.level.length = b.parts.level.length) ∧
    (a.SamePositions b ↔
      (a.site.carries .offset → b.site.carries .offset →
        a.parts.level.length = b.parts.level.length) ∧
      (a.site.carries .sample → b.site.carries .sample →
        a.parts.level.length + a.parts.offset.length =
          b.parts.level.length + b.parts.offset.length)) := by
  have hcoordinates := length_coordinates_eq signature counts
  have hreference : a.parts.reference.length = b.parts.reference.length := by
    rw [length_reference, length_reference, signature]
  have hfirst : ∀ kind ∈ [OperandKind.reference, .bias, .lod, .gradients],
      a.parts.start kind = b.parts.start kind := by
    simp [InputParts.start, InputParts.before, hcoordinates, hreference]
  have hoffset : a.parts.start .offset = b.parts.start .offset ↔
      a.parts.level.length = b.parts.level.length := by
    simp only [InputParts.start, InputParts.before, List.length_append]
    omega
  have hsample : a.parts.start .sample = b.parts.start .sample ↔
      a.parts.level.length + a.parts.offset.length =
        b.parts.level.length + b.parts.offset.length := by
    simp only [InputParts.start, InputParts.before, List.length_append]
    omega
  refine ⟨samplingInputs_eq, a.parts.isPrefix_drop_start, hfirst,
    length_level_eq signature counts, ?_, ?_⟩
  · intro h
    exact ⟨fun ha hb => hoffset.mp (h _ ha hb), fun ha hb => hsample.mp (h _ ha hb)⟩
  · rintro ⟨hlevel, hoffsets⟩ kind ha hb
    cases kind with
    | reference | bias | lod | gradients => exact hfirst _ (by decide)
    | offset => exact hoffset.mpr (hlevel ha hb)
    | sample => exact hsample.mpr (hoffsets ha hb)

end Assembly

/-! ### Fetches of a sample -/

namespace SampleFetches

/-- A module that fetches the sample 3 of the texel (1, 2) of an image three times: at an offset of
(2, 1), with nothing else said, and with the level of detail 2. -/
def words : List UInt32 := [
  0x07230203, 0x00010000, 0, 21, 0,
  0x0004000F, 4, 8, 0, -- the entry point
  0x00040047, 6, 34, 0, 0x00040047, 6, 33, 0, -- set 0 and binding 0
  0x00030016, 1, 32, 0x00040017, 2, 1, 4, -- numbers and four of them
  0x00040015, 3, 32, 1, 0x00040017, 4, 3, 2, -- integers and two of them
  0x00090019, 5, 1, 1, 0, 0, 1, 1, 0, 0x00040020, 7, 0, 5, -- the image, which has samples
  0x0004002B, 3, 11, 1, 0x0004002B, 3, 12, 2, 0x0004002B, 3, 13, 3,
  0x0005002C, 4, 14, 11, 12, 0x0005002C, 4, 15, 12, 11, -- the coordinate and the offset
  0x0004003B, 7, 6, 0,
  0x00050036, 16, 8, 0, 9, 0x000200F8, 10,
  0x0004003D, 5, 17, 6,
  0x0008005F, 2, 18, 17, 14, 0x48, 15, 13,
  0x0007005F, 2, 19, 17, 14, 0x40, 13,
  0x0008005F, 2, 20, 17, 14, 0x42, 12, 13,
  0x000100FD, 0x00010038]

def module : Module := (Module.ofWords words).toOption.get (by decide +kernel)

@[irreducible] def shader : Shader :=
  (Shader.ofModule 0 module).toOption.get (by decide +kernel)

def environment : Environment where
  shader
  layout := ⟨0, 0, []⟩
  bound := []
  sets := ∅
  resolver := .own fun _ => .copyInputs 0

def state : State where
  machine := ⟨∅, {}, [{}, {}, {}], []⟩
  values := Std.TreeMap.ofList [(17, Value.pointer (.descriptor ⟨0, 0⟩))]

/-- A fetch, by its call site, its result and its operands. -/
def fetch (callSite result : Nat) (operands : ImageOperands) : SamplingInstruction where
  signature := ⟨.plain, .fetch, 0⟩
  callSite
  resultType := 2
  result
  sampledImage := 17
  coordinate := 14
  dref := none
  operands

/-- The fetch with the given words. -/
def instruction (words : List UInt32) : Instruction :=
  ((module.instructions.find? (·.words = words))).getD ⟨0, words⟩

/-- At an offset. -/
def shifted : Assembly where
  environment
  state
  instruction := instruction [0x0008005F, 2, 18, 17, 14, 0x48, 15, 13]
  op := .opImageFetch
  site := fetch 0 18 { mask := 0x48, constOffset := some 15, sample := some 13 }
  parts := ⟨[.splat 1, .splat 2], [], [.splat 0], [.splat 2, .splat 1], [.splat 3]⟩
  read := toOption_eq_some.mp (by decide +kernel)
  inputParts_eq := toOption_eq_some.mp (by decide +kernel)
  length_le := by decide

/-- With nothing said. -/
def bare : Assembly where
  environment
  state
  instruction := instruction [0x0007005F, 2, 19, 17, 14, 0x40, 13]
  op := .opImageFetch
  site := fetch 1 19 { mask := 0x40, sample := some 13 }
  parts := ⟨[.splat 1, .splat 2], [], [.splat 0], [], [.splat 3]⟩
  read := toOption_eq_some.mp (by decide +kernel)
  inputParts_eq := toOption_eq_some.mp (by decide +kernel)
  length_le := by decide

/-- With a level of detail. -/
def leveled : Assembly where
  environment
  state
  instruction := instruction [0x0008005F, 2, 20, 17, 14, 0x42, 12, 13]
  op := .opImageFetch
  site := fetch 2 20 { mask := 0x42, lod := some 12, sample := some 13 }
  parts := ⟨[.splat 1, .splat 2], [], [.splat 2], [], [.splat 3]⟩
  read := toOption_eq_some.mp (by decide +kernel)
  inputParts_eq := toOption_eq_some.mp (by decide +kernel)
  length_le := by decide

/-- All fetches have one coordinate. -/
theorem sameCounts_bare_leveled : bare.SameCounts leveled := ⟨rfl, nofun⟩

theorem sameCounts_shifted_bare : shifted.SameCounts bare := ⟨rfl, nofun⟩

end SampleFetches

open SampleFetches in
/-- A fetch without a level of detail is given level zero, so the sample follows it as it follows a
level of detail. -/
theorem level_zero_keeps_position : bare.site.signature = leveled.site.signature ∧
    bare.SameCounts leveled ∧ bare.SamePositions leveled ∧ bare.parts.start .sample = 3 := by
  obtain ⟨-, -, -, -, hiff⟩ := Assembly.same_positions_iff (a := bare) (b := leveled) rfl
    sameCounts_bare_leveled
  exact ⟨rfl, sameCounts_bare_leveled, hiff.mpr ⟨nofun, fun _ _ => rfl⟩, rfl⟩

open SampleFetches in
/-- **An offset moves the sample.**  Both fetches have one signature and one coordinate, and both
have a sample; it is the sixth input of the one with an offset and the fourth input of the other,
where the sixth input is zero. -/
theorem offset_moves_sample : shifted.site.signature = bare.site.signature ∧
    shifted.SameCounts bare ∧ shifted.site.carries .sample = true ∧
    bare.site.carries .sample = true ∧ ¬ shifted.SamePositions bare ∧
    shifted.inputs[5]? = some (.splat 3) ∧ bare.inputs[3]? = some (.splat 3) ∧
    bare.inputs[5]? = some (.splat 0) := by
  refine ⟨rfl, sameCounts_shifted_bare, rfl, rfl, fun h => ?_, rfl, rfl, rfl⟩
  have hsample : shifted.parts.start .sample = bare.parts.start .sample := h .sample rfl rfl
  exact absurd hsample (by decide)

end Execution

end HostGpu
