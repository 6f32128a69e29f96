import HostGpu.Proofs.Execution.Ends
import HostGpu.Proofs.Execution.LastUse
import HostGpu.Proofs.Shader.SamplingWords

/-!
# Inputs of sampling functions

Where the values of its operands are known, what a sampling instruction passes to the function that
it finds is known in full: the coordinates, the depth reference, what its method asks for, the
offset and the sample, and zeros up to sixteen vectors (`sampling_inputs_in_order`).  The positions
of the inputs follow from the signature and from counts of components, so a sampling function that
is built for a signature finds them without the shader.
-/

namespace HostGpu

open Outcome Spirv Shader SamplingWords Execution

/-! ## What the inputs are to be -/

/-- What a method asks for, by the values of operands.  A fetch without a level of detail reads
level zero. -/
def SamplingMethod.inputs (values : UInt32 → List WordLanes) (level : LevelOperand) :
    SamplingMethod → List WordLanes
  | .bias => level.bias?.elim [] fun id => (values id).take 1
  | .lod => level.lod?.elim [] fun id => (values id).take 1
  | .grad => level.dx?.elim [] values ++ level.dy?.elim [] values
  | .fetch => level.lod?.elim [.splat 0] fun id => (values id).take 1
  | .implicit | .gather | .query => []

namespace Shader.SamplingWords

/-- The operands of which one component is read. -/
def scalars (w : SamplingWords) (op : Opcode) : List UInt32 :=
  (w.dref op).toList ++ w.level.bias?.toList ++ w.level.lod?.toList ++ w.sample.toList

/-- The operands besides the coordinate of which all components are read. -/
def vectors (w : SamplingWords) : List UInt32 :=
  w.level.dx?.toList ++ w.level.dy?.toList ++ w.offset.toList

variable {w : SamplingWords} {op : Opcode} {id : UInt32}

theorem mem_scalars : id ∈ w.scalars op ↔
    ((id ∈ w.dref op ∨ id ∈ w.level.bias?) ∨ id ∈ w.level.lod?) ∨ id ∈ w.sample := by
  simp only [scalars, List.mem_append, Option.mem_toList, Option.mem_def]

theorem mem_vectors : id ∈ w.vectors ↔
    (id ∈ w.level.dx? ∨ id ∈ w.level.dy?) ∨ id ∈ w.offset := by
  simp only [vectors, List.mem_append, Option.mem_toList, Option.mem_def]

end Shader.SamplingWords

namespace Execution

/-- The coordinates and the depth reference of a variant, by the components of the coordinate and by
the reference.  A projective variant divides both by the last component. -/
inductive Positioned : SamplingVariant → List WordLanes → Option WordLanes → List WordLanes → Prop
  | plain (c : List WordLanes) : Positioned .plain c none c
  | dref (c : List WordLanes) (d : WordLanes) : Positioned .dref c (some d) (c ++ [d])
  | proj (c : List WordLanes) (q : WordLanes) :
      Positioned .proj (c ++ [q]) none (c.map (·.divFloat q))
  | projDref (c : List WordLanes) (q d : WordLanes) :
      Positioned .projDref (c ++ [q]) (some d) (c.map (·.divFloat q) ++ [d.divFloat q])

/-- Inputs, with zeros after them up to the number of input vectors. -/
def filled (given : List WordLanes) : List WordLanes :=
  given ++ List.replicate (samplingInputCount - given.length) (.splat 0)

section

variable {e : Environment} {s : State} {i : Instruction} {op : Opcode} {w : SamplingWords}
  {values : UInt32 → List WordLanes}

/-- The components of an operand are known. -/
def HasValue (e : Environment) (s : State) (values : UInt32 → List WordLanes) (id : UInt32) :
    Prop :=
  ∃ isConstant, e.operand s id.toNat = .ok ⟨values id, isConstant⟩

/-- The operands of a sampling instruction have these components, and no more than an image can
have: four for a coordinate, three for a gradient or an offset.  The component of a gather is a
constant. -/
structure HasOperands (e : Environment) (s : State) (op : Opcode) (w : SamplingWords)
    (values : UInt32 → List WordLanes) : Prop where
  known : ∀ id ∈ w.coordinate :: (w.scalars op ++ w.vectors), HasValue e s values id
  coordinate_ne_nil : op ∈ Opcode.projective → values w.coordinate ≠ []
  coordinate_le : (values w.coordinate).length ≤ 4
  scalar_ne_nil : ∀ id ∈ w.scalars op, values id ≠ []
  vector_le : ∀ id ∈ w.vectors, (values id).length ≤ 3
  component : ∀ id ∈ w.component op, ∃ number, e.declarations.scalar id.toNat = .ok number

/-- The call of the function that a use found. -/
def Use.call (e : Environment) (u : Use) (inputs : List WordLanes) : SamplingEvent :=
  .called u.function ⟨u.sample.image, e.sampledRecord u.sample.image⟩ inputs

/-- An instruction passes inputs: if it finds a function, it calls that function with them, and it
calls no other. -/
def Passes (e : Environment) (s : State) (i : Instruction) (inputs : List WordLanes) : Prop :=
  ∃ requests, (∀ f texture inputs', SamplingEvent.called f texture inputs' ∉ requests) ∧
    ((step e i).run s).2.machine.events =
      ((use? e s i).map (·.call e inputs)).toList ++ requests ++ s.machine.events

/-! ## Assembling inputs -/

namespace HasOperands

variable {o : Option UInt32} (h : HasOperands e s op w values)
include h

theorem scalar (ho : ∀ id ∈ o, id ∈ w.scalars op) :
    e.optionalFirst s (o.map (·.toNat)) = .ok (o.elim [] fun id => (values id).take 1) := by
  cases o with
  | none => rfl
  | some id =>
    have hid := ho id rfl
    obtain ⟨isConstant, hvalue⟩ := h.known id (by simp [hid])
    obtain ⟨first, rest, hfirst⟩ := List.exists_cons_of_ne_nil (h.scalar_ne_nil id hid)
    simp only [Environment.optionalFirst, Option.map_some, hvalue, ok_bind, Operand.component,
      hfirst, Option.elim_some]
    rfl

theorem vector (ho : ∀ id ∈ o, id ∈ w.vectors) :
    e.optionalComponents s (o.map (·.toNat)) = .ok (o.elim [] values) := by
  cases o with
  | none => rfl
  | some id =>
    obtain ⟨isConstant, hvalue⟩ := h.known id (by simp [ho id rfl])
    simp only [Environment.optionalComponents, Option.map_some, hvalue, ok_bind]
    rfl

theorem length_vector (ho : ∀ id ∈ o, id ∈ w.vectors) : (o.elim [] values).length ≤ 3 := by
  cases o with
  | none => exact Nat.zero_le 3
  | some id => exact h.vector_le id (ho id rfl)

end HasOperands

namespace Environment

/-- **A method is given** what it asks for. -/
theorem methodInputs_eq {site : SamplingInstruction} (hread : w.IsRead op site)
    (h : HasOperands e s op w values) :
    e.methodInputs s site = .ok (site.signature.method.inputs values w.level) := by
  have hbias := h.scalar (o := w.level.bias?) fun _ hid => mem_scalars.mpr (.inl (.inl (.inr hid)))
  have hlod := h.scalar (o := w.level.lod?) fun _ hid => mem_scalars.mpr (.inl (.inr hid))
  have hdx : ∀ id ∈ w.level.dx?, HasValue e s values id := fun id hid =>
    h.known id (by simp [mem_vectors.mpr (.inl (.inl hid))])
  have hdy : ∀ id ∈ w.level.dy?, HasValue e s values id := fun id hid =>
    h.known id (by simp [mem_vectors.mpr (.inl (.inr hid))])
  have hfits := hread.method
  rw [methodInputs, hread.operands, SamplingWords.imageOperands_eq]
  generalize w.level = level at *
  generalize site.signature.method = method at *
  cases hfits with
  | implicit | gather | fetch | query => rfl
  | bias _ id => exact hbias
  | lod _ id | fetchLod _ id => exact hlod
  | grad _ dx dy =>
    obtain ⟨isConstant, hvalue⟩ := hdx dx rfl
    obtain ⟨isConstant', hvalue'⟩ := hdy dy rfl
    simp only [LevelOperand.lod?, LevelOperand.bias?, LevelOperand.dx?, LevelOperand.dy?,
      Option.map_none, Option.map_some, Option.or_none, Option.bind_some, hvalue, hvalue', ok_bind]
    rfl

/-- **Coordinates are divided** where the variant is projective, and so is the depth reference. -/
theorem projected_eq {variant : SamplingVariant} {c : List WordLanes} {d : Option WordLanes}
    (hc : variant.isProj = true → c ≠ []) (hd : d.isSome = variant.isDref) :
    ∃ coordinates divisor, projected variant c = .ok (coordinates, divisor) ∧
      Positioned variant c d
        (coordinates ++ d.toList.map fun d => divisor.elim d d.divFloat) := by
  have hlast (hproj : variant.isProj = true) : ∃ front last, c = front ++ [last] :=
    ⟨_, _, (List.dropLast_append_getLast (hc hproj)).symm⟩
  cases variant with
  | plain =>
    obtain rfl : d = none := Option.isNone_iff_eq_none.mp (Option.isSome_eq_false_iff.mp hd)
    exact ⟨c, none, rfl, by simpa using .plain c⟩
  | dref =>
    obtain ⟨d, rfl⟩ := Option.isSome_iff_exists.mp hd
    exact ⟨c, none, rfl, .dref c d⟩
  | proj =>
    obtain rfl : d = none := Option.isNone_iff_eq_none.mp (Option.isSome_eq_false_iff.mp hd)
    obtain ⟨front, last, rfl⟩ := hlast rfl
    refine ⟨front.map (·.divFloat last), some last, ?_, by simpa using .proj front last⟩
    simp [projected, SamplingVariant.isProj]
  | projDref =>
    obtain ⟨d, rfl⟩ := Option.isSome_iff_exists.mp hd
    obtain ⟨front, last, rfl⟩ := hlast rfl
    refine ⟨front.map (·.divFloat last), some last, ?_, .projDref front last d⟩
    simp [projected, SamplingVariant.isProj]

/-- **Inputs are given in order:** the position, what the method asks for, the offset and the
sample. -/
theorem givenInputs_eq {site : SamplingInstruction} (hw : w.IsFor op) (hread : w.IsRead op site)
    (h : HasOperands e s op w values) :
    ∃ position, Positioned site.signature.variant (values w.coordinate)
        ((w.dref op).bind fun id => (values id).head?) position ∧
      e.givenInputs s site = .ok (position ++ site.signature.method.inputs values w.level ++
        w.offset.elim [] values ++ w.sample.elim [] fun id => (values id).take 1) := by
  have hdrefs : ∀ id ∈ w.dref op, id ∈ w.scalars op := fun _ hid =>
    mem_scalars.mpr (.inl (.inl (.inl hid)))
  have hdref := h.scalar hdrefs
  have hsample := h.scalar (o := w.sample) fun _ hid => mem_scalars.mpr (.inr hid)
  have hoffset := h.vector (o := w.offset) fun _ hid => mem_vectors.mpr (.inr hid)
  obtain ⟨isConstant, hvalue⟩ := h.known w.coordinate (by simp)
  -- the reference that is read is the first component
  have hhead : ((w.dref op).bind fun id => (values id).head?).toList =
      (w.dref op).elim [] fun id => (values id).take 1 := by
    cases w.dref op with
    | none => rfl
    | some id => cases hid : values id <;> simp [hid]
  have hsome : ((w.dref op).bind fun id => (values id).head?).isSome =
      site.signature.variant.isDref := by
    rw [hread.variant.dref, ← hw.isSome_dref]
    cases hop : w.dref op with
    | none => rfl
    | some id =>
      obtain ⟨first, rest, hid⟩ := List.exists_cons_of_ne_nil (h.scalar_ne_nil id (hdrefs id hop))
      simp [hid]
  obtain ⟨coordinates, divisor, hprojected, hposition⟩ := projected_eq
    (fun hproj => h.coordinate_ne_nil (hread.variant.proj.mp hproj)) hsome
  refine ⟨_, hposition, ?_⟩
  rw [givenInputs, hread.coordinate, hread.dref, methodInputs_eq hread h, hread.operands,
    SamplingWords.imageOperands_eq]
  simp only [hvalue, hprojected, hdref, hsample, hoffset, ok_bind, hhead]
  rfl

/-- Inputs that are not too many are filled. -/
theorem samplingInputs_eq {site : SamplingInstruction} {given : List WordLanes}
    (hgiven : e.givenInputs s site = .ok given) (hlength : given.length ≤ samplingInputCount) :
    e.samplingInputs s site = .ok (filled given) := by
  rw [samplingInputs, hgiven, ok_bind, if_neg (Nat.not_lt.mpr hlength)]
  rfl

end Environment

/-! ## Counting inputs -/

theorem Positioned.length_le {variant : SamplingVariant} {c position : List WordLanes}
    {d : Option WordLanes} (h : Positioned variant c d position) :
    position.length ≤ c.length + 1 := by
  cases h <;> grind

/-- A method asks for two gradients or for one vector at most. -/
theorem length_inputs_le {level : LevelOperand} (hdx : (level.dx?.elim [] values).length ≤ 3)
    (hdy : (level.dy?.elim [] values).length ≤ 3) (method : SamplingMethod) :
    (method.inputs values level).length ≤ 6 := by
  cases method with
  | grad =>
    rw [SamplingMethod.inputs, List.length_append]
    omega
  | bias =>
    rw [SamplingMethod.inputs]
    cases level.bias? <;> simp
  | lod | fetch =>
    rw [SamplingMethod.inputs]
    cases level.lod? <;> simp
  | implicit | gather | query => exact Nat.zero_le 6

/-- **Sixteen vectors are enough:** one more than the most that are given. -/
theorem HasOperands.length_given {position : List WordLanes} {variant : SamplingVariant}
    {d : Option WordLanes} (h : HasOperands e s op w values)
    (hposition : Positioned variant (values w.coordinate) d position) (method : SamplingMethod) :
    (position ++ method.inputs values w.level ++ w.offset.elim [] values ++
      w.sample.elim [] fun id => (values id).take 1).length < samplingInputCount := by
  have hoffset := h.length_vector (o := w.offset) fun _ hid => mem_vectors.mpr (.inr hid)
  have hsample : (w.sample.elim [] fun id => (values id).take 1).length ≤ 1 := by
    cases w.sample <;> simp
  have hlevel : (method.inputs values w.level).length ≤ 6 := length_inputs_le
    (h.length_vector fun _ hid => mem_vectors.mpr (.inl (.inl hid)))
    (h.length_vector fun _ hid => mem_vectors.mpr (.inl (.inr hid))) method
  have hcoordinate := h.coordinate_le
  have hlength := hposition.length_le
  simp only [List.length_append, samplingInputCount]
  omega

/-! ## Passing inputs -/

theorem events_call {x : Sample} {f : SamplingFunction} {inputs : List WordLanes}
    (h : e.samplingInputs s x.site = .ok inputs) (count : Nat) :
    ((call e x count f).run s).2.machine.events = Use.call e ⟨x, f⟩ inputs :: s.machine.events := by
  rw [call, run_inspect_bind h]
  exact (quiet_define x.site.result _ (s.note (Use.call e ⟨x, f⟩ inputs))).events

/-- What an instruction does stays done when it goes on. -/
theorem state_next (x : Run Unit) (s : State) :
    ((do x; return .next : Run Flow).run s).2 = (x.run s).2 := by
  rw [run_bind]
  rcases x.run s with ⟨_ | _, t⟩ <;> rfl

/-- **Inputs are passed** if what the instruction samples has them. -/
theorem passes_of_samplingInputs {inputs : List WordLanes}
    (h : ∀ x, lookUp? e s i = some x → e.samplingInputs s x.site = .ok inputs) :
    Passes e s i inputs := by
  cases hx : lookUp? e s i with
  | none =>
    refine ⟨[], by simp, ?_⟩
    rw [(sameSampling_of_lookUp_eq_none hx).events, use?_of_lookUp_eq_none hx]
    rfl
  | some x =>
    obtain ⟨count, hrun⟩ := run_step_of_lookUp hx
    obtain ⟨⟨requests, hevents, hnone⟩, -, -⟩ := findFunction_spec (lookUp?_eq_some.mp hx).1
    have hends : Ends (fun _ => s.SameButMachine) (fun _ => True)
        (findFunction e x.site x.image x.sampler) s := ends_findFunction trivial
    rw [Ends] at hends
    refine ⟨requests, hnone, ?_⟩
    rw [hrun, run_bind]
    rcases hfind : (findFunction e x.site x.image x.sampler).run s with ⟨fault | f, t⟩ <;>
      rw [hfind] at hevents hends
    · have huse : use? e s i = none := by
        rw [use?, hx, Option.bind_some, hfind]
        rfl
      rw [huse]
      exact hevents
    · obtain ⟨machine, rfl⟩ := hends
      have huse : use? e s i = some ⟨x, f⟩ := use?_eq_some.mpr ⟨hx, congrArg Prod.fst hfind⟩
      have hinputs : e.samplingInputs { s with machine } x.site = .ok inputs := h x hx
      dsimp only
      rw [state_next, events_call hinputs, hevents, huse]
      rfl

/-- **Sampling functions are passed their inputs in order.**  Every instruction whose operands are
those that its operation allows is read, with the variant of its operation and the method for what
it says about the level of detail.  Whatever function it finds is called with its coordinates and
its depth reference, then with what the method asks for, then with the offset and the sample, and
with zeros up to sixteen vectors; these are never too many. -/
theorem sampling_inputs_in_order (he : e.shader.IsAnalysed)
    (hmem : i ∈ e.shader.module.instructions) (hop : i.op? = some op) (hi : i.words = w.words)
    (hw : w.IsFor op) (h : HasOperands e s op w values) : ∃ site position given,
      SamplingInstruction.ofInstruction e.declarations i op = .ok site ∧
      IsVariantOf op site.signature.variant ∧ w.level.Fits op site.signature.method ∧
      Positioned site.signature.variant (values w.coordinate)
        ((w.dref op).bind fun id => (values id).head?) position ∧
      given = position ++ site.signature.method.inputs values w.level ++
        w.offset.elim [] values ++ (w.sample.elim [] fun id => (values id).take 1) ∧
      given.length ≤ samplingInputCount ∧ e.samplingInputs s site = .ok (filled given) ∧
      Passes e s i (filled given) := by
  have hsampling : isSampling i = true := by
    rw [isSampling_eq hop]
    exact LevelOperand.isSampling_of_isFor hw.level
  obtain ⟨k, hk⟩ := List.mem_iff_getElem?.mp (List.mem_filter.mpr ⟨hmem, hsampling⟩)
  obtain ⟨site, hsite, hread⟩ :=
    SamplingWords.ofInstruction_eq hw hi (he.callSite_of_getElem? hk) h.component
  obtain ⟨position, hposition, hgiven⟩ := Environment.givenInputs_eq hw hread h
  have hlength := h.length_given hposition site.signature.method
  have hinputs := Environment.samplingInputs_eq hgiven hlength.le
  refine ⟨site, position, _, hsite, hread.variant, hread.method, hposition, rfl, hlength.le,
    hinputs, ?_⟩
  refine passes_of_samplingInputs fun x hx => ?_
  obtain ⟨op', hop', -, hsite'⟩ := (lookUp?_eq_some.mp hx).1.site
  cases hop.symm.trans hop'
  cases hsite.symm.trans hsite'
  exact hinputs

end

/-! ### A projective comparison -/

namespace ProjectedReference

/-- A module that compares with a depth reference at a projected coordinate, on a given level. -/
def words : List UInt32 := [
  0x07230203, 0x00010000, 0, 20, 0,
  0x0004000F, 4, 8, 0, -- the entry point
  0x00040047, 7, 34, 0, 0x00040047, 7, 33, 0, -- set 0 and binding 0
  0x00030016, 1, 32, 0x00040017, 2, 1, 4, 0x00040017, 3, 1, 3, -- numbers, four and three of them
  0x00090019, 4, 1, 1, 1, 0, 0, 1, 0, 0x0003001B, 5, 4, 0x00040020, 6, 0, 5, -- the image
  0x0004002B, 1, 14, 0x40000000, 0x0004002B, 1, 15, 0x40800000, 0x0004002B, 1, 16, 0x41000000,
  0x0006002C, 3, 12, 14, 15, 16, -- the coordinate (2, 4, 8)
  0x0004002B, 1, 17, 0x41800000, 0x0004002B, 1, 18, 0x40400000, -- the reference 16 and the level 3
  0x0004003B, 6, 7, 0,
  0x00050036, 13, 8, 0, 9, 0x000200F8, 10,
  0x0004003D, 5, 11, 7,
  0x0008005E, 2, 19, 11, 12, 17, 2, 18,
  0x000100FD, 0x00010038]

def module : Module := (Module.ofWords words).toOption.get (by decide +kernel)

@[irreducible] def shader : Shader :=
  (Shader.ofModule 0 module).toOption.get (by decide +kernel)

/-- A run in which whoever is asked for a function gives one that returns its first inputs. -/
def environment : Environment where
  shader
  layout := ⟨0, 0, []⟩
  bound := []
  sets := ∅
  resolver := .own fun _ => .copyInputs 0

/-- The image is loaded. -/
def state : State where
  machine := ⟨∅, {}, [{}], []⟩
  values := Std.TreeMap.ofList [(11, Value.pointer (.descriptor ⟨0, 0⟩))]

def written : SamplingWords where
  leading := 0x0008005E
  resultType := 2
  result := 19
  sampledImage := 11
  coordinate := 12
  reference := some 17
  operands := some { level := .lod 18 }

def instruction : Instruction :=
  (environment.shader.module.instructions.find? (·.words = written.words)).get (by decide +kernel)

theorem isFor : written.IsFor .opImageSampleProjDrefExplicitLod where
  level := .inl (by decide)
  reference := by decide
  query := nofun
  extension := by decide

/-- The components of operands. -/
def values (id : UInt32) : List WordLanes :=
  (environment.operand state id.toNat).toOption.elim [] (·.components)

theorem isAnalysed : environment.shader.IsAnalysed := by
  change shader.IsAnalysed
  unfold shader
  exact isAnalysed_get _ _

theorem hasOperands :
    HasOperands environment state .opImageSampleProjDrefExplicitLod written values where
  known id hid := by
    have hknown : (written.coordinate ::
        (written.scalars .opImageSampleProjDrefExplicitLod ++ written.vectors)).all (fun id =>
          (environment.operand state id.toNat).toOption.isSome) = true := by decide +kernel
    obtain ⟨o, ho⟩ := Option.isSome_iff_exists.mp (List.all_eq_true.mp hknown id hid)
    refine ⟨o.isConstant, ?_⟩
    rw [values, toOption_eq_some.mp ho]
    rfl
  coordinate_ne_nil _ := by decide +kernel
  coordinate_le := by decide +kernel
  scalar_ne_nil id hid := by
    have hne : (written.scalars .opImageSampleProjDrefExplicitLod).all (fun id =>
        decide (values id ≠ [])) = true := by decide +kernel
    exact of_decide_eq_true (List.all_eq_true.mp hne id hid)
  vector_le := nofun
  component := nofun

/-- The coordinate and the reference divided by 8, and the level. -/
def given : List WordLanes :=
  [.splat 0x3E800000, .splat 0x3F000000, .splat 0x40000000, .splat 0x40400000]

end ProjectedReference

open ProjectedReference in
/-- The coordinate (2, 4, 8), the reference 16 and the level 3 are passed as 1/4, 1/2, 2 and 3. -/
theorem projected_reference_before_level :
    HasOperands environment state .opImageSampleProjDrefExplicitLod written values ∧
    ∃ u, use? environment state instruction = some u ∧
      ((step environment instruction).run state).2.machine.events.head? =
        some (u.call environment (filled given)) := by
  have hfind : environment.shader.module.instructions.find? (·.words = written.words) =
      some instruction := (Option.some_get _).symm
  obtain ⟨site, position, inputs, hsite, -, -, -, -, -, hinputs, asked, -, hevents⟩ :=
    sampling_inputs_in_order isAnalysed (List.mem_of_find?_eq_some hfind) (by decide +kernel)
      (by decide +kernel) isFor hasOperands
  have hgiven : ((SamplingInstruction.ofInstruction environment.declarations instruction
      .opImageSampleProjDrefExplicitLod).bind fun site =>
        environment.samplingInputs state site).toOption = some (filled given) := by decide +kernel
  rw [hsite] at hgiven
  have huse : (use? environment state instruction).isSome = true := by decide +kernel
  obtain ⟨u, hu⟩ := Option.isSome_iff_exists.mp huse
  refine ⟨hasOperands, u, hu, ?_⟩
  rw [hevents, hu, ← Except.ok.inj (hinputs.symm.trans (toOption_eq_some.mp hgiven))]
  rfl

end Execution

end HostGpu
