import HostGpu.Proofs.Number.Word
import HostGpu.Proofs.Shader.Analysis
import HostGpu.Shader.Composite

/-!
# Where the parts of composites are

A type consists of parts, which are laid out one after the other: where types are declared once, the
number of its components is the sum of those of its parts (`exists_counts`).  So an index leads to as
many components from the start as the parts before it have together (`walkStep_literal`), the parts
along a path lie within the type, and two paths, neither of which goes on where the other ends, lead
to components that have none in common (`Placed.disjoint`).  Walking from another offset moves
everything that it leads to (`walk_moved`), so that indices may be followed in two walks.
-/

namespace HostGpu.Shader

open Outcome Spirv

/-! ## Offsets in lanes -/

section

variable (u v w : WordLanes)

theorem add_splat_zero : v.add (.splat 0) = v :=
  Lanes.ext_get fun l => by rw [Lanes.add, Lanes.get_zipWith, Lanes.get_splat, UInt32.add_zero]

theorem splat_zero_add : (Lanes.splat 0 : WordLanes).add v = v :=
  Lanes.ext_get fun l => by rw [Lanes.add, Lanes.get_zipWith, Lanes.get_splat, UInt32.zero_add]

theorem add_assoc_lanes : (u.add v).add w = u.add (v.add w) :=
  Lanes.ext_get fun l => by simp only [Lanes.add, Lanes.get_zipWith, UInt32.add_assoc]

end

theorem splat_add_splat (m n : Nat) : (Lanes.splat (UInt32.ofNat m) : WordLanes).add
    (.splat (UInt32.ofNat n)) = .splat (UInt32.ofNat (m + n)) := by
  rw [UInt32.ofNat_add]
  rfl

theorem splat_mul_splat (k : UInt32) (n : Nat) : (Lanes.splat k : WordLanes).mul
    (.splat (UInt32.ofNat n)) = .splat (UInt32.ofNat (k.toNat * n)) := by
  rw [UInt32.ofNat_mul, UInt32.ofNat_toNat]
  rfl

/-! ## Sums of counts -/

section

variable {counts : List Nat} {j k count : Nat}

theorem sum_take_succ (h : counts[k]? = some count) :
    (counts.take (k + 1)).sum = (counts.take k).sum + count := by
  rw [List.take_add_one, h, Option.toList_some, List.sum_append, List.sum_singleton]

theorem sum_take_le_of_le (h : j ≤ k) : (counts.take j).sum ≤ (counts.take k).sum := by
  obtain ⟨d, rfl⟩ := Nat.exists_eq_add_of_le h
  rw [List.take_add, List.sum_append]
  exact Nat.le_add_right _ _

/-- What one has of a row ends before what another one further on has starts. -/
theorem sum_take_add_le_of_lt (h : counts[j]? = some count) (hlt : j < k) :
    (counts.take j).sum + count ≤ (counts.take k).sum := by
  rw [← sum_take_succ h]
  exact sum_take_le_of_le hlt

theorem sum_take_add_le_sum (h : counts[k]? = some count) :
    (counts.take k).sum + count ≤ counts.sum := by
  have hle := sum_take_add_le_of_lt h (List.getElem?_eq_some_iff.mp h).1
  rwa [List.take_length] at hle

end

/-! ## Walking from another offset -/

variable {s : Shader}

/-- The part at an offset from where it is. -/
def Part.moved (p : Part) (a : WordLanes) : Part := ⟨p.type, a.add p.offset⟩

theorem pastMembers_add (d : Declarations) (a b : WordLanes) (ids : List UInt32) :
    pastMembers d (a.add b) ids = a.add <$> pastMembers d b ids := by
  induction ids generalizing b with
  | nil => rfl
  | cons id rest ih =>
    rw [pastMembers, pastMembers]
    cases d.componentCount id.toNat with
    | error fault => rfl
    | ok count =>
      rw [ok_bind, ok_bind, add_assoc_lanes]
      exact ih _

theorem walkStep_moved (p : Part) (a : WordLanes) (index : ChainIndex) :
    s.walkStep (p.moved a) index = (·.moved a) <$> s.walkStep p index := by
  simp only [walkStep, Part.moved]
  cases s.declarations.type p.type with
  | error fault => rfl
  | ok type =>
    rw [ok_bind, ok_bind]
    split
    case h_1 =>
      cases index.member with
      | error fault => rfl
      | ok member =>
        rw [ok_bind, ok_bind]
        cases s.definition type.offset with
        | error fault => rfl
        | ok i =>
          rw [ok_bind, ok_bind, pastMembers_add]
          cases pastMembers s.declarations p.offset ((i.words.drop 2).take member) with
          | error fault => rfl
          | ok offset => simp only [map_eq_pure_bind, ok_bind, bind_assoc, pure_bind]
    case h_6 => rfl
    all_goals
      cases s.declarations.componentCount type.elementId with
      | error fault => rfl
      | ok count =>
        exact congrArg (fun o => Except.ok (Part.mk type.elementId o)) (add_assoc_lanes _ _ _)

/-- **A walk from another offset** leads to what is as far from there. -/
theorem walk_moved (p : Part) (a : WordLanes) (indices : List ChainIndex) :
    s.walk (p.moved a) indices = (·.moved a) <$> s.walk p indices := by
  induction indices generalizing p with
  | nil => rfl
  | cons index rest ih =>
    rw [walk, walk, walkStep_moved]
    cases s.walkStep p index with
    | error fault => rfl
    | ok q => exact ih q

/-- Indices may be followed in two walks. -/
theorem walk_append (p : Part) (first second : List ChainIndex) :
    s.walk p (first ++ second) = s.walk p first >>= (s.walk · second) := by
  induction first generalizing p with
  | nil => rfl
  | cons index rest ih =>
    rw [List.cons_append, walk, walk, bind_assoc]
    exact bind_congr fun q => ih q

/-! ## Parts of types -/

/-- What is known before the instruction at an offset. -/
def knownBefore (s : Shader) (offset : Nat) : Except Fault Analysis :=
  analysed (s.module.instructions.takeWhile (·.offset ≠ offset))

/-- The types of the parts that a type consists of, in order. The length of an array is the value
that its constant has where the array is declared. -/
def parts (s : Shader) (id : Nat) : Except Fault (List Nat) := do
  let type ← s.declarations.type id
  let i ← s.definition type.offset
  match type.op with
  | .opTypeStruct => return (i.words.drop 2).map (·.toNat)
  | .opTypeVector | .opTypeMatrix => return List.replicate (← i.id 3) type.elementId
  | .opTypeArray =>
    let known ← s.knownBefore type.offset
    let length ← known.declarations.scalar (← i.id 3)
    return List.replicate length.toNat type.elementId
  | op => throw (.notIndexable op)

/-- A path of indices, each of which is the number of a part, leads from a type to another one. -/
inductive Reaches (s : Shader) : Nat → List UInt32 → Nat → Prop
  | here (T : Nat) : Reaches s T [] T
  | into {T M S : Nat} {k : UInt32} {path : List UInt32} {list : List Nat}
      (hparts : s.parts T = .ok list) (hM : list[k.toNat]? = some M) (hrest : Reaches s M path S) :
      Reaches s T (k :: path) S

/-- A type along a path has some components of the type that the path starts from. -/
structure Occupies (s : Shader) (T : Nat) (path : List UInt32) (S start count : Nat) : Prop where
  /-- The path leads there. -/
  walk_eq : s.walk ⟨T, .splat 0⟩ (path.map .literal) = .ok ⟨S, .splat (UInt32.ofNat start)⟩
  count_eq : s.declarations.componentCount S = .ok count
  /-- They are among those of the whole type. -/
  within : ∃ total, s.declarations.componentCount T = .ok total ∧ start + count ≤ total

/-! ### Component counts -/

/-- The component counts of types. -/
def Counted (d : Declarations) : List Nat → List Nat → Prop :=
  List.Forall₂ fun id count => d.componentCount id = .ok count

theorem componentCount_eq_ok {d : Declarations} {id count : Nat} :
    d.componentCount id = .ok count ↔ ∃ type, d.types[id]? = some type ∧
      type.componentCount = count := by
  simp only [Declarations.componentCount, bind_eq_ok, pure_eq_ok, Declarations.type]
  cases d.types[id]? <;> simp

theorem Declarations.type_eq_ok {d : Declarations} {id : Nat} {type : TypeInfo} :
    d.type id = .ok type ↔ d.types[id]? = some type := by
  rw [Declarations.type]
  cases d.types[id]? <;> simp

/-- Adding component counts. -/
theorem counted_of_addCounts {d : Declarations} {total count : Nat} {ids : List UInt32}
    (h : d.addCounts total ids = .ok count) :
    ∃ counts, Counted d (ids.map (·.toNat)) counts ∧ total + counts.sum = count := by
  induction ids generalizing total with
  | nil =>
    cases h
    exact ⟨[], .nil, rfl⟩
  | cons id rest ih =>
    simp only [Declarations.addCounts, bind_eq_ok, checkedCount_eq_ok] at h
    obtain ⟨first, hfirst, _, ⟨rfl, -⟩, h⟩ := h
    obtain ⟨counts, hcounts, hsum⟩ := ih h
    refine ⟨first :: counts, .cons hfirst hcounts, ?_⟩
    rw [List.sum_cons, ← Nat.add_assoc, hsum]

theorem counted_replicate {d : Declarations} {id count : Nat} (h : d.componentCount id = .ok count)
    (n : Nat) : Counted d (List.replicate n id) (List.replicate n count) := by
  rw [Counted, List.forall₂_iff_get]
  refine ⟨by rw [List.length_replicate, List.length_replicate], fun k _ _ => ?_⟩
  simpa using h

theorem Counted.getElem? {d : Declarations} {ids counts : List Nat} (h : Counted d ids counts)
    {k id : Nat} (hk : ids[k]? = some id) :
    ∃ count, counts[k]? = some count ∧ d.componentCount id = .ok count := by
  obtain ⟨hbound, rfl⟩ := List.getElem?_eq_some_iff.mp hk
  have hbound' : k < counts.length := h.length_eq ▸ hbound
  exact ⟨counts[k], List.getElem?_eq_getElem hbound', h.get hbound hbound'⟩

theorem Counted.unique {d : Declarations} {ids counts counts' : List Nat} (h : Counted d ids counts)
    (h' : Counted d ids counts') : counts = counts' := by
  induction h generalizing counts' with
  | nil => cases h'; rfl
  | cons hcount _ ih =>
    cases h' with
    | cons hcount' hrest =>
      rw [Except.ok.inj (hcount.symm.trans hcount'), ih hrest]

/-- Moving past members adds their counts. -/
theorem pastMembers_of_counted {d : Declarations} {members : List UInt32} {counts : List Nat}
    (h : Counted d (members.map (·.toNat)) counts) (offset : WordLanes) :
    pastMembers d offset members = .ok (offset.add (.splat (UInt32.ofNat counts.sum))) := by
  induction members generalizing offset counts with
  | nil =>
    cases h
    exact congrArg Except.ok (add_splat_zero offset).symm
  | cons id rest ih =>
    obtain _ | ⟨hcount, hrest⟩ := h
    rw [pastMembers, hcount, ok_bind, ih hrest, add_assoc_lanes, splat_add_splat, List.sum_cons]

/-- In a row of parts of one type all parts have one count. -/
theorem Counted.sum_take_replicate {d : Declarations} {counts : List Nat} {id k n : Nat}
    (h : Counted d (List.replicate n id) counts) (hk : k < n) :
    ∃ count, d.componentCount id = .ok count ∧ (counts.take k).sum = k * count := by
  have hid : (List.replicate n id)[k]? = some id := List.getElem?_replicate_of_lt hk
  obtain ⟨count, -, hcount⟩ := h.getElem? hid
  refine ⟨count, hcount, ?_⟩
  rw [h.unique (counted_replicate hcount n), List.take_replicate, Nat.min_eq_left hk.le,
    List.sum_replicate_nat]

/-! ### Literal indices -/

section

variable {T M S : Nat} {k : UInt32} {type : TypeInfo} {i : Instruction} {list counts : List Nat}
  (htype : s.declarations.type T = .ok type)
include htype

theorem walkStep_element {count : Nat}
    (hop : type.op = .opTypeVector ∨ type.op = .opTypeMatrix ∨ type.op = .opTypeArray)
    (hcount : s.declarations.componentCount type.elementId = .ok count) (offset : WordLanes) :
    s.walkStep ⟨T, offset⟩ (.literal k) =
      .ok ⟨type.elementId, offset.add (.splat (UInt32.ofNat (k.toNat * count)))⟩ := by
  rw [← splat_mul_splat]
  rcases hop with hop | hop | hop <;> simp only [walkStep, htype, ok_bind, hop, hcount] <;> rfl

theorem walkStep_member (hop : type.op = .opTypeStruct) (hi : s.definition type.offset = .ok i)
    (hcounts : Counted s.declarations ((i.words.drop 2).map (·.toNat)) counts)
    (hM : ((i.words.drop 2).map (·.toNat))[k.toNat]? = some M) (offset : WordLanes) :
    s.walkStep ⟨T, offset⟩ (.literal k) =
      .ok ⟨M, offset.add (.splat (UInt32.ofNat (counts.take k.toNat).sum))⟩ := by
  have hlength := length_lt_of_fetch hi
  rw [List.getElem?_map, Option.map_eq_some_iff] at hM
  obtain ⟨member, hmember, rfl⟩ := hM
  have hbound := (List.getElem?_eq_some_iff.mp hmember).1
  have hk := hbound
  rw [List.length_drop] at hk
  have hindex : (ChainIndex.literal k).member = .ok k.toNat := if_pos (by omega)
  have hpast := List.forall₂_take k.toNat hcounts
  rw [← List.map_take] at hpast
  have hid : i.id (2 + k.toNat) = .ok member.toNat := by
    rw [List.getElem?_drop] at hmember
    rw [Instruction.id, Instruction.word, hmember]
    rfl
  simp only [walkStep, htype, ok_bind, hop, hindex, hi, pastMembers_of_counted hpast,
    Nat.min_eq_left hbound.le, hid]
  rfl

end

/-- **An index that is the number of a part** leads past the parts before it. -/
theorem walkStep_literal {T M : Nat} {k : UInt32} {list counts : List Nat}
    (hparts : s.parts T = .ok list) (hcounts : Counted s.declarations list counts)
    (hM : list[k.toNat]? = some M) (offset : WordLanes) :
    s.walkStep ⟨T, offset⟩ (.literal k) =
      .ok ⟨M, offset.add (.splat (UInt32.ofNat (counts.take k.toNat).sum))⟩ := by
  simp only [parts, bind_eq_ok] at hparts
  obtain ⟨type, htype, i, hi, hparts⟩ := hparts
  have hrow {n : Nat} (hlist : List.replicate n type.elementId = list)
      (hop : type.op = .opTypeVector ∨ type.op = .opTypeMatrix ∨ type.op = .opTypeArray) :
      s.walkStep ⟨T, offset⟩ (.literal k) =
        .ok ⟨M, offset.add (.splat (UInt32.ofNat (counts.take k.toNat).sum))⟩ := by
    subst hlist
    obtain ⟨hbound, rfl⟩ := List.getElem?_eq_some_iff.mp hM
    rw [List.length_replicate] at hbound
    obtain ⟨count, hcount, hsum⟩ := hcounts.sum_take_replicate hbound
    rw [walkStep_element htype hop hcount, hsum, List.getElem_replicate]
  split at hparts
  case h_1 hop =>
    rw [pure_eq_ok] at hparts
    subst hparts
    exact walkStep_member htype hop hi hcounts hM offset
  case h_2 hop | h_3 hop =>
    simp only [bind_eq_ok, pure_eq_ok] at hparts
    obtain ⟨n, -, hlist⟩ := hparts
    exact hrow hlist (by simp [hop])
  case h_4 hop =>
    simp only [bind_eq_ok, pure_eq_ok] at hparts
    obtain ⟨known, -, _, -, n, -, hlist⟩ := hparts
    exact hrow hlist (by simp [hop])
  case h_5 => cases hparts

/-! ### Paths -/

/-- A type along a path, by the number of components before it. -/
inductive Placed (s : Shader) : Nat → List UInt32 → Nat → Nat → Prop
  | here (T : Nat) : Placed s T [] T 0
  | into {T M S start : Nat} {k : UInt32} {path : List UInt32} {list counts : List Nat}
      (hparts : s.parts T = .ok list) (hcounts : Counted s.declarations list counts)
      (hM : list[k.toNat]? = some M) (hrest : Placed s M path S start) :
      Placed s T (k :: path) S ((counts.take k.toNat).sum + start)

/-- **A walk along a path** leads past what is before its end. -/
theorem Placed.walk_eq {T S start : Nat} {path : List UInt32} (h : s.Placed T path S start)
    (offset : WordLanes) : s.walk ⟨T, offset⟩ (path.map .literal) =
      .ok ⟨S, offset.add (.splat (UInt32.ofNat start))⟩ := by
  induction h generalizing offset with
  | here T => exact congrArg (fun o => Except.ok (Part.mk T o)) (add_splat_zero offset).symm
  | into hparts hcounts hM _ ih =>
    rw [List.map_cons, walk, walkStep_literal hparts hcounts hM, ok_bind, ih, add_assoc_lanes,
      splat_add_splat]

/-- The number of components of a type is a word. -/
theorem IsAnalysed.componentCount_lt {id count : Nat} (hs : s.IsAnalysed)
    (hcount : s.declarations.componentCount id = .ok count) : count < 2 ^ 32 := by
  obtain ⟨words, -, hmodule⟩ := hs
  obtain ⟨-, -, a, ha, hdeclarations, -⟩ := ofModule_eq_ok hmodule
  obtain ⟨type, htype, rfl⟩ := componentCount_eq_ok.mp hcount
  obtain ⟨_, _, _, _, -, -, hdeclares⟩ := declared_of_analysed ha (hdeclarations ▸ htype)
  exact hdeclares.small

/-! ### Types that are declared once -/

section

variable (hs : s.IsAnalysed) (honce : DeclareOnce s.module.instructions)
include hs honce

/-- A type was measured where it is declared, with types that are still the same. -/
theorem exists_declares {id : Nat} {type : TypeInfo} (htype : s.declarations.types[id]? = some type) :
    ∃ i known, s.definition type.offset = .ok i ∧ s.knownBefore type.offset = .ok known ∧
      known.declarations.Declares i id type ∧ ∀ (id : Nat) (type : TypeInfo),
        known.declarations.types[id]? = some type → s.declarations.types[id]? = some type := by
  obtain ⟨words, hm, hmodule⟩ := hs
  obtain ⟨-, -, a, ha, hdeclarations, -⟩ := ofModule_eq_ok hmodule
  rw [hdeclarations] at htype ⊢
  obtain ⟨before, i, after, known, hlist, hknown, hdeclares⟩ := declared_of_analysed ha htype
  have hbefore : s.module.instructions.takeWhile (·.offset ≠ type.offset) = before := by
    have hnodup := nodup_offsets hm
    rw [hlist, List.map_append, List.map_cons, List.nodup_append] at hnodup
    rw [hlist, hdeclares.offset, List.takeWhile_append_of_pos, List.takeWhile_cons_of_neg]
    · exact List.append_nil _
    · simp
    · intro j hj
      have hne := hnodup.2.2 _ (List.mem_map_of_mem hj) _ List.mem_cons_self
      simpa using hne
  refine ⟨i, known, ?_, by rw [knownBefore, hbefore, hknown], hdeclares, fun id type h => ?_⟩
  · rw [Shader.definition, hdeclares.offset]
    exact fetch_of_mem hm (hlist ▸ List.mem_append_right _ List.mem_cons_self)
  · rw [hlist] at honce ha
    exact type_of_analysed honce hknown ha h

/-- **A type has the components of its parts.** -/
theorem exists_counts {T total : Nat} {list : List Nat} (hparts : s.parts T = .ok list)
    (htotal : s.declarations.componentCount T = .ok total) :
    ∃ counts, Counted s.declarations list counts ∧ counts.sum = total := by
  obtain ⟨type, htype, rfl⟩ := componentCount_eq_ok.mp htotal
  obtain ⟨i, known, hi, hknown, hdeclares, hkept⟩ := exists_declares hs honce htype
  have hcount {id count : Nat} (h : known.declarations.componentCount id = .ok count) :
      s.declarations.componentCount id = .ok count := by
    obtain ⟨type, htype, rfl⟩ := componentCount_eq_ok.mp h
    exact componentCount_eq_ok.mpr ⟨type, hkept id type htype, rfl⟩
  simp only [parts, Declarations.type_eq_ok.mpr htype, hi, hknown, ok_bind] at hparts
  obtain ⟨op, offset, total, element⟩ := type
  dsimp only at hparts ⊢
  cases hdeclares.measures with
  | @row _ length element count hop hlength helement hmeasured =>
    have hlist : list = List.replicate length element := by
      rcases hop with rfl | rfl <;> simp only [hlength, ok_bind, pure_eq_ok] at hparts <;>
        exact hparts.symm
    rw [hlist]
    exact ⟨_, counted_replicate (hcount hmeasured) length, List.sum_replicate_nat⟩
  | @array constant element count length hconstant hlength helement hmeasured =>
    simp only [hconstant, hlength, ok_bind, pure_eq_ok] at hparts
    rw [← hparts]
    exact ⟨_, counted_replicate (hcount hmeasured) length.toNat, List.sum_replicate_nat⟩
  | struct hmeasured =>
    obtain ⟨counts, hcounts, hsum⟩ := counted_of_addCounts hmeasured
    rw [pure_eq_ok] at hparts
    refine ⟨counts, ?_, (Nat.zero_add _).symm.trans hsum⟩
    rw [← hparts]
    exact hcounts.imp fun _ _ => hcount
  | plain hop =>
    -- these operations have no parts
    split at hparts
    case h_1 | h_2 | h_3 | h_4 => simp at hop
    case h_5 => cases hparts

/-- A path leads to a part of the type. -/
theorem Placed.within {T S start total : Nat} {path : List UInt32} (h : s.Placed T path S start)
    (htotal : s.declarations.componentCount T = .ok total) :
    ∃ count, s.declarations.componentCount S = .ok count ∧ start + count ≤ total := by
  induction h generalizing total with
  | here T => exact ⟨total, htotal, (Nat.zero_add total).le⟩
  | into hparts hcounts hM _ ih =>
    obtain ⟨counts', hcounts', rfl⟩ := exists_counts hs honce hparts htotal
    obtain rfl := hcounts.unique hcounts'
    obtain ⟨part, hpart, hM⟩ := hcounts.getElem? hM
    obtain ⟨count, hcount, hle⟩ := ih hM
    have hsum := sum_take_add_le_sum hpart
    exact ⟨count, hcount, by omega⟩

theorem exists_placed {T S total : Nat} {path : List UInt32} (h : s.Reaches T path S)
    (htotal : s.declarations.componentCount T = .ok total) : ∃ start, s.Placed T path S start := by
  induction h generalizing total with
  | here T => exact ⟨0, .here T⟩
  | into hparts hM _ ih =>
    obtain ⟨counts, hcounts, -⟩ := exists_counts hs honce hparts htotal
    obtain ⟨part, -, hpart⟩ := hcounts.getElem? hM
    obtain ⟨start, hstart⟩ := ih hpart
    exact ⟨_, .into hparts hcounts hM hstart⟩

/-- **Two paths,** neither of which goes on where the other ends, lead to parts that have no
component in common. -/
theorem Placed.disjoint {T S S' start start' total count count' : Nat} {path path' : List UInt32}
    (h : s.Placed T path S start) (h' : s.Placed T path' S' start')
    (htotal : s.declarations.componentCount T = .ok total)
    (hcount : s.declarations.componentCount S = .ok count)
    (hcount' : s.declarations.componentCount S' = .ok count')
    (hne : ¬ path <+: path') (hne' : ¬ path' <+: path) :
    start + count ≤ start' ∨ start' + count' ≤ start := by
  induction h generalizing path' S' start' total with
  | here T => exact absurd List.nil_prefix hne
  | @into T M S start k path list counts hparts hcounts hM hrest ih =>
    cases h' with
    | here => exact absurd List.nil_prefix hne'
    | @into _ M' _ start' k' path' list' counts' hparts' hcounts' hM' hrest' =>
      obtain rfl := Except.ok.inj (hparts.symm.trans hparts')
      obtain rfl := hcounts.unique hcounts'
      obtain ⟨part, hpart, htotalM⟩ := hcounts.getElem? hM
      obtain ⟨part', hpart', htotalM'⟩ := hcounts.getElem? hM'
      obtain ⟨_, hcount₁, hle⟩ := hrest.within hs honce htotalM
      obtain ⟨_, hcount₁', hle'⟩ := hrest'.within hs honce htotalM'
      obtain rfl := Except.ok.inj (hcount.symm.trans hcount₁)
      obtain rfl := Except.ok.inj (hcount'.symm.trans hcount₁')
      rcases Nat.lt_trichotomy k.toNat k'.toNat with hlt | heq | hgt
      · have hbefore := sum_take_add_le_of_lt hpart hlt
        exact .inl (by omega)
      · -- one part: the paths differ further on
        obtain rfl := UInt32.toNat_inj.mp heq
        obtain rfl := Option.some.inj (hM.symm.trans hM')
        rw [List.cons_prefix_cons, not_and] at hne hne'
        have hinner := ih hrest' htotalM hcount hcount' (hne rfl) (hne' rfl)
        omega
      · have hbefore := sum_take_add_le_of_lt hpart' hgt
        exact .inr (by omega)

variable {T S start count total : Nat} {path : List UInt32}
  (htotal : s.declarations.componentCount T = .ok total)
include htotal

/-- **Every path into a type leads to some of its components.** -/
theorem exists_occupies (h : s.Reaches T path S) : ∃ start count, s.Occupies T path S start count := by
  obtain ⟨start, hstart⟩ := exists_placed hs honce h htotal
  obtain ⟨count, hcount, hle⟩ := hstart.within hs honce htotal
  refine ⟨start, count, ?_, hcount, total, htotal, hle⟩
  rw [hstart.walk_eq, splat_zero_add]

/-- Where a walk leads to says how many components are before. -/
theorem Occupies.placed (h : s.Occupies T path S start count) (hreaches : s.Reaches T path S)
    (hsmall : total < 2 ^ 32) : s.Placed T path S start := by
  obtain ⟨start', hstart'⟩ := exists_placed hs honce hreaches htotal
  obtain ⟨count', hcount', hle'⟩ := hstart'.within hs honce htotal
  obtain ⟨total', htotal', hle⟩ := h.within
  obtain rfl := Except.ok.inj (htotal.symm.trans htotal')
  have hwalk := h.walk_eq.symm.trans (hstart'.walk_eq (.splat 0))
  rw [splat_zero_add, Except.ok.injEq, Part.mk.injEq] at hwalk
  have hword : UInt32.ofNat start = UInt32.ofNat start' := congrArg Lanes.lane0 hwalk.2
  have hstart := congrArg UInt32.toNat hword
  rw [Word.ofNat_toNat_of_lt (by omega), Word.ofNat_toNat_of_lt (by omega)] at hstart
  exact hstart ▸ hstart'

end

end HostGpu.Shader
