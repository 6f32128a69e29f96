import HostGpu.Proofs.Descriptor.Record

/-!
# Textures read back

The levels of a texture read back as they were written, but for the scaled sides of levels whose
format is not a floating point one: these keep what they held before (`LevelRecord.ofLevel`).
-/

namespace HostGpu

namespace Cell

/-- The pointers of a list are two cells each. -/
theorem getElem?_flatMap_ofPointer {faces : List (Option Pointer)} {i : Nat} {p : Option Pointer}
    (h : faces[i]? = some p) : ∃ c c', (faces.flatMap ofPointer)[2 * i]? = some c ∧
      (faces.flatMap ofPointer)[2 * i + 1]? = some c' ∧ c.toPointer c' = p := by
  induction faces generalizing i with
  | nil => cases h
  | cons q rest ih =>
    obtain ⟨k, k', hcells, hpointer⟩ := StorageRecord.toPointer_ofPointer q
    rw [List.flatMap_cons, hcells]
    cases i with
    | zero =>
      cases h
      exact ⟨k, k', rfl, rfl, hpointer⟩
    | succ i => exact ih h

end Cell

namespace SetData

variable {d d' : SetData} {o o' : Nat}

theorem words_congr {n : Nat} (h : ∀ j < n, d'.cell (o' / 4 + j) = d.cell (o / 4 + j)) :
    d'.words o' n = d.words o n :=
  List.map_congr_left fun j hj => word_congr (h j (List.mem_range.mp hj))

/-- Words read back as they were written. -/
theorem words_writeWords (d : SetData) (o : Nat) {list : List UInt32} {i n : Nat}
    (h : i + n ≤ list.length) :
    (d.writeWords o list).words (o + 4 * i) n = (list.drop i).take n := by
  refine List.ext_getElem (by simp [words]; omega) fun j hj _ => ?_
  have hlt : j < n := by simpa [words] using hj
  have hcell : (list.map Cell.word)[i + j]? = some (.word list[i + j]) := by
    rw [List.getElem?_map, List.getElem?_eq_getElem (by omega), Option.map_some]
  simp only [words, List.getElem_map, List.getElem_range, List.getElem_take, List.getElem_drop]
  rw [Nat.add_assoc, ← Nat.mul_add]
  exact word_of_cell (cell_write d o hcell)

/-- Pointers read back as they were written. -/
theorem pointers_write (d : SetData) (o : Nat) (faces : List (Option Pointer)) :
    (List.range faces.length).map
      (fun face => (d.write o (faces.flatMap Cell.ofPointer)).pointer (o + 8 * face)) = faces := by
  refine List.ext_getElem (by simp) fun i hi hi' => ?_
  obtain ⟨c, c', hc, hc', hpointer⟩ :=
    Cell.getElem?_flatMap_ofPointer (List.getElem?_eq_getElem hi')
  have hplace : o + 8 * i = o + 4 * (2 * i) := by omega
  rw [List.getElem_map, List.getElem_range, hplace,
    pointer_of_cells (cell_write d o hc) (cell_write d o hc'), hpointer]

end SetData

namespace TextureLevel

/-- The scaled sides of a level. -/
def sides (l : TextureLevel) : List UInt32 :=
  let e := l.geometry.extent
  four (scaledSide e.width) ++ four (scaledSide e.height) ++ four (scaledSide e.depth)

/-- Everything that is written of a level after its faces and its scaled sides. -/
def numbers (l : TextureLevel) : List UInt32 :=
  let g := l.geometry
  let e := g.extent
  let pitch := wordOf g.pitch
  [halfTexel e.width, halfTexel e.width, halfTexel e.height, halfTexel e.height,
      halfTexel e.depth, halfTexel e.depth] ++
    four (wordOf e.width) ++ four (wordOf e.height) ++ four (wordOf e.depth) ++
    [1, pitch, 1, pitch] ++ four pitch ++ four (wordOf g.slice) ++
    four (wordOf g.samplePitch) ++ four (wordOf (g.sampleCount - 1))

variable (l : TextureLevel) (d : SetData) {o : Nat}

/-- The data after the faces, and after the scaled sides as well. -/
def writeFaces (o : Nat) : SetData := d.write o (l.faces.flatMap Cell.ofPointer)

def writeSides (o : Nat) : SetData :=
  if l.geometry.isFloat then (l.writeFaces d o).writeWords (o + 48) l.sides else l.writeFaces d o

theorem write_eq (o : Nat) : l.write d o = (l.writeSides d o).writeWords (o + 96) l.numbers := rfl

/-- The numbers do not touch what is before them. -/
theorem cell_write_sides (h : 4 ∣ o) {j : Nat} (hj : j < 24) :
    (l.write d o).cell (o / 4 + j) = (l.writeSides d o).cell (o / 4 + j) := by
  rw [write_eq]
  exact SetData.writesOnly_write _ (Nat.dvd_add h (by decide)) _ _ (.inl (by omega))

theorem pointer_write (h : 4 ∣ o) (hfaces : l.faces.length = 6) :
    (List.range 6).map (fun face => (l.write d o).pointer (o + 8 * face)) = l.faces := by
  have hcell {j : Nat} (hj : j < 12) :
      (l.write d o).cell (o / 4 + j) = (l.writeFaces d o).cell (o / 4 + j) := by
    rw [cell_write_sides l d h (by omega), writeSides]
    split
    · exact SetData.writesOnly_write _ (Nat.dvd_add h (by decide)) _ _ (.inl (by omega))
    · rfl
  refine Eq.trans (List.map_congr_left fun face hface => ?_)
    (hfaces ▸ SetData.pointers_write d o l.faces)
  have hlt := List.mem_range.mp hface
  have hplace : o + 8 * face = o + 4 * (2 * face) := by omega
  rw [hplace]
  exact SetData.pointer_congr (hcell (by omega)) (hcell (by omega))

theorem words_write_sides (h : 4 ∣ o) (hfaces : l.faces.length = 6) {i : Nat} (hi : i + 4 ≤ 12) :
    (l.write d o).words (o + 48 + 4 * i) 4 =
      if l.geometry.isFloat then (l.sides.drop i).take 4 else d.words (o + 48 + 4 * i) 4 := by
  have hwords : (l.write d o).words (o + 48 + 4 * i) 4 =
      (l.writeSides d o).words (o + 48 + 4 * i) 4 := by
    refine SetData.words_congr fun j hj => ?_
    have hplace : (o + 48 + 4 * i) / 4 + j = o / 4 + (12 + i + j) := by omega
    rw [hplace]
    exact cell_write_sides l d h (by omega)
  rw [hwords, writeSides]
  split
  · exact SetData.words_writeWords _ (o + 48) hi
  · refine SetData.words_congr fun j hj => ?_
    refine SetData.writesOnly_write d h _ _ (.inr ?_)
    rw [length_faces, hfaces]
    omega

theorem words_write_numbers (o : Nat) {i n : Nat} (h : i + n ≤ 38) :
    (l.write d o).words (o + 96 + 4 * i) n = (l.numbers.drop i).take n := by
  rw [write_eq]
  exact SetData.words_writeWords _ (o + 96) h

end TextureLevel

namespace LevelRecord

variable {d d' : SetData} {o o' : Nat}

/-- A level depends on its cells. -/
theorem read_congr (h : ∀ j < 64, d'.cell (o' / 4 + j) = d.cell (o / 4 + j)) :
    read d' o' = read d o := by
  have hwords (i n : Nat) (hle : i + n ≤ 64) : d'.words (o' + 4 * i) n = d.words (o + 4 * i) n :=
    SetData.words_congr fun j hj => by
      rw [Nat.add_mul_div_left _ _ (by decide), Nat.add_mul_div_left _ _ (by decide),
        Nat.add_assoc, Nat.add_assoc]
      exact h _ (by omega)
  rw [read, read]
  congr 1
  · refine List.map_congr_left fun face hface => ?_
    have hlt := List.mem_range.mp hface
    have hplace (o : Nat) : o + 8 * face = o + 4 * (2 * face) := by omega
    rw [hplace, hplace]
    exact SetData.pointer_congr (h _ (by omega)) (h _ (by omega))
  · exact hwords 12 4 (by decide)
  · exact hwords 16 4 (by decide)
  · exact hwords 20 4 (by decide)
  · exact hwords 24 2 (by decide)
  · exact hwords 26 2 (by decide)
  · exact hwords 28 2 (by decide)
  · exact hwords 30 4 (by decide)
  · exact hwords 34 4 (by decide)
  · exact hwords 38 4 (by decide)
  · exact hwords 42 4 (by decide)
  · exact hwords 46 4 (by decide)
  · exact hwords 50 4 (by decide)
  · exact hwords 54 4 (by decide)
  · exact hwords 58 4 (by decide)

open TextureLevel in
/-- What a level reads as after it was written over another one. -/
def ofLevel (l : TextureLevel) (old : LevelRecord) : LevelRecord :=
  let g := l.geometry
  let e := g.extent
  let pitch := wordOf g.pitch
  { faces := l.faces
    floatWidth := if g.isFloat then four (scaledSide e.width) else old.floatWidth
    floatHeight := if g.isFloat then four (scaledSide e.height) else old.floatHeight
    floatDepth := if g.isFloat then four (scaledSide e.depth) else old.floatDepth
    halfU := [halfTexel e.width, halfTexel e.width]
    halfV := [halfTexel e.height, halfTexel e.height]
    halfW := [halfTexel e.depth, halfTexel e.depth]
    width := four (wordOf e.width)
    height := four (wordOf e.height)
    depth := four (wordOf e.depth)
    onePitch := [1, pitch, 1, pitch]
    pitch := four pitch
    slice := four (wordOf g.slice)
    samplePitch := four (wordOf g.samplePitch)
    sampleMax := four (wordOf (g.sampleCount - 1)) }

/-- **A level reads back as it was written.** -/
theorem read_write (l : TextureLevel) (hfaces : l.faces.length = 6) (d : SetData) (h : 4 ∣ o) :
    read (l.write d o) o = ofLevel l (read d o) := by
  have hside (part i : Nat) (hpart : part = 48 + 4 * i) (hi : i + 4 ≤ 12) :
      (l.write d o).words (o + part) 4 =
        if l.geometry.isFloat then (l.sides.drop i).take 4 else d.words (o + part) 4 := by
    rw [hpart, ← Nat.add_assoc]
    exact l.words_write_sides d h hfaces hi
  have hnumber (part i n : Nat) (hpart : part = 96 + 4 * i) (hi : i + n ≤ 38) :
      (l.write d o).words (o + part) n = (l.numbers.drop i).take n := by
    rw [hpart, ← Nat.add_assoc]
    exact l.words_write_numbers d o hi
  rw [read, ofLevel, LevelRecord.mk.injEq]
  refine ⟨l.pointer_write d h hfaces, ?_, ?_, ?_, ?_, ?_, ?_, ?_, ?_, ?_, ?_, ?_, ?_, ?_, ?_⟩
  · exact hside 48 0 rfl (by decide)
  · exact hside 64 4 rfl (by decide)
  · exact hside 80 8 rfl (by decide)
  · exact hnumber 96 0 2 rfl (by decide)
  · exact hnumber 104 2 2 rfl (by decide)
  · exact hnumber 112 4 2 rfl (by decide)
  · exact hnumber 120 6 4 rfl (by decide)
  · exact hnumber 136 10 4 rfl (by decide)
  · exact hnumber 152 14 4 rfl (by decide)
  · exact hnumber 168 18 4 rfl (by decide)
  · exact hnumber 184 22 4 rfl (by decide)
  · exact hnumber 200 26 4 rfl (by decide)
  · exact hnumber 216 30 4 rfl (by decide)
  · exact hnumber 232 34 4 rfl (by decide)

end LevelRecord

namespace SampledRecord

variable {d d' : SetData} {o o' : Nat}

theorem place_level (o level j : Nat) :
    (o + TextureLevel.bytes * level) / 4 + j = o / 4 + (64 * level + j) := by
  rw [TextureLevel.bytes]
  omega

/-- A level depends on its cells. -/
theorem readLevel_congr {level : Nat}
    (h : ∀ j < 64, d'.cell (o' / 4 + (64 * level + j)) = d.cell (o / 4 + (64 * level + j))) :
    readLevel d' o' level = readLevel d o level := by
  refine LevelRecord.read_congr fun j hj => ?_
  rw [place_level, place_level]
  exact h j hj

theorem faces_readLevel (d : SetData) (o level : Nat) : (readLevel d o level).faces =
    (List.range 6).map fun face => d.pointer (o + 4 * (64 * level + 2 * face)) := by
  have hplace (face : Nat) : o + TextureLevel.bytes * level + 8 * face =
      o + 4 * (64 * level + 2 * face) := by
    rw [TextureLevel.bytes]
    omega
  simp only [← hplace]
  rfl

/-- Levels read back as they were written. -/
theorem readLevel_writeLevels {levels : List TextureLevel}
    (hfaces : ∀ l ∈ levels, l.faces.length = 6) (d : SetData) (h : 4 ∣ o) (index : Nat)
    {level : Nat} {l : TextureLevel} (hl : levels[level]? = some l) :
    readLevel (writeLevels d o index levels) o (index + level) =
      .ofLevel l (readLevel d o (index + level)) := by
  induction levels generalizing d index level with
  | nil => cases hl
  | cons first rest ih =>
    rw [List.forall_mem_cons] at hfaces
    have hbytes : TextureLevel.bytes = 256 := rfl
    have hplace : 4 ∣ o + TextureLevel.bytes * index :=
      Nat.dvd_add h (Nat.dvd_mul_right_of_dvd (by decide) _)
    rw [writeLevels]
    cases level with
    | zero =>
      -- later levels leave the first one alone
      cases hl
      have hlater := writesOnly_writeLevels (l.write d (o + TextureLevel.bytes * index)) h
        (index + 1) fun k hk => Nat.le_of_eq (hfaces.2 k hk)
      refine (readLevel_congr fun j hj => hlater _ (.inl ?_)).trans
        (LevelRecord.read_write l hfaces.1 d hplace)
      rw [hbytes]
      omega
    | succ level =>
      -- and the first one leaves later ones alone
      rw [List.getElem?_cons_succ] at hl
      have hrest := ih hfaces.2 (first.write d (o + TextureLevel.bytes * index)) (index + 1) hl
      rw [Nat.add_assoc index, Nat.add_comm 1] at hrest
      rw [hrest]
      refine congrArg (LevelRecord.ofLevel l) (readLevel_congr fun j hj => ?_)
      refine first.writesOnly_write d hplace (Nat.le_of_eq hfaces.1) _ (.inr ?_)
      rw [hbytes]
      omega

/-- Contents that fill all faces of all levels of a record. -/
structure Contents.Full (c : Contents) : Prop where
  levels : c.levels.length = maxLevels
  faces : ∀ l ∈ c.levels, l.faces.length = 6

theorem Contents.Full.fits {c : Contents} (h : c.Full) : c.Fits :=
  ⟨Nat.le_of_eq h.levels, fun l hl => Nat.le_of_eq (h.faces l hl)⟩

theorem full_ofView (v : ImageView) : (ofView v).Full := by
  refine ⟨by simp [ofView], ?_⟩
  intro l hl
  obtain ⟨index, -, rfl⟩ := List.mem_map.mp hl
  simp [levelOfView]

theorem full_ofBufferView (v : BufferView) : (ofBufferView v).Full := by
  refine ⟨by simp [ofBufferView], ?_⟩
  intro l hl
  rw [List.eq_of_mem_replicate hl]
  rfl

/-- **The levels of a view read back as they were written.** -/
theorem readLevel_writeView (id : Nat) {c : Contents} (hc : c.Full) (d : SetData) (h : 4 ∣ o)
    {level : Nat} {l : TextureLevel} (hl : c.levels[level]? = some l) :
    readLevel (writeView id c d o) o level = .ofLevel l (readLevel d o level) := by
  have hlt : level < maxLevels := hc.levels ▸ (List.getElem?_eq_some_iff.mp hl).1
  have hmax : maxLevels = 15 := rfl
  have hlod : lodOffset = 3840 := rfl
  -- the other parts of the record come after the levels
  have hother (d' : SetData) {part : Nat} (hpart : 4 ∣ part) (hle : lodOffset ≤ part)
      (words : List UInt32) :
      readLevel (d'.writeWords (o + part) words) o level = readLevel d' o level :=
    readLevel_congr fun j hj =>
      SetData.writesOnly_write d' (Nat.dvd_add h hpart) _ _ (.inl (by omega))
  have hlevels := readLevel_writeLevels hc.faces (d.writeWords (o + viewOffset) [wordOf id]) h 0 hl
  rw [Nat.zero_add] at hlevels
  rw [writeView, hother _ (by decide) (by decide), hother _ (by decide) (by decide), hlevels,
    hother _ (by decide) (by decide)]

theorem readLevel_writeSampler (x : Sampler) (d : SetData) (h : 4 ∣ o) {level : Nat}
    (hlevel : level < maxLevels) :
    readLevel (writeSampler x d o) o level = readLevel d o level := by
  have hmax : maxLevels = 15 := rfl
  exact readLevel_congr fun j hj => cell_writeSampler x d h (.inl (by omega))

/-- After a view is written, the faces of a record are faces of its levels. -/
theorem mem_faces_writeView (id : Nat) {c : Contents} (hc : c.Full) (d : SetData) (h : 4 ∣ o)
    {level : Nat} (hlevel : level < maxLevels) {p : Pointer}
    (hp : some p ∈ (readLevel (writeView id c d o) o level).faces) :
    ∃ l ∈ c.levels, some p ∈ l.faces := by
  have hl := List.getElem?_eq_getElem (hc.levels ▸ hlevel : level < c.levels.length)
  rw [readLevel_writeView id hc d h hl] at hp
  exact ⟨_, List.mem_of_getElem? hl, hp⟩

end SampledRecord

end HostGpu
