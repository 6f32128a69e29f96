/-!
# Groups of four lanes

A shader runs on four lanes at once. `Lanes α` holds one value for each; `get` reads a lane and
`ofFn` builds a group from a function of the lane. Every lane-wise operation is `map` or `zipWith`,
and the lemmas on `get` say that a lane of the result depends on the same lane of the operands only.
-/

namespace HostGpu

-- Zero means the same whether or not algebra is in scope.
attribute [local instance (high)] Zero.ofOfNat0

/-- The number of a lane in its group. -/
abbrev Lane := Fin 4

/-- There are lanes, so that numerals are lanes. -/
instance Lane.neZero_four : NeZero 4 := ⟨by decide⟩

/-- The lanes in ascending order. -/
def Lane.all : List Lane := [0, 1, 2, 3]

theorem Lane.mem_all (l : Lane) : l ∈ Lane.all := by
  revert l
  decide

universe u v w

/-- One value in each of the four lanes. -/
@[ext] structure Lanes (α : Type u) where
  lane0 : α
  lane1 : α
  lane2 : α
  lane3 : α
deriving DecidableEq, Repr

namespace Lanes

variable {α : Type u} {β : Type v} {γ : Type w}

/-- The value in a lane. -/
def get (v : Lanes α) : Lane → α
  | 0 => v.lane0
  | 1 => v.lane1
  | 2 => v.lane2
  | 3 => v.lane3

/-- The group with `f l` in lane `l`. -/
def ofFn (f : Lane → α) : Lanes α := ⟨f 0, f 1, f 2, f 3⟩

/-- The same value in all lanes. -/
def splat (a : α) : Lanes α := ⟨a, a, a, a⟩

def map (f : α → β) (v : Lanes α) : Lanes β :=
  ⟨f v.lane0, f v.lane1, f v.lane2, f v.lane3⟩

def zipWith (f : α → β → γ) (v : Lanes α) (w : Lanes β) : Lanes γ :=
  ⟨f v.lane0 w.lane0, f v.lane1 w.lane1, f v.lane2 w.lane2, f v.lane3 w.lane3⟩

/-- The group with another value in one lane. -/
def set (v : Lanes α) (l : Lane) (a : α) : Lanes α :=
  ofFn fun i => if i = l then a else v.get i

def toList (v : Lanes α) : List α := [v.lane0, v.lane1, v.lane2, v.lane3]

/-- Four values in lane order. -/
def ofList? : List α → Option (Lanes α)
  | [a, b, c, d] => some ⟨a, b, c, d⟩
  | _ => none

@[simp] theorem get_ofFn (f : Lane → α) (l : Lane) : (ofFn f).get l = f l := by
  match l with
  | 0 => rfl
  | 1 => rfl
  | 2 => rfl
  | 3 => rfl

theorem ext_get {v w : Lanes α} (h : ∀ l, v.get l = w.get l) : v = w :=
  Lanes.ext (h 0) (h 1) (h 2) (h 3)

@[simp] theorem get_splat (a : α) (l : Lane) : (splat a).get l = a := by
  match l with
  | 0 => rfl
  | 1 => rfl
  | 2 => rfl
  | 3 => rfl

@[simp] theorem get_map (f : α → β) (v : Lanes α) (l : Lane) : (v.map f).get l = f (v.get l) := by
  match l with
  | 0 => rfl
  | 1 => rfl
  | 2 => rfl
  | 3 => rfl

@[simp] theorem get_zipWith (f : α → β → γ) (v : Lanes α) (w : Lanes β) (l : Lane) :
    (v.zipWith f w).get l = f (v.get l) (w.get l) := by
  match l with
  | 0 => rfl
  | 1 => rfl
  | 2 => rfl
  | 3 => rfl

theorem get_set (v : Lanes α) (l : Lane) (a : α) (i : Lane) :
    (v.set l a).get i = if i = l then a else v.get i := by
  simp [set]

end Lanes

end HostGpu
