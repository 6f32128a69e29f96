/-!
# Enumerations with published names and numbers

The members of an enumeration such as the texel formats have a name that messages and answers use
and a number that binary interfaces use. `Catalogue` is the table of both, and `ofName?` and
`ofNumber?` search it.
-/

namespace HostGpu

/-- One row of a catalogue. -/
structure CatalogueEntry (α : Type) where
  value : α
  name : String
  number : Nat

/-- The published names and numbers of an enumeration. -/
class Catalogue (α : Type) [DecidableEq α] where
  entries : List (CatalogueEntry α)

namespace Catalogue

variable {α : Type} [DecidableEq α] [Catalogue α]

/-- All members in the order of the table. -/
def members (α : Type) [DecidableEq α] [Catalogue α] : List α :=
  (entries (α := α)).map (·.value)

/-- The published name of a member. -/
def name (a : α) : String :=
  (entries.find? (·.value = a)).elim "" (·.name)

/-- The published number of a member. -/
def number (a : α) : Nat :=
  (entries.find? (·.value = a)).elim 0 (·.number)

/-- The member with a given name. -/
def ofName? (name : String) : Option α :=
  (entries.find? (·.name = name)).map (·.value)

/-- The member with a given number. -/
def ofNumber? (number : Nat) : Option α :=
  (entries.find? (·.number = number)).map (·.value)

end Catalogue

end HostGpu
