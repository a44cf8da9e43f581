import CloudLifecycle.Operation
import Std.Data.ExtTreeSet

/-!
# Capabilities

The names of the operations that a backend declares. A set of names is all that the gateway ever asks about a
backend before it calls it.
-/

namespace CloudLifecycle

/-- The names of the operations a backend runs. -/
structure CapabilitySet where
  names : Std.ExtTreeSet String
  deriving DecidableEq

namespace CapabilitySet

/-- No operation at all. -/
def empty : CapabilitySet := ⟨∅⟩

instance : Inhabited CapabilitySet := ⟨empty⟩

/-- Whether the operation of that name is declared. -/
def contains (c : CapabilitySet) (name : String) : Bool := c.names.contains name

/-- The set with one more name. -/
def insert (c : CapabilitySet) (name : String) : CapabilitySet := ⟨c.names.insert name⟩

/-- The set without a name. -/
def erase (c : CapabilitySet) (name : String) : CapabilitySet := ⟨c.names.erase name⟩

/-- The set of some names. -/
def ofList (names : List String) : CapabilitySet := names.foldl insert empty

/-- The set with the operations of some actions on one kind. -/
def declare (c : CapabilitySet) (kind : ResourceKind) (actions : List String) : CapabilitySet :=
  actions.foldl (fun c action => c.insert (Operation.name ⟨kind, action⟩)) c

/-- Whether the action on that kind is declared. -/
def supports (c : CapabilitySet) (kind : ResourceKind) (action : String) : Bool :=
  c.contains (Operation.name ⟨kind, action⟩)

/-- The names in ascending order. -/
def toList (c : CapabilitySet) : List String := c.names.toList

/-- The number of names. -/
def size (c : CapabilitySet) : Nat := c.names.size

/-- Whether nothing is declared. -/
def isEmpty (c : CapabilitySet) : Bool := c.names.isEmpty

theorem contains_insert (c : CapabilitySet) (name a : String) :
    (c.insert name).contains a = true ↔ name = a ∨ c.contains a = true := by
  simp [insert, contains]

theorem contains_erase (c : CapabilitySet) (name a : String) :
    (c.erase name).contains a = true ↔ name ≠ a ∧ c.contains a = true := by
  simp [erase, contains]

end CapabilitySet

end CloudLifecycle
