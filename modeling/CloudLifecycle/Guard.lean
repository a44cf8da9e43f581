import CloudLifecycle.Resource.Key
import CloudLifecycle.Resource.State

/-!
# Guards

A resource that has just been created is under guard until its backend has brought it up: whatever the backend
says meanwhile, the resource counts as pending. If it never comes up, the guard stays as a failure with a
reason, and the resource counts as failed until someone clears it. Each key has a guard of its own.

The moments at which a guard was set and at which it failed (`since` and `at`) are left out. Nothing is decided by them.
-/

namespace CloudLifecycle

/-- The guard over one resource. -/
inductive GuardEntry where
  /-- The resource is coming up. -/
  | converging
  /-- It did not come up. -/
  | failed (reason : String)
  deriving DecidableEq, Repr

/-- The state in which a guarded resource counts. -/
def GuardEntry.state : GuardEntry → LifecycleState
  | converging => .pending
  | failed _ => .failed

/-- The guards over all resources. -/
structure Guards where
  entries : Std.ExtTreeMap ResourceKey GuardEntry
  deriving DecidableEq

namespace Guards

/-- Nothing is guarded. -/
def empty : Guards := ⟨∅⟩

instance : Inhabited Guards := ⟨empty⟩

/-- The guard over a resource. -/
def get? (g : Guards) (key : ResourceKey) : Option GuardEntry := g.entries[key]?

/-- Whether the resource is coming up. -/
def isConverging (g : Guards) (key : ResourceKey) : Bool := g.get? key = some .converging

/-- The state in which a resource counts because of its guard. -/
def overlay (g : Guards) (key : ResourceKey) : Option LifecycleState := (g.get? key).map GuardEntry.state

theorem overlay_of_guard {g : Guards} {key : ResourceKey} {entry : GuardEntry} (guard : g.get? key = some entry) :
    g.overlay key = some entry.state := by
  rw [overlay, guard]
  rfl

theorem overlay_of_free {g : Guards} {key : ResourceKey} (free : g.get? key = none) : g.overlay key = none := by
  rw [overlay, free]
  rfl

/-- Puts a resource under guard, and says whether it was not there already. -/
def begin (g : Guards) (key : ResourceKey) : Bool × Guards :=
  if g.isConverging key then (false, g) else (true, ⟨g.entries.insert key .converging⟩)

/-- Lifts the guard over a resource and says what it was. -/
def clear (g : Guards) (key : ResourceKey) : Option GuardEntry × Guards :=
  (g.get? key, ⟨g.entries.erase key⟩)

/-- Marks a resource as one that did not come up. -/
def fail (g : Guards) (key : ResourceKey) (reason : String) : Guards :=
  ⟨g.entries.insert key (.failed reason)⟩

/-- The number of guarded resources. -/
def size (g : Guards) : Nat := g.entries.size

/-- Whether nothing is guarded. -/
def isEmpty (g : Guards) : Bool := g.entries.isEmpty

theorem get?_begin (g : Guards) (key k : ResourceKey) :
    (g.begin key).2.get? k = if key = k then some .converging else g.get? k := by
  simp only [begin]
  split
  · next h =>
    split
    · next hk => simpa [isConverging, hk] using h
    · rfl
  · simp [get?, Std.ExtTreeMap.getElem?_insert]

theorem get?_clear (g : Guards) (key k : ResourceKey) :
    (g.clear key).2.get? k = if key = k then none else g.get? k := by
  simp [clear, get?, Std.ExtTreeMap.getElem?_erase]

theorem get?_fail (g : Guards) (key k : ResourceKey) (reason : String) :
    (g.fail key reason).get? k = if key = k then some (.failed reason) else g.get? k := by
  simp [fail, get?, Std.ExtTreeMap.getElem?_insert]

end Guards

/-! ## Shared guards -/

/-- Guards that are reached through handles. Several handles may stand for the same guards. -/
structure SharedGuards where
  /-- For each handle the place of its guards. -/
  places : List Nat
  /-- The guards, by their places. -/
  guards : List Guards

namespace SharedGuards

/-- No handle at all. -/
def none : SharedGuards := ⟨[], []⟩

/-- One more handle, to guards of its own. -/
def fresh (s : SharedGuards) : SharedGuards := ⟨s.places ++ [s.guards.length], s.guards ++ [.empty]⟩

/-- One more handle, to the guards of the handle `h`. -/
def clone (s : SharedGuards) (h : Nat) : SharedGuards := ⟨s.places ++ [s.places.getD h 0], s.guards⟩

/-- The guards behind a handle. -/
def get (s : SharedGuards) (h : Nat) : Guards := s.guards.getD (s.places.getD h 0) .empty

/-- Replaces the guards behind a handle, for every handle that stands for them. -/
def set (s : SharedGuards) (h : Nat) (g : Guards) : SharedGuards :=
  ⟨s.places, s.guards.set (s.places.getD h 0) g⟩

end SharedGuards

end CloudLifecycle
