import CloudLifecycle.Gateway.Dispatch

/-!
# Reading

What a caller may ask without changing a resource: its state, the actions that it allows, and whether a failed
guard can be lifted. A guard answers for its resource, without a lookup.

Forgetting a failure does not wait for anything, and so it is one step (`clearFailure`): the guard is looked at and lifted,
and no other work comes in between.
-/

namespace CloudLifecycle.Gateway

variable {σ φ : Type} [Fleet σ φ]

/-- The state of a resource: that of its guard, or what its backend reports. -/
def currentState (g : Gateway) (key : ResourceKey) (desk : Desk σ) :
    BackendResult (Option LifecycleState) × Desk σ :=
  match desk.guards.overlay key with
  | some state => (.ok (some state), desk)
  | none => g.observe key desk

/-- The actions that a machine allows in a state and the backend declares. -/
def actionsIn (g : Gateway) (fleet : σ) (key : ResourceKey) (state : LifecycleState) : List String :=
  match g.catalog.get? key.kind with
  | some machine =>
    (machine.actionsFrom state).filter fun action =>
      Fleet.supports fleet key.backend (Operation.name ⟨key.kind, action⟩)
  | none => []

/-- The actions that a resource allows, once its state is known; one that is not there allows none. -/
def actionsOf (g : Gateway) (fleet : σ) (key : ResourceKey) :
    BackendResult (Option LifecycleState) → BackendResult (List String)
  | .error e => .error e
  | .ok none => .ok []
  | .ok (some state) => .ok (g.actionsIn fleet key state)

/-- The actions that a resource allows, in ascending order. -/
def availableActions (g : Gateway) (key : ResourceKey) (desk : Desk σ) : BackendResult (List String) × Desk σ :=
  let (state, desk) := g.currentState key desk
  (g.actionsOf desk.fleet key state, desk)

/-- Forgets that a resource did not come up, and says whether there was something to forget. -/
def clearFailure (key : ResourceKey) (desk : Desk σ) : Bool × Desk σ :=
  match desk.guards.get? key with
  | some (.failed _) => (true, { desk with guards := (desk.guards.clear key).2 })
  | _ => (false, desk)

end CloudLifecycle.Gateway
