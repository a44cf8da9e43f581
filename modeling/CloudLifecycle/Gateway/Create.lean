import CloudLifecycle.Gateway.Basic

/-!
# New resources

A request for a new resource goes to its backend if that declares the operation. Once the backend has answered
with an id, the resource is put under guard, the caller is told that it is pending, and a convergence starts.
-/

namespace CloudLifecycle

/-- The result of a request for a new resource, and the convergence that it starts. -/
structure Provisioning where
  result : ActionResult
  started : Option Convergence

namespace Gateway

variable {σ φ : Type} [Fleet σ φ]

/-- The call that makes a new resource. -/
def createCall (request : CreateRequest) : Call :=
  ⟨request.backend, request.operation, none, request.payload⟩

/-- Begins to make a resource: either a refusal, or a call on its way. -/
def create (g : Gateway) (request : CreateRequest) (desk : Desk σ) :
    Progress (Option φ) Provisioning × Desk σ :=
  if Fleet.supports desk.fleet request.backend request.operation.name then
    let ((flight, time), desk) := g.call (createCall request) desk
    (.waiting flight time, desk)
  else (.done ⟨.notSupported request.backend request.operation, none⟩, desk)

/-- Ends making a resource, when the call lands or is given up. The new resource is put under guard. -/
def finishCreate (g : Gateway) (request : CreateRequest) (flight : Option φ) (desk : Desk σ) :
    Provisioning × Desk σ :=
  match flight with
  | some flight =>
    let (answer, fleet) := Fleet.land desk.fleet flight
    match answer with
    | .ok receipt =>
      let key : ResourceKey := ⟨request.backend, request.kind, receipt.id⟩
      let (_, guards) := desk.guards.begin key
      (⟨.accepted receipt.id .pending, some (.begin key request.payload)⟩, ⟨guards, fleet⟩)
    | .error e => (⟨.backendFailure e, none⟩, { desk with fleet := fleet })
  | none => (⟨.timeout request.operation g.timeout, none⟩, desk)

end Gateway

end CloudLifecycle
