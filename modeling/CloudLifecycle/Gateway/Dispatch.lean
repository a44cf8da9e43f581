import CloudLifecycle.Gateway.Basic

/-!
# Actions on resources

A request for an action passes four gates: the backend declares the operation, the kind has a machine, the resource
can be looked up, and the machine allows the action in the resource's present state, which is that of its guard if
there is one. The first gate that is shut decides the result. Only a request that passes them all reaches the
backend, and whatever the backend then says becomes the result.

The work waits twice: for the answer of the lookup, and for that of the call. What it does from the one to the other is one
step (`judge`): the answer is taken, the guard is asked, the machine is asked, and the call is sent off, and no other work
comes in between.
-/

namespace CloudLifecycle.Gateway

variable {σ φ : Type} [Fleet σ φ]

/-- The state in which a resource counts when its backend reports `raw`: that of its guard, if it has one. -/
def presentState (g : Gateway) (guards : Guards) (key : ResourceKey) (raw : String) : LifecycleState :=
  (guards.overlay key).getD (g.normalizer.normalize key.backend raw)

/-- What the gates say to a request. -/
inductive Admission where
  /-- The request reaches its backend. -/
  | admitted
  /-- The result, without a call. -/
  | refused (result : ActionResult)

/-- The last two gates, on the answer of the lookup. -/
def admission (g : Gateway) (guards : Guards) (machine : Machine) (request : ActionRequest) :
    BackendResult (Option Resource) → Admission
  | .error e => .refused (.lookupFailure e)
  | .ok none => .refused (.notFound request.kind request.resourceId)
  | .ok (some resource) =>
    match machine.check (g.presentState guards request.key resource.rawStatus) request.action with
    | .ok _ => .admitted
    | .error e => .refused ((ActionResult.illegal e).withResourceId request.resourceId)

/-- Takes a request through the first two gates, before the resource is looked up. -/
def enter (g : Gateway) (request : ActionRequest) (fleet : σ) : Except ActionResult Machine :=
  if Fleet.supports fleet request.backend request.operation.name then
    match g.catalog.get? request.kind with
    | some machine => .ok machine
    | none => .error (.noLifecycle request.kind)
  else .error (.notSupported request.backend request.operation)

/-- The call that an admitted request makes. -/
def actionCall (request : ActionRequest) : Call :=
  ⟨request.backend, request.operation, some request.resourceId, request.payload⟩

/-- Takes a request through the last two gates, when the lookup is answered: either its result, or a call on its
way. -/
def judge (g : Gateway) (request : ActionRequest) (machine : Machine) (desk : Desk σ) :
    Progress (Option φ) ActionResult × Desk σ :=
  let (answer, fleet) := Fleet.find desk.fleet request.key
  let desk : Desk σ := { desk with fleet := fleet }
  match g.admission desk.guards machine request answer with
  | .refused result => (.done result, desk)
  | .admitted =>
    let ((flight, time), desk) := g.call (actionCall request) desk
    (.waiting flight time, desk)

theorem judge_of_refused {g : Gateway} {request : ActionRequest} {machine : Machine} {desk : Desk σ}
    {result : ActionResult}
    (h : g.admission desk.guards machine request (Fleet.find desk.fleet request.key).1 = .refused result) :
    g.judge request machine desk = (.done result, { desk with fleet := (Fleet.find desk.fleet request.key).2 }) := by
  simp only [judge, h]

theorem judge_of_admitted {g : Gateway} {request : ActionRequest} {machine : Machine} {desk : Desk σ}
    (h : g.admission desk.guards machine request (Fleet.find desk.fleet request.key).1 = .admitted) :
    g.judge request machine desk =
      let sent := g.call (actionCall request) { desk with fleet := (Fleet.find desk.fleet request.key).2 }
      (.waiting sent.1.1 sent.1.2, sent.2) := by
  simp only [judge, h]

theorem guards_judge (g : Gateway) (request : ActionRequest) (machine : Machine) (desk : Desk σ) :
    (g.judge request machine desk).2.guards = desk.guards := by
  cases h : g.admission desk.guards machine request (Fleet.find desk.fleet request.key).1 with
  | refused result => rw [judge_of_refused h]
  | admitted =>
    rw [judge_of_admitted h]
    rfl

/-- Begins an action. The fleet is asked for the resource at most once. -/
def dispatch (g : Gateway) (request : ActionRequest) (desk : Desk σ) :
    Progress (Option φ) ActionResult × Desk σ :=
  match g.enter request desk.fleet with
  | .error result => (.done result, desk)
  | .ok machine => g.judge request machine desk

/-- The result of an action whose backend has answered. -/
def actionResult (g : Gateway) (request : ActionRequest) : BackendResult Receipt → ActionResult
  | .ok receipt => .accepted request.resourceId (g.normalizer.normalize request.backend receipt.rawStatus)
  | .error e => (ActionResult.backendFailure e).withResourceId request.resourceId

/-- Ends an action, when its call lands or is given up. -/
def finishAction (g : Gateway) (request : ActionRequest) (flight : Option φ) (desk : Desk σ) :
    ActionResult × Desk σ :=
  match flight with
  | some flight =>
    let (answer, fleet) := Fleet.land desk.fleet flight
    (g.actionResult request answer, { desk with fleet := fleet })
  | none => ((ActionResult.timeout request.operation g.timeout).withResourceId request.resourceId, desk)

theorem guards_finishAction (g : Gateway) (request : ActionRequest) (flight : Option φ) (desk : Desk σ) :
    (g.finishAction request flight desk).2.guards = desk.guards := by
  cases flight <;> rfl

end CloudLifecycle.Gateway
