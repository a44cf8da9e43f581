import CloudLifecycle.Gateway.Traffic
import CloudLifecycle.Proofs.Gateway.Gates

/-!
# Stretches of work

All that a gateway may do in one stretch: what a demand leads to when it is taken up (`Accepted`), and what a job leads
to when it goes on (`Resumed`, and for the job of a convergence `Advanced`). Each case says what others see, what is
left to do, and how the desk is left. What becomes of the fleet follows: lookups are made, calls are sent off, and those
for which jobs wait land (`fleet_accept`, `fleet_resume`).
-/

namespace CloudLifecycle

variable {σ φ : Type} [Fleet σ φ]

/-- A fleet once a call to it has come to its end: the call has landed, or was given up and never does. -/
def Fleet.atEnd (fleet : σ) : Option φ → σ
  | some flight => (Fleet.land fleet flight).2
  | none => fleet

namespace Gateway

/-- The ways in which a demand may be taken up. -/
inductive Accepted (g : Gateway) (desk : Desk σ) : Demand → Stretch σ φ → Prop where
  | barred (request : ActionRequest) (result : ActionResult) (h : g.enter request desk.fleet = .error result) :
      Accepted g desk (.dispatch request) ⟨some (.acted request result), none, desk⟩
  | entered (request : ActionRequest) (machine : Machine) (h : g.enter request desk.fleet = .ok machine) :
      Accepted g desk (.dispatch request) ⟨none, some (.looking request machine), desk⟩
  | unsupported (request : CreateRequest)
      (h : Fleet.supports desk.fleet request.backend request.operation.name = false) :
      Accepted g desk (.create request)
        ⟨some (.provisioned request ⟨.notSupported request.backend request.operation, none⟩), none, desk⟩
  | sent (request : CreateRequest) (h : Fleet.supports desk.fleet request.backend request.operation.name = true) :
      Accepted g desk (.create request)
        ⟨none, some (.creating request (g.call (createCall request) desk).1.1), (g.call (createCall request) desk).2⟩
  | claimed (key : ResourceKey) (payload : Payload) (h : desk.guards.get? key ≠ some .converging) :
      Accepted g desk (.converge key payload)
        ⟨some (.claimed key), some (.converging (.polling (.begin key payload))),
          { desk with guards := (desk.guards.begin key).2 }⟩
  | refused (key : ResourceKey) (payload : Payload) (h : desk.guards.get? key = some .converging) :
      Accepted g desk (.converge key payload) ⟨some (.refused key), none, desk⟩
  | stated (key : ResourceKey) (state : LifecycleState) (h : desk.guards.overlay key = some state) :
      Accepted g desk (.currentState key) ⟨some (.stated key (.ok (some state))), none, desk⟩
  | asking (key : ResourceKey) (h : desk.guards.overlay key = none) :
      Accepted g desk (.currentState key) ⟨none, some (.asking key), desk⟩
  | listed (key : ResourceKey) (state : LifecycleState) (h : desk.guards.overlay key = some state) :
      Accepted g desk (.availableActions key)
        ⟨some (.listed key (.ok (g.actionsIn desk.fleet key state))), none, desk⟩
  | listing (key : ResourceKey) (h : desk.guards.overlay key = none) :
      Accepted g desk (.availableActions key) ⟨none, some (.listing key), desk⟩
  | forgotten (key : ResourceKey) (reason : String) (h : desk.guards.get? key = some (.failed reason)) :
      Accepted g desk (.clearFailure key)
        ⟨some (.cleared key true), none, { desk with guards := (desk.guards.clear key).2 }⟩
  | kept (key : ResourceKey) : Accepted g desk (.clearFailure key) ⟨some (.cleared key false), none, desk⟩

theorem accepted (g : Gateway) (demand : Demand) (desk : Desk σ) :
    Accepted g desk demand (g.accept demand desk : Stretch σ φ) := by
  cases demand with
  | dispatch request =>
    cases h : g.enter request desk.fleet with
    | error result =>
      simp only [accept, h]
      exact .barred request result h
    | ok machine =>
      simp only [accept, h]
      exact .entered request machine h
  | create request =>
    cases h : Fleet.supports desk.fleet request.backend request.operation.name with
    | false =>
      simp only [accept, create, h]
      exact .unsupported request h
    | true =>
      simp only [accept, create, h, if_true]
      exact .sent request h
  | converge key payload =>
    by_cases h : desk.guards.get? key = some .converging
    · simp only [accept, claim_of_converging h]
      exact .refused key payload h
    · simp only [accept, claim_of_free h]
      exact .claimed key payload h
  | currentState key =>
    cases h : desk.guards.overlay key with
    | some state =>
      simp only [accept, h]
      exact .stated key state h
    | none =>
      simp only [accept, h]
      exact .asking key h
  | availableActions key =>
    cases h : desk.guards.overlay key with
    | some state =>
      simp only [accept, h]
      exact .listed key state h
    | none =>
      simp only [accept, h]
      exact .listing key h
  | clearFailure key =>
    rcases h : desk.guards.get? key with _ | _ | reason
    · simp only [accept, clearFailure, h]
      exact .kept key
    · simp only [accept, clearFailure, h]
      exact .kept key
    · simp only [accept, clearFailure, h]
      exact .forgotten key reason h

/-- The ways in which a job may go on. -/
inductive Resumed (g : Gateway) (desk : Desk σ) : Job φ → Stretch σ φ → Prop where
  | refused (request : ActionRequest) (machine : Machine) (result : ActionResult)
      (h : g.admission desk.guards machine request (Fleet.find desk.fleet request.key).1 = .refused result) :
      Resumed g desk (.looking request machine) ⟨some (.acted request result), none, lookedUp request desk⟩
  | reached (request : ActionRequest) (machine : Machine)
      (h : g.admission desk.guards machine request (Fleet.find desk.fleet request.key).1 = .admitted) :
      Resumed g desk (.looking request machine)
        ⟨some (.reached request), some (.acting request (g.call (actionCall request) (lookedUp request desk)).1.1),
          (g.call (actionCall request) (lookedUp request desk)).2⟩
  | acted (request : ActionRequest) (flight : Option φ) :
      Resumed g desk (.acting request flight)
        ⟨some (.acted request (g.finishAction request flight desk).1), none, (g.finishAction request flight desk).2⟩
  | provisioned (request : CreateRequest) (flight : Option φ) :
      Resumed g desk (.creating request flight)
        ⟨some (.provisioned request (g.finishCreate request flight desk).1),
          (g.finishCreate request flight desk).1.started.map fun c => .converging (.polling c),
          (g.finishCreate request flight desk).2⟩
  | ended (phase : Phase φ) (outcome : Outcome) (later : Desk σ) (h : g.advance phase desk = (.done outcome, later)) :
      Resumed g desk (.converging phase) ⟨some (.ended phase.convergence.key outcome), none, later⟩
  | going (phase rest : Phase φ) (time : Duration) (later : Desk σ)
      (h : g.advance phase desk = (.waiting rest time, later)) :
      Resumed g desk (.converging phase) ⟨none, some (.converging rest), later⟩
  | stated (key : ResourceKey) :
      Resumed g desk (.asking key) ⟨some (.stated key (g.observe key desk).1), none, (g.observe key desk).2⟩
  | listed (key : ResourceKey) :
      Resumed g desk (.listing key)
        ⟨some (.listed key (g.actionsOf (g.observe key desk).2.fleet key (g.observe key desk).1)), none,
          (g.observe key desk).2⟩

theorem resumed (g : Gateway) (job : Job φ) (desk : Desk σ) : Resumed g desk job (g.resume job desk) := by
  cases job with
  | looking request machine =>
    cases h : g.admission desk.guards machine request (Fleet.find desk.fleet request.key).1 with
    | refused result =>
      simp only [resume, judge_of_refused h]
      exact .refused request machine result h
    | admitted =>
      simp only [resume, judge_of_admitted h]
      exact .reached request machine h
  | acting request flight => exact .acted request flight
  | creating request flight => exact .provisioned request flight
  | converging phase =>
    rcases h : g.advance phase desk with ⟨outcome | ⟨rest, time⟩, later⟩
    · simp only [resume, h]
      exact .ended phase outcome later h
    · simp only [resume, h]
      exact .going phase rest time later h
  | asking key => exact .stated key
  | listing key => exact .listed key

theorem fleet_finishAction (g : Gateway) (request : ActionRequest) (flight : Option φ) (desk : Desk σ) :
    (g.finishAction request flight desk).2.fleet = Fleet.atEnd desk.fleet flight := by
  cases flight <;> rfl

theorem fleet_finishCreate (g : Gateway) (request : CreateRequest) (flight : Option φ) (desk : Desk σ) :
    (g.finishCreate request flight desk).2.fleet = Fleet.atEnd desk.fleet flight := by
  cases flight with
  | none => rfl
  | some flight =>
    unfold finishCreate Fleet.atEnd
    dsimp only
    split <;> rfl

theorem fleet_finishConvergence (g : Gateway) (c : Convergence) (s : LifecycleState) (flight : Option φ)
    (desk : Desk σ) : (g.finishConvergence c s flight desk).2.fleet = Fleet.atEnd desk.fleet flight := by
  cases flight with
  | none => rfl
  | some flight =>
    unfold finishConvergence Fleet.atEnd
    dsimp only
    split <;> rfl

theorem verdict_eq_settled {machine : Option Machine} {lastSeen : Option LifecycleState}
    {answer : BackendResult (Option LifecycleState)} {s : LifecycleState}
    (h : verdict machine lastSeen answer = .settled s) :
    answer = .ok (some s) ∧ isTerminalFor machine s = false ∧ isSettledFor machine s = true := by
  unfold verdict at h
  split at h
  · split at h
    · cases h
    · next moves =>
      split at h
      · next settled =>
        cases h
        exact ⟨rfl, eq_false_of_ne_true moves, settled⟩
      · cases h
  · split at h <;> cases h
  · cases h

/-- An action is admitted if its resource is found, and its machine allows it in the state in which that counts. -/
theorem checked_of_admitted {g : Gateway} {guards : Guards} {machine : Machine} {request : ActionRequest}
    {answer : BackendResult (Option Resource)} (h : g.admission guards machine request answer = .admitted) :
    ∃ resource target, answer = .ok (some resource) ∧
      machine.check (g.presentState guards request.key resource.rawStatus) request.action = .ok target := by
  rcases answer with e | _ | resource
  · cases h
  · cases h
  · unfold admission at h
    dsimp only at h
    split at h
    · next target checked => exact ⟨resource, target, rfl, checked⟩
    · cases h

theorem resource_of_observe {g : Gateway} {key : ResourceKey} {desk : Desk σ} {s : LifecycleState}
    (h : (g.observe key desk).1 = .ok (some s)) :
    ∃ resource, (Fleet.find desk.fleet key).1 = .ok (some resource) ∧
      g.normalizer.normalize key.backend resource.rawStatus = s := by
  unfold observe at h
  rcases found : (Fleet.find desk.fleet key).1 with e | _ | resource
  · simp [found, Except.map] at h
  · simp [found, Except.map] at h
  · simp only [found, Except.map, Option.map_some, Except.ok.injEq, Option.some.injEq] at h
    exact ⟨resource, rfl, h⟩

theorem refusal_of_enter {g : Gateway} {request : ActionRequest} {fleet : σ} {result : ActionResult}
    (h : g.enter request fleet = .error result) :
    result.success = false ∧ ∃ category, result.category? = some category ∧ category.isPrecondition = true := by
  unfold enter at h
  split at h
  · split at h
    · cases h
    · cases h
      exact ⟨rfl, .notSupported, rfl, rfl⟩
  · cases h
    exact ⟨rfl, .notSupported, rfl, rfl⟩

/-- An action that is not admitted has failed, and unless its lookup has, some precondition does not hold. -/
theorem refusal_of_admission {g : Gateway} {guards : Guards} {machine : Machine} {request : ActionRequest}
    {answer : BackendResult (Option Resource)} {result : ActionResult}
    (h : g.admission guards machine request answer = .refused result) :
    result.success = false ∧ ((∀ e, answer ≠ .error e) →
      ∃ category, result.category? = some category ∧ category.isPrecondition = true) := by
  rcases answer with e | _ | resource
  · cases h
    exact ⟨rfl, fun found => absurd rfl (found e)⟩
  · cases h
    exact ⟨rfl, fun _ => ⟨.notFound, rfl, rfl⟩⟩
  · unfold admission at h
    dsimp only at h
    split at h
    · cases h
    · cases h
      exact ⟨rfl, fun _ => ⟨.illegalTransition, rfl, rfl⟩⟩

/-- The ways in which a step of a convergence may go, as far as its fleet and what is left of it are concerned. -/
inductive Advanced (g : Gateway) (desk : Desk σ) : Phase φ → Progress (Phase φ) Outcome × Desk σ → Prop where
  | waits (c kept : Convergence) (same : kept.key = c.key) (more : kept.attempts < g.plan.maxAttempts) :
      Advanced g desk (.polling c) (.waiting (.polling kept) g.plan.interval, (g.observe c.key desk).2)
  | finishes (c kept : Convergence) (same : kept.key = c.key) (s : LifecycleState)
      (seen : (g.observe c.key desk).1 = .ok (some s)) (moves : isTerminalFor (g.catalog.get? c.key.kind) s = false)
      (settled : isSettledFor (g.catalog.get? c.key.kind) s = true) :
      Advanced g desk (.polling c)
        (.waiting (.finishing kept s (g.call (postCreateCall kept) (g.observe kept.key desk).2).1.1)
            (g.call (postCreateCall kept) (g.observe kept.key desk).2).1.2,
          (g.call (postCreateCall kept) (g.observe kept.key desk).2).2)
  | decided (c : Convergence) (outcome : Outcome) (guards : Guards) :
      Advanced g desk (.polling c) (.done outcome, ⟨guards, (g.observe c.key desk).2.fleet⟩)
  | finished (c : Convergence) (s : LifecycleState) (flight : Option φ) (outcome : Outcome) (guards : Guards) :
      Advanced g desk (.finishing c s flight) (.done outcome, ⟨guards, Fleet.atEnd desk.fleet flight⟩)

theorem advanced (g : Gateway) (phase : Phase φ) (desk : Desk σ) : Advanced g desk phase (g.advance phase desk) := by
  cases phase with
  | polling c =>
    unfold advance poll
    dsimp only
    split
    · next state _ => exact .decided c (.removed state) _
    · next state decided =>
      obtain ⟨seen, moves, settled⟩ := verdict_eq_settled decided
      unfold settle
      split
      · exact .finishes c { c with attempts := c.attempts + 1, lastSeen := some state } rfl state seen moves settled
      · exact .decided c (.converged state) _
    · next lastSeen _ =>
      split
      · next more => exact .waits c _ rfl more
      · exact .decided c _ _
  | finishing c s flight =>
    have fleet := g.fleet_finishConvergence c s flight desk
    have finishes : Advanced g desk (.finishing c s flight) (.done (g.finishConvergence c s flight desk).1,
        ⟨(g.finishConvergence c s flight desk).2.guards, Fleet.atEnd desk.fleet flight⟩) := .finished c s flight _ _
    rw [← fleet] at finishes
    exact finishes

/-- The convergence that a new resource starts is one that has not looked yet. -/
theorem started_finishCreate {g : Gateway} {request : CreateRequest} {flight : Option φ} {desk : Desk σ}
    {c : Convergence} (h : (g.finishCreate request flight desk).1.started = some c) :
    ∃ id, c = .begin ⟨request.backend, request.kind, id⟩ request.payload := by
  cases flight with
  | none => cases h
  | some flight =>
    rcases answered : (Fleet.land desk.fleet flight).1 with e | receipt
    · simp only [finishCreate, answered] at h
      cases h
    · simp only [finishCreate, answered] at h
      cases h
      exact ⟨receipt.id, rfl⟩

/-! ## What becomes of the fleet -/

/-- What lookups keep, and calls that are sent off, is kept whatever is demanded. -/
theorem fleet_accept {g : Gateway} {demand : Demand} {desk : Desk σ} {P : σ → Prop}
    (launches : ∀ fleet call, P fleet → P (Fleet.launch fleet call).2) (h : P desk.fleet) :
    P (g.accept demand desk : Stretch σ φ).desk.fleet := by
  have taken := g.accepted (φ := φ) demand desk
  generalize (g.accept demand desk : Stretch σ φ) = s at taken ⊢
  cases taken with
  | sent request _ => exact launches desk.fleet (createCall request) h
  | _ => exact h

end Gateway

namespace Job

/-- The resource that a job is about. A request for a new one is about none yet. -/
def key? : Job φ → Option ResourceKey
  | looking request _ | acting request _ => some request.key
  | creating _ _ => none
  | converging phase => some phase.convergence.key
  | asking key | listing key => some key

/-- The resource that a job looks up when it goes on. -/
def sought? : Job φ → Option ResourceKey
  | looking request _ => some request.key
  | converging (.polling c) => some c.key
  | asking key | listing key => some key
  | acting _ _ | creating _ _ | converging (.finishing _ _ _) => none

/-- The call for which a job waits. -/
def call? : Job φ → Option Call
  | acting request _ => some (Gateway.actionCall request)
  | creating request _ => some (Gateway.createCall request)
  | converging (.finishing c _ _) => some (Gateway.postCreateCall c)
  | looking _ _ | converging (.polling _) | asking _ | listing _ => none

/-- The flight of that call, unless it is to be given up. -/
def flight? : Job φ → Option φ
  | acting _ flight | creating _ flight | converging (.finishing _ _ flight) => flight
  | looking _ _ | converging (.polling _) | asking _ | listing _ => none

end Job

namespace Gateway

/-- What lookups of its resource keep, and calls that are sent off, and what holds once the call on its way has landed,
holds when the job has gone on. A job with a call on its way does nothing else. -/
theorem fleet_resume {g : Gateway} {job : Job φ} {desk : Desk σ} {P : σ → Prop}
    (finds : ∀ fleet key, job.key? = some key → P fleet → P (Fleet.find fleet key).2)
    (launches : ∀ fleet call, P fleet → P (Fleet.launch fleet call).2)
    (lands : ∀ flight, job.flight? = some flight → P (Fleet.land desk.fleet flight).2)
    (h : job.flight? = none → P desk.fleet) : P (g.resume job desk).desk.fleet := by
  have ends (flight : Option φ) (on_its_way : job.flight? = flight) : P (Fleet.atEnd desk.fleet flight) := by
    cases flight with
    | none => exact h on_its_way
    | some flight => exact lands flight on_its_way
  have gone := g.resumed job desk
  generalize g.resume job desk = s at gone ⊢
  cases gone with
  | refused request machine result _ => exact finds desk.fleet request.key rfl (h rfl)
  | reached request machine _ =>
    exact launches _ (actionCall request) (finds desk.fleet request.key rfl (h rfl))
  | acted request flight =>
    show P (g.finishAction request flight desk).2.fleet
    rw [fleet_finishAction]
    exact ends flight rfl
  | provisioned request flight =>
    show P (g.finishCreate request flight desk).2.fleet
    rw [fleet_finishCreate]
    exact ends flight rfl
  | ended phase outcome later turn =>
    have step := g.advanced phase desk
    rw [turn] at step
    cases step with
    | decided c _ guards => exact finds desk.fleet c.key rfl (h rfl)
    | finished c s flight _ guards => exact ends flight rfl
  | going phase rest time later turn =>
    have step := g.advanced phase desk
    rw [turn] at step
    cases step with
    | waits c kept _ _ => exact finds desk.fleet c.key rfl (h rfl)
    | finishes c kept same s _ _ _ =>
      exact launches _ (postCreateCall kept) (finds desk.fleet kept.key (congrArg some same.symm) (h rfl))
  | stated key | listed key => exact finds desk.fleet key rfl (h rfl)

end Gateway

end CloudLifecycle
