import CloudLifecycle.Proofs.Backend.Stored
import CloudLifecycle.Proofs.Gateway.Moves
import CloudLifecycle.Proofs.Gateway.Phases

/-!
# Traffic before a park

What goes on between a gateway and a park of simulated backends, as long as the backends do not change by themselves:

1. every call that is sent off leaves a job that waits for it, so that all calls of a run are accounted for by jobs
   (`Traffic.asked_step`);
2. what is on its way for a job is its call, and an action that waits for its lookup goes by the machine for its kind
   (`Traffic.Orderly`);
3. the park stays what it is, up to its resources (`Traffic.Orderly.alike`).
-/

namespace CloudLifecycle

/-! ## Calls that are recorded -/

section

variable {σ φ : Type} [Fleet σ φ]

/-- All that a stretch asks of a recorded fleet is written down, and its calls are those for which a job waits now. -/
def Stretch.Asks (s : Stretch (Recorded σ) φ) (before : Desk (Recorded σ)) : Prop :=
  ∃ asked, s.desk.fleet.record = before.fleet.record ++ asked ∧
    asked.filterMap Ask.call? = (s.next.bind Job.call?).toList

namespace Gateway

theorem asks_accept (g : Gateway) (demand : Demand) (desk : Desk (Recorded σ)) :
    (g.accept demand desk : Stretch (Recorded σ) φ).Asks desk := by
  have taken := g.accepted (φ := φ) demand desk
  generalize (g.accept demand desk : Stretch (Recorded σ) φ) = s at taken ⊢
  cases taken with
  | sent request _ => exact ⟨[.call (createCall request)], rfl, rfl⟩
  | _ => exact ⟨[], (List.append_nil _).symm, rfl⟩

/-- A job looks up the resource that it seeks and then sends off the call for which the rest of it waits, if it does
either. -/
theorem asked_resume (g : Gateway) (job : Job φ) (desk : Desk (Recorded σ)) :
    (g.resume job desk).desk.fleet.record = desk.fleet.record ++
      (job.sought?.toList.map .lookup ++ ((g.resume job desk).next.bind Job.call?).toList.map .call) := by
  have gone := g.resumed job desk
  generalize g.resume job desk = s at gone ⊢
  have silent (flight : Option φ) : (Fleet.atEnd desk.fleet flight).record = desk.fleet.record ++ [] := by
    rw [List.append_nil]
    cases flight <;> rfl
  cases gone with
  | refused request machine result _ => rfl
  | reached request machine _ => exact List.append_assoc desk.fleet.record [_] [_]
  | acted request flight =>
    show (g.finishAction request flight desk).2.fleet.record = _
    rw [fleet_finishAction]
    exact silent flight
  | provisioned request flight =>
    show (g.finishCreate request flight desk).2.fleet.record = _
    rw [fleet_finishCreate, silent flight]
    cases (g.finishCreate request flight desk).1.started <;> rfl
  | ended phase outcome later turn =>
    have step := g.advanced phase desk
    rw [turn] at step
    cases step with
    | decided c _ guards => rfl
    | finished c s flight _ guards => exact silent flight
  | going phase rest time later turn =>
    have step := g.advanced phase desk
    rw [turn] at step
    cases step with
    | waits c kept _ _ => rfl
    | finishes c kept same s _ _ _ =>
      simp only [Job.sought?, ← same]
      exact List.append_assoc desk.fleet.record [_] [_]
  | stated key | listed key => rfl

theorem asks_resume (g : Gateway) (job : Job φ) (desk : Desk (Recorded σ)) : (g.resume job desk).Asks desk := by
  refine ⟨_, g.asked_resume job desk, ?_⟩
  cases job.sought? <;> cases (g.resume job desk).next.bind Job.call? <;> rfl

end Gateway

/-- Every call that a move sends off has a job that waits for it afterwards. -/
theorem Traffic.asked_step {g : Gateway} {move : Move (Recorded σ)} (calm : move.isDrift = false)
    (t : Traffic (Recorded σ) φ) :
    ∃ asked, (step g move t).2.desk.fleet.record = t.desk.fleet.record ++ asked ∧
      ∀ call ∈ asked.filterMap Ask.call?, ∃ job ∈ (step g move t).2.jobs, job.call? = some call := by
  cases move with
  | demand demand =>
    obtain ⟨asked, recorded, calls⟩ := g.asks_accept (φ := φ) demand t.desk
    refine ⟨asked, recorded, fun call mem => ?_⟩
    rw [calls] at mem
    obtain ⟨job, next, waits⟩ := Option.bind_eq_some_iff.mp (Option.mem_toList.mp mem)
    exact ⟨job, List.mem_append_right _ (Option.mem_toList.mpr next), waits⟩
  | resume place =>
    rcases hj : t.jobs[place]? with _ | job
    · exact ⟨[], by simp only [step, hj, List.append_nil], nofun⟩
    · obtain ⟨asked, recorded, calls⟩ := g.asks_resume job t.desk
      simp only [step, hj]
      refine ⟨asked, recorded, fun call mem => ?_⟩
      rw [calls] at mem
      obtain ⟨job', next, waits⟩ := Option.bind_eq_some_iff.mp (Option.mem_toList.mp mem)
      have left : job' ∈ (g.resume job t.desk).next.toList := Option.mem_toList.mpr next
      exact ⟨job', List.mem_append_right _ (List.mem_append_left _ left), waits⟩
  | abandon place =>
    refine ⟨[], ?_, nofun⟩
    rw [List.append_nil]
    unfold step
    dsimp only
    split <;> rfl
  | drift fleet => cases calm

end

/-- The resource that an event brings into being. -/
def Event.made? : Event → Option ResourceKey
  | .provisioned request provisioning => provisioning.made? request
  | .reached _ | .acted _ _ | .claimed _ | .refused _ | .ended _ _ | .stated _ _ | .listed _ _ | .cleared _ _ => none

theorem Gateway.made_of_landed {σ φ : Type} [Fleet σ φ] {g : Gateway} {request : CreateRequest} {flight : φ}
    {desk : Desk σ} {receipt : Receipt} (h : (Fleet.land desk.fleet flight).1 = .ok receipt) :
    (g.finishCreate request (some flight) desk).1.made? request = some ⟨request.backend, request.kind, receipt.id⟩ := by
  simp only [finishCreate, h]
  rfl

/-! ## The park -/

theorem Park.Alike.trans {p p' p'' : Park} (h : p.Alike p') (h' : p'.Alike p'') : p.Alike p'' :=
  ⟨h'.simulated, fun id => (h'.profile? id).trans (h.profile? id), h'.router.trans h.router⟩

/-- A call that lands is about no resource but the one that it names or that the job then tells of. -/
theorem Gateway.receipt_ne {g : Gateway} {desk : Desk (Recorded Park)} (simulated : desk.fleet.fleet.Simulated)
    {job : Job Flight} {flight : Flight} (waits : job.flight? = some flight) (its_own : job.call? = some flight.call)
    {key : ResourceKey} (other : flight.call.key? ≠ some key)
    (unmade : ∀ event, (g.resume job desk).event = some event → event.made? ≠ some key) (receipt : Receipt)
    (answered : (desk.fleet.fleet.land flight).1 = .ok receipt) :
    (⟨flight.call.backend, flight.call.operation.kind, receipt.id⟩ : ResourceKey) ≠ key := by
  rcases named : flight.call.resource with _ | id
  · cases job with
    | creating request flight' =>
      cases waits
      have call : createCall request = flight.call := Option.some.inj its_own
      have made : (g.finishCreate request (some flight) desk).1.made? request ≠ some key := unmade _ rfl
      rw [made_of_landed answered] at made
      rw [← call]
      exact fun same => made (congrArg some same)
    | acting request flight' =>
      have call : actionCall request = flight.call := Option.some.inj its_own
      rw [← call] at named
      cases named
    | converging phase =>
      cases phase with
      | polling c => cases waits
      | finishing c s flight' =>
        have call : postCreateCall c = flight.call := Option.some.inj its_own
        rw [← call] at named
        cases named
    | looking _ _ | asking _ | listing _ => cases waits
  · have lands := simulated.lands flight
    rw [answered] at lands
    rw [(lands.receipt named).1]
    intro same
    exact other (by rw [Call.key?, named]; exact congrArg some same)

/-- The call of an action that goes well leaves its resource in the status that the profile reports. -/
theorem Gateway.rawStatus?_of_acted {park : Park} (simulated : park.Simulated) {request : ActionRequest} {flight : Flight}
    (its_own : actionCall request = flight.call) {receipt : Receipt} (answered : (park.land flight).1 = .ok receipt)
    {profile : Profile} {raw : String} (plays : park.profile? request.backend = some profile)
    (reported : profile.reportedStatus? request.action = some raw) :
    (park.land flight).2.rawStatus? request.key = some raw := by
  have lands := simulated.lands flight
  rw [answered, ← its_own] at lands
  obtain ⟨same, reports⟩ := lands.receipt rfl
  have status := lands.rawStatus?
  rw [same, reports profile raw plays reported] at status
  exact status

theorem Gateway.call_of_flight {σ : Type} [Fleet σ Flight]
    (launches : ∀ (fleet : σ) (call : Call), (Fleet.launch fleet call).1.2.call = call) {g : Gateway} {call : Call}
    {desk : Desk σ} {flight : Flight} (h : (g.call call desk).1.1 = some flight) : flight.call = call := by
  simp only [Gateway.call, apply_ite Prod.fst, Option.ite_none_right_eq_some, Option.some.injEq] at h
  rw [← h.2]
  exact launches desk.fleet call

namespace Traffic

/-- If calls on their way are those that were sent off, what is on its way for a job stays its call. -/
theorem own_step {σ : Type} [Fleet σ Flight] {g : Gateway} {t : Traffic σ Flight} {move : Move σ}
    (launches : ∀ (fleet : σ) (call : Call), (Fleet.launch fleet call).1.2.call = call)
    (own : ∀ job ∈ t.jobs, ∀ flight, job.flight? = some flight → job.call? = some flight.call) :
    ∀ job ∈ (step g move t).2.jobs, ∀ flight, job.flight? = some flight → job.call? = some flight.call := by
  have sent {call : Call} {desk : Desk σ} {flight : Flight} (h : (g.call call desk).1.1 = some flight) :
      flight.call = call := Gateway.call_of_flight launches h
  refine forall_jobs_step own ?_ ?_
  · intro demand job next flight waits
    have taken := g.accepted (φ := Flight) demand t.desk
    generalize (g.accept demand t.desk : Stretch σ Flight) = s at taken next
    cases taken with
    | sent request _ =>
      cases next
      exact congrArg some (sent waits).symm
    | entered | claimed | asking | listing =>
      cases next
      cases waits
    | _ => cases next
  · intro job mem _ job' next flight waits
    have gone := g.resumed job t.desk
    generalize g.resume job t.desk = s at gone next
    cases gone with
    | reached request machine _ =>
      cases next
      exact congrArg some (sent waits).symm
    | provisioned request flight' =>
      obtain ⟨c, _, rfl⟩ := Option.map_eq_some_iff.mp next
      cases waits
    | going phase rest time later turn =>
      cases next
      have went := g.advanced phase t.desk
      rw [turn] at went
      cases went with
      | waits c kept _ _ => cases waits
      | finishes c kept _ s _ _ _ => exact congrArg some (sent waits).symm
    | _ => cases next

/-- Traffic before a park of simulated backends. What is on its way for a job is its call, and an action that waits for
its lookup goes by the machine for its kind. -/
structure Orderly (g : Gateway) (t : Traffic (Recorded Park) Flight) : Prop where
  simulated : t.desk.fleet.fleet.Simulated
  its_own : ∀ job ∈ t.jobs, ∀ flight, job.flight? = some flight → job.call? = some flight.call
  catalogued : Catalogued g t

namespace Orderly

variable {g : Gateway} {t : Traffic (Recorded Park) Flight} {move : Move (Recorded Park)}

theorem of_begin {desk : Desk (Recorded Park)} (simulated : desk.fleet.fleet.Simulated) : Orderly g (begin desk) where
  simulated := simulated
  its_own := List.forall_mem_nil _
  catalogued := fun _ _ mem => absurd mem List.not_mem_nil

/-- A move leaves the park what it is, up to its resources. -/
theorem alike_step (h : Orderly g t) (calm : move.isDrift = false) :
    t.desk.fleet.fleet.Alike (step g move t).2.desk.fleet.fleet := by
  refine fleet_step (P := fun r => t.desk.fleet.fleet.Alike r.fleet) calm ?_ ?_ ?_ h.simulated.alike
  · intro r key alike
    exact alike.trans (alike.simulated.alike_find key)
  · intro r call alike
    have same : (Fleet.launch r call).2.fleet = r.fleet := alike.simulated.launch call
    rw [same]
    exact alike
  · intro job _ _ flight _
    exact h.simulated.alike_land flight

theorem step (h : Orderly g t) (calm : move.isDrift = false) : Orderly g (step g move t).2 where
  simulated := (h.alike_step calm).simulated
  catalogued := h.catalogued.step move
  its_own := own_step (fun r => Park.call_launch r.fleet) h.its_own

theorem run (h : Orderly g t) {moves : List (Move (Recorded Park))} (calm : ∀ move ∈ moves, move.isDrift = false) :
    Orderly g (run g moves t).2 ∧ t.desk.fleet.fleet.Alike (Traffic.run g moves t).2.desk.fleet.fleet := by
  refine run_keeps (P := fun later => Orderly g later ∧ t.desk.fleet.fleet.Alike later.desk.fleet.fleet)
    (E := fun _ => True) ?_ calm (fun _ _ => trivial) ⟨h, h.simulated.alike⟩
  rintro move later calm _ ⟨orderly, alike⟩
  exact ⟨orderly.step calm, alike.trans (orderly.alike_step calm)⟩

/-- An action gets through to a resource that its park holds, if the machine allows it in the state in which that
counts. -/
theorem checked (h : Orderly g t) {request : ActionRequest}
    (shown : (Traffic.step g move t).1 = some (.reached request)) :
    ∃ machine raw target, g.catalog.get? request.kind = some machine ∧
      t.desk.fleet.fleet.rawStatus? request.key = some raw ∧
      t.desk.fleet.fleet.router.target? request.backend = some request.backend ∧
      machine.check (g.presentState t.desk.guards request.key raw) request.action = .ok target := by
  obtain ⟨place, machine, _, at_place, admitted⟩ := looking_of_reached shown
  obtain ⟨resource, target, found, checked⟩ := Gateway.checked_of_admitted admitted
  have finds := h.simulated.finds request.key
  rw [show (t.desk.fleet.fleet.find request.key).1 = _ from found] at finds
  obtain ⟨held, routed⟩ := finds.held
  exact ⟨machine, resource.rawStatus, target, h.catalogued request machine (List.mem_of_getElem? at_place), held, routed,
    checked⟩

end Orderly

end Traffic

/-! ## A park of one backend -/

namespace Solo

/-- A park of one simulated backend. -/
def park (b : SimulatedBackend) : Park :=
  Park.routing ⟨Registry.empty.set b.profile.id (.simulated b), .empty, ⟨0, 0⟩⟩ [b.profile.id]

theorem simulated_park (b : SimulatedBackend) : (park b).Simulated := Registry.simulated_empty.set rfl

/-- A gateway before that park, with the standard machines. -/
def gateway (b : SimulatedBackend) : Gateway :=
  ⟨.standard, (park b).normalizer, Gateway.standardTimeout, .standard, by decide, by decide⟩

/-- The desk of the gateway, before anything is guarded. -/
def desk (b : SimulatedBackend) : Desk (Recorded Park) := ⟨.empty, park b, []⟩

/-- The first server that the backend makes. -/
def server (b : SimulatedBackend) : ResourceKey := ⟨b.profile.id, .server, uuidText 0⟩

/-- The server is asked for. -/
def order (b : SimulatedBackend) : Move (Recorded Park) := .demand (.create ⟨b.profile.id, .server, .none, .null⟩)

/-- A request for an action on the server. -/
def request (b : SimulatedBackend) (action : String) : ActionRequest :=
  ⟨b.profile.id, .server, uuidText 0, action, .none, .null⟩

theorem key_request (b : SimulatedBackend) (action : String) : (request b action).key = server b := rfl

theorem action_request (b : SimulatedBackend) (action : String) : (request b action).action = action := rfl

/-- The action is asked for, and the server is looked up for it. Only the convergence of the server was there before. -/
def ask (b : SimulatedBackend) (action : String) : List (Move (Recorded Park)) :=
  [.demand (.dispatch (request b action)), .resume 1]

end Solo

end CloudLifecycle
