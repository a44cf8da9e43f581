import CloudLifecycle.Proofs.Backend.Spared
import CloudLifecycle.Proofs.Gateway.Interleavings

/-!
# Requests that fail

An action that fails, and a request for a new resource that fails, leave the state before simulated backends as it was,
up to two things. The lookup of an action has moved its resource on by one step, and a planned failure that has struck is
gone. A call that is given up never lands, so that it meets no failure and changes nothing.

The ways to fail are listed with what they make of the park: `ActionRequest.Fails` and `CreateRequest.Fails` are about the
last stretch of a request, which depends on what it has waited for. Those before it do no more than a lookup
(`looked_resume`), and no stretch of a request that fails leaves a convergence behind (`Closes`).
-/

namespace CloudLifecycle

/-- The ways in which an action may fail, with what its last stretch makes of the park. It has waited for a job, or was
barred when it was asked for. -/
inductive ActionRequest.Fails (g : Gateway) (request : ActionRequest) :
    Option (Job Flight) → Park → ActionResult → Park → Prop where
  | undeclared (p : Park) : Fails g request none p (.notSupported request.backend request.operation) p
  | noMachine (p : Park) : Fails g request none p (.noLifecycle request.kind) p
  | absent (machine : Machine) (p p' : Park) (looked : p.Looked request.key none p') :
      Fails g request (some (.looking request machine)) p (.notFound request.kind request.resourceId) p'
  | illegal (machine : Machine) (e : IllegalTransition) (resource : Resource) (p p' : Park)
      (looked : p.Looked request.key (some resource) p') :
      Fails g request (some (.looking request machine)) p ((ActionResult.illegal e).withResourceId request.resourceId) p'
  | failed (flight : Flight) (e : BackendError) (p p' : Park)
      (spared : p.Spared request.backend request.operation.name e p') :
      Fails g request (some (.acting request (some flight))) p
        ((ActionResult.backendFailure e).withResourceId request.resourceId) p'
  | givenUp (p : Park) :
      Fails g request (some (.acting request none)) p
        ((ActionResult.timeout request.operation g.timeout).withResourceId request.resourceId) p

/-- The ways in which a request for a new resource may fail, with what its last stretch makes of the park. -/
inductive CreateRequest.Fails (g : Gateway) (request : CreateRequest) :
    Option (Job Flight) → Park → ActionResult → Park → Prop where
  | undeclared (p : Park) : Fails g request none p (.notSupported request.backend request.operation) p
  | failed (flight : Flight) (e : BackendError) (p p' : Park)
      (spared : p.Spared request.backend request.operation.name e p') :
      Fails g request (some (.creating request (some flight))) p (.backendFailure e) p'
  | givenUp (p : Park) :
      Fails g request (some (.creating request none)) p (.timeout request.operation g.timeout) p

/-! ## One stretch -/

namespace Gateway

variable {g : Gateway} {desk : Desk Park}

/-- What the lookup of an action makes of the park, when the last two gates are reached. A call that is sent off then
adds nothing to it. -/
theorem looked_resume (h : desk.fleet.Simulated) (request : ActionRequest) (machine : Machine) :
    ∃ found, (desk.fleet.find request.key).1 = .ok found ∧
      desk.fleet.Looked request.key found (g.resume (.looking request machine) desk).desk.fleet ∧
      (g.resume (.looking request machine) desk).desk.guards = desk.guards := by
  obtain ⟨found, answered, looked⟩ := h.looked request.key
  refine ⟨found, answered, ?_⟩
  have gone := g.resumed (.looking request machine) desk
  generalize g.resume (.looking request machine) desk = s at gone ⊢
  cases gone with
  | refused _ _ result _ => exact ⟨looked, rfl⟩
  | reached _ _ _ =>
    refine ⟨?_, rfl⟩
    show desk.fleet.Looked request.key found (Park.launch (desk.fleet.find request.key).2 (actionCall request)).2
    rw [looked.alike.simulated.launch]
    exact looked

/-- A request that is taken up leaves the desk as it is, whatever comes of it. -/
theorem desk_accept_request (h : desk.fleet.Simulated) :
    (∀ request, (g.accept (.dispatch request) desk : Stretch Park Flight).desk = desk) ∧
      ∀ request, (g.accept (.create request) desk : Stretch Park Flight).desk = desk := by
  refine ⟨fun request => ?_, fun request => ?_⟩
  · have taken := g.accepted (φ := Flight) (.dispatch request) desk
    generalize (g.accept (.dispatch request) desk : Stretch Park Flight) = s at taken ⊢
    cases taken <;> rfl
  · have taken := g.accepted (φ := Flight) (.create request) desk
    generalize (g.accept (.create request) desk : Stretch Park Flight) = s at taken ⊢
    cases taken with
    | unsupported => rfl
    | sent =>
      show (⟨desk.guards, (desk.fleet.launch (createCall request)).2⟩ : Desk Park) = desk
      rw [h.launch]

theorem fails_of_enter {request : ActionRequest} {p : Park} {result : ActionResult}
    (barred : g.enter request p = .error result) : request.Fails g none p result p := by
  unfold enter at barred
  split at barred
  · split at barred
    · cases barred
    · cases barred
      exact .noMachine p
  · cases barred
    exact .undeclared p

/-- The last stretch of an action that fails. -/
theorem fails_resume (h : desk.fleet.Simulated) (job : Job Flight)
    (its_own : ∀ flight, job.flight? = some flight → job.call? = some flight.call) {request : ActionRequest}
    {result : ActionResult} (shown : (g.resume job desk).event = some (.acted request result))
    (failed : result.success = false) :
    (g.resume job desk).next = none ∧ (g.resume job desk).desk.guards = desk.guards ∧
      request.Fails g (some job) desk.fleet result (g.resume job desk).desk.fleet := by
  have gone := g.resumed job desk
  generalize g.resume job desk = s at gone shown ⊢
  cases gone with
  | refused request machine result refused =>
    cases shown
    obtain ⟨found, answered, looked⟩ := h.looked request.key
    rw [show (Fleet.find desk.fleet request.key).1 = .ok found from answered] at refused
    refine ⟨rfl, rfl, ?_⟩
    cases found with
    | none =>
      cases refused
      exact .absent machine _ _ looked
    | some resource =>
      unfold admission at refused
      dsimp only at refused
      split at refused
      · cases refused
      · cases refused
        exact .illegal machine _ resource _ _ looked
  | acted request flight =>
    cases shown
    refine ⟨rfl, g.guards_finishAction request flight desk, ?_⟩
    cases flight with
    | none => exact .givenUp _
    | some flight =>
      have call : actionCall request = flight.call := Option.some.inj (its_own flight rfl)
      have ends : g.finishAction request (some flight) desk =
          (g.actionResult request (desk.fleet.land flight).1, ⟨desk.guards, (desk.fleet.land flight).2⟩) := rfl
      rw [ends] at failed ⊢
      rcases answered : (desk.fleet.land flight).1 with e | receipt
      · have spared := h.spared answered
        rw [← call] at spared
        exact .failed flight e _ _ spared
      · rw [answered] at failed
        cases failed
  | _ => cases shown

/-- The last stretch of a request for a new resource that fails. -/
theorem create_fails_resume (h : desk.fleet.Simulated) (job : Job Flight)
    (its_own : ∀ flight, job.flight? = some flight → job.call? = some flight.call) {request : CreateRequest}
    {provisioning : Provisioning} (shown : (g.resume job desk).event = some (.provisioned request provisioning))
    (failed : provisioning.result.success = false) :
    provisioning.started = none ∧ (g.resume job desk).next = none ∧
      (g.resume job desk).desk.guards = desk.guards ∧
      request.Fails g (some job) desk.fleet provisioning.result (g.resume job desk).desk.fleet := by
  have gone := g.resumed job desk
  generalize g.resume job desk = s at gone shown ⊢
  cases gone with
  | provisioned request flight =>
    cases shown
    cases flight with
    | none => exact ⟨rfl, rfl, rfl, .givenUp _⟩
    | some flight =>
      have call : createCall request = flight.call := Option.some.inj (its_own flight rfl)
      rcases answered : (desk.fleet.land flight).1 with e | receipt
      · have spared := h.spared answered
        rw [← call] at spared
        have ends : g.finishCreate request (some flight) desk =
            (⟨.backendFailure e, none⟩, ⟨desk.guards, (desk.fleet.land flight).2⟩) := by
          simp only [finishCreate, Fleet.land, answered]
        rw [ends]
        exact ⟨rfl, rfl, rfl, .failed flight e _ _ spared⟩
      · simp only [finishCreate, Fleet.land, answered] at failed
        cases failed
  | _ => cases shown

end Gateway

/-- The ways in which an action may fail between its demand and its end, when nothing else happens meanwhile. -/
def ActionRequest.FailsAlone (g : Gateway) (request : ActionRequest) (p : Park) (result : ActionResult) (p' : Park) :
    Prop :=
  request.Fails g none p result p' ∨
    (∃ machine, request.Fails g (some (.looking request machine)) p result p') ∨
    ∃ flight resource seen, p.Looked request.key (some resource) seen ∧
      request.Fails g (some (.acting request flight)) seen result p'

/-- The ways in which a request for a new resource may fail, when nothing else happens meanwhile. -/
def CreateRequest.FailsAlone (g : Gateway) (request : CreateRequest) (p : Park) (result : ActionResult) (p' : Park) :
    Prop :=
  request.Fails g none p result p' ∨ ∃ flight, request.Fails g (some (.creating request flight)) p result p'

/-! ## Whole requests -/

namespace Traffic

/-- Nothing is left of a job, if there was one, and all other jobs and all guards stay. So no convergence has begun. -/
def Closes (job : Option (Job Flight)) (t t' : Traffic Park Flight) : Prop :=
  t'.desk.guards = t.desk.guards ∧
    match job with
    | none => t'.jobs = t.jobs
    | some job => ∃ place, t.jobs[place]? = some job ∧ t'.jobs = t.jobs.eraseIdx place

section

variable {g : Gateway} {t : Traffic Park Flight}

theorem jobs_resume_of_done {place : Nat} {job : Job Flight} (at_place : t.jobs[place]? = some job)
    (done : (g.resume job t.desk).next = none) : (step g (.resume place) t).2.jobs = t.jobs.eraseIdx place := by
  simp only [step, at_place, done, List.eraseIdx_eq_take_drop_succ]
  rfl

theorem closes_of_acted (h : t.Sound) {move : Move Park} {request : ActionRequest} {result : ActionResult}
    (shown : (step g move t).1 = some (.acted request result)) (failed : result.success = false) :
    ∃ job, Closes job t (step g move t).2 ∧
      request.Fails g job t.desk.fleet result (step g move t).2.desk.fleet := by
  obtain ⟨demand, rfl, event⟩ | ⟨place, job, rfl, at_place, event⟩ := stretch_of_event shown
  · rw [step_demand]
    have taken := g.accepted (φ := Flight) demand t.desk
    generalize (g.accept demand t.desk : Stretch Park Flight) = s at taken event ⊢
    cases taken with
    | barred request result barred =>
      cases event
      exact ⟨none, ⟨rfl, List.append_nil t.jobs⟩, Gateway.fails_of_enter barred⟩
    | _ => cases event
  · obtain ⟨done, guards, fails⟩ :=
      Gateway.fails_resume h.simulated job (h.its_own job (List.mem_of_getElem? at_place)) event failed
    rw [← desk_resume at_place] at guards fails
    exact ⟨some job, ⟨guards, place, at_place, jobs_resume_of_done at_place done⟩, fails⟩

theorem closes_of_provisioned (h : t.Sound) {move : Move Park} {request : CreateRequest} {provisioning : Provisioning}
    (shown : (step g move t).1 = some (.provisioned request provisioning))
    (failed : provisioning.result.success = false) :
    provisioning.started = none ∧ ∃ job, Closes job t (step g move t).2 ∧
      request.Fails g job t.desk.fleet provisioning.result (step g move t).2.desk.fleet := by
  obtain ⟨demand, rfl, event⟩ | ⟨place, job, rfl, at_place, event⟩ := stretch_of_event shown
  · rw [step_demand]
    have taken := g.accepted (φ := Flight) demand t.desk
    generalize (g.accept demand t.desk : Stretch Park Flight) = s at taken event ⊢
    cases taken with
    | unsupported request _ =>
      cases event
      exact ⟨rfl, none, ⟨rfl, List.append_nil t.jobs⟩, .undeclared t.desk.fleet⟩
    | _ => cases event
  · obtain ⟨unstarted, done, guards, fails⟩ :=
      Gateway.create_fails_resume h.simulated job (h.its_own job (List.mem_of_getElem? at_place)) event failed
    rw [← desk_resume at_place] at guards fails
    exact ⟨unstarted, some job, ⟨guards, place, at_place, jobs_resume_of_done at_place done⟩, fails⟩

/-- An action that is looked up and comes to its end, with nothing in between. -/
theorem looking_alone {desk : Desk Park} (h : desk.fleet.Simulated) (jobs : List (Job Flight))
    (request : ActionRequest) (machine : Machine) :
    ∃ earlier result after,
      run g [.resume jobs.length, .resume jobs.length] ⟨desk, jobs ++ [.looking request machine]⟩ =
        (earlier ++ [.acted request result], after) ∧
      (result.success = false → after.jobs = jobs ∧ after.desk.guards = desk.guards ∧
        request.FailsAlone g desk.fleet result after.desk.fleet) := by
  obtain ⟨found, answered, looked, guards⟩ := Gateway.looked_resume (g := g) h request machine
  have fails {result : ActionResult}
      (shown : (g.resume (.looking request machine) desk).event = some (.acted request result)) :=
    Gateway.fails_resume h (.looking request machine) nofun shown
  have gone := g.resumed (.looking request machine) desk
  simp only [run, resume_last]
  generalize g.resume (.looking request machine) desk = s at gone looked guards fails ⊢
  cases gone with
  | refused _ _ result refused =>
    simp only [Option.toList_none, List.append_nil, resume_beyond]
    refine ⟨[], result, _, rfl, fun failed => ⟨rfl, guards, .inr (.inl ⟨machine, (fails rfl failed).2.2⟩)⟩⟩
  | reached _ _ admitted =>
    obtain ⟨resource, _, shown, _⟩ := Gateway.checked_of_admitted admitted
    obtain rfl : found = some resource := Except.ok.inj (answered.symm.trans shown)
    have ends := Gateway.fails_resume (g := g) looked.alike.simulated
      (.acting request (g.call (Gateway.actionCall request) (Gateway.lookedUp request desk)).1.1)
      (fun flight sent => congrArg some (Gateway.call_of_flight Park.call_launch sent).symm) rfl
    simp only [Option.toList_some, resume_last]
    refine ⟨[.reached request], _, _, rfl, fun failed => ?_⟩
    obtain ⟨_, kept, failing⟩ := ends failed
    exact ⟨List.append_nil jobs, kept, .inr (.inr ⟨_, resource, _, looked, failing⟩)⟩

/-- An action that comes to its end, with nothing in between. -/
theorem dispatch_alone (h : t.Sound) (request : ActionRequest) :
    ∃ earlier result after,
      run g [.demand (.dispatch request), .resume t.jobs.length, .resume t.jobs.length] t =
        (earlier ++ [.acted request result], after) ∧
      (result.success = false → after.jobs = t.jobs ∧ after.desk.guards = t.desk.guards ∧
        request.FailsAlone g t.desk.fleet result after.desk.fleet) := by
  have taken := g.accepted (φ := Flight) (.dispatch request) t.desk
  rw [run, step_demand]
  generalize (g.accept (.dispatch request) t.desk : Stretch Park Flight) = s at taken ⊢
  cases taken with
  | barred request result barred =>
    simp only [Option.toList_none, List.append_nil, run, resume_beyond]
    exact ⟨[], result, _, rfl, fun _ => ⟨rfl, rfl, .inl (Gateway.fails_of_enter barred)⟩⟩
  | entered request machine _ => exact looking_alone h.simulated t.jobs request machine

/-- A request for a new resource that comes to its end, with nothing in between. -/
theorem create_alone (h : t.Sound) (request : CreateRequest) :
    ∃ provisioning after,
      run g [.demand (.create request), .resume t.jobs.length] t = ([.provisioned request provisioning], after) ∧
      (provisioning.result.success = false → after.jobs = t.jobs ∧ after.desk.guards = t.desk.guards ∧
        request.FailsAlone g t.desk.fleet provisioning.result after.desk.fleet) := by
  have taken := g.accepted (φ := Flight) (.create request) t.desk
  have still := (Gateway.desk_accept_request (g := g) h.simulated).2 request
  rw [run, step_demand]
  generalize (g.accept (.create request) t.desk : Stretch Park Flight) = s at taken still ⊢
  cases taken with
  | unsupported request _ =>
    simp only [Option.toList_none, List.append_nil, run, resume_beyond]
    exact ⟨_, _, rfl, fun _ => ⟨rfl, rfl, .inl (.undeclared t.desk.fleet)⟩⟩
  | sent request _ =>
    have ends := Gateway.create_fails_resume (g := g) h.simulated
      (.creating request (g.call (Gateway.createCall request) t.desk).1.1)
      (fun flight sent => congrArg some (Gateway.call_of_flight Park.call_launch sent).symm) rfl
    simp only at still
    rw [still]
    simp only [run, Option.toList_some, resume_last]
    refine ⟨_, _, rfl, fun failed => ?_⟩
    obtain ⟨_, done, kept, failing⟩ := ends failed
    rw [done]
    exact ⟨List.append_nil t.jobs, kept, .inr ⟨_, failing⟩⟩

/-- A request that is taken up leaves the desk as it is, and waits for its lookup or its call, if for anything. -/
theorem step_demand_request (h : t.Sound) :
    (∀ request, ∃ next : Option (Job Flight),
      (step g (.demand (.dispatch request)) t).2 = ⟨t.desk, t.jobs ++ next.toList⟩ ∧
        ∀ job ∈ next, ∃ machine, job = .looking request machine) ∧
    ∀ request, ∃ next : Option (Job Flight),
      (step g (.demand (.create request)) t).2 = ⟨t.desk, t.jobs ++ next.toList⟩ ∧
        ∀ job ∈ next, ∃ flight, job = .creating request flight := by
  obtain ⟨dispatched, created⟩ := Gateway.desk_accept_request (g := g) h.simulated
  refine ⟨fun request => ?_, fun request => ?_⟩
  · have still := dispatched request
    have taken := g.accepted (φ := Flight) (.dispatch request) t.desk
    rw [step_demand]
    generalize (g.accept (.dispatch request) t.desk : Stretch Park Flight) = s at taken still ⊢
    refine ⟨s.next, by rw [still], fun job next => ?_⟩
    cases taken <;> cases next
    exact ⟨_, rfl⟩
  · have still := created request
    have taken := g.accepted (φ := Flight) (.create request) t.desk
    rw [step_demand]
    generalize (g.accept (.create request) t.desk : Stretch Park Flight) = s at taken still ⊢
    refine ⟨s.next, by rw [still], fun job next => ?_⟩
    cases taken <;> cases next
    exact ⟨_, rfl⟩

/-- The lookup of an action moves its resource on at most, and the action waits for its call then, if for anything. -/
theorem step_looking (h : t.Sound) {place : Nat} {request : ActionRequest} {machine : Machine}
    (at_place : t.jobs[place]? = some (.looking request machine)) :
    ∃ found, ∃ next : Option (Job Flight), (t.desk.fleet.find request.key).1 = .ok found ∧
      t.desk.fleet.Looked request.key found (step g (.resume place) t).2.desk.fleet ∧
      (step g (.resume place) t).2.desk.guards = t.desk.guards ∧
      (step g (.resume place) t).2.jobs = t.jobs.take place ++ (next.toList ++ t.jobs.drop (place + 1)) ∧
      ∀ job ∈ next, ∃ flight, job = .acting request flight := by
  obtain ⟨found, answered, looked, guards⟩ := Gateway.looked_resume (g := g) h.simulated request machine
  rw [desk_resume at_place]
  simp only [step, at_place]
  refine ⟨found, _, answered, looked, guards, rfl, fun job next => ?_⟩
  have gone := g.resumed (.looking request machine) t.desk
  generalize g.resume (.looking request machine) t.desk = s at gone next
  cases gone <;> cases next
  exact ⟨_, rfl⟩

end

/-- **Failures leave the state as it was.** A gateway before simulated backends of any latency has come to some desk, with
some jobs that wait to go on.

1. When an action fails, or a request for a new resource, then nothing is left of it: the guards and all other jobs are
   those from before, and no convergence begins. Its last stretch has left the park in one of the ways that are listed for
   such failures: as it was, if a gate was barred or the call is given up; after the one look, if the resource was not
   found or does not allow the action; with all resources as they were and without the planned failure that it has met, if
   its call has failed.
2. Its stretches before that leave the guards as they are, and begin no convergence either. They leave the park as it is
   as well, but for the lookup of an action, which moves the resource that is shown on by one step.
3. So if nothing else happens between its demand and its end, which it always reaches, an action that fails has left what
   a single look makes of the resource at most, without the planned failure that it has met; and a request for a new
   resource that fails has left no more than the latter. -/
theorem failures_spare_state (g : Gateway) (t : Traffic Park Flight) (reached : Reached g t) :
    (∀ move request result, (step g move t).1 = some (.acted request result) → result.success = false →
      ∃ job, Closes job t (step g move t).2 ∧
        request.Fails g job t.desk.fleet result (step g move t).2.desk.fleet) ∧
    (∀ move request provisioning, (step g move t).1 = some (.provisioned request provisioning) →
      provisioning.result.success = false → provisioning.started = none ∧ ∃ job, Closes job t (step g move t).2 ∧
        request.Fails g job t.desk.fleet provisioning.result (step g move t).2.desk.fleet) ∧
    (∀ request, ∃ next : Option (Job Flight),
      (step g (.demand (.dispatch request)) t).2 = ⟨t.desk, t.jobs ++ next.toList⟩ ∧
        ∀ job ∈ next, ∃ machine, job = .looking request machine) ∧
    (∀ request, ∃ next : Option (Job Flight),
      (step g (.demand (.create request)) t).2 = ⟨t.desk, t.jobs ++ next.toList⟩ ∧
        ∀ job ∈ next, ∃ flight, job = .creating request flight) ∧
    (∀ place request machine, t.jobs[place]? = some (.looking request machine) →
      ∃ found, ∃ next : Option (Job Flight), (t.desk.fleet.find request.key).1 = .ok found ∧
        t.desk.fleet.Looked request.key found (step g (.resume place) t).2.desk.fleet ∧
        (step g (.resume place) t).2.desk.guards = t.desk.guards ∧
        (step g (.resume place) t).2.jobs = t.jobs.take place ++ (next.toList ++ t.jobs.drop (place + 1)) ∧
        ∀ job ∈ next, ∃ flight, job = .acting request flight) ∧
    (∀ request, ∃ earlier result after,
      run g [.demand (.dispatch request), .resume t.jobs.length, .resume t.jobs.length] t =
        (earlier ++ [.acted request result], after) ∧
      (result.success = false → after.jobs = t.jobs ∧ after.desk.guards = t.desk.guards ∧
        request.FailsAlone g t.desk.fleet result after.desk.fleet)) ∧
    ∀ request, ∃ provisioning after,
      run g [.demand (.create request), .resume t.jobs.length] t = ([.provisioned request provisioning], after) ∧
      (provisioning.result.success = false → after.jobs = t.jobs ∧ after.desk.guards = t.desk.guards ∧
        request.FailsAlone g t.desk.fleet provisioning.result after.desk.fleet) := by
  have sound := reached.sound
  have taken := step_demand_request (g := g) sound
  exact ⟨fun _ _ _ => closes_of_acted sound, fun _ _ _ => closes_of_provisioned sound, taken.1, taken.2,
    fun _ _ _ => step_looking sound, dispatch_alone sound, create_alone sound⟩

end Traffic

namespace Neighbours

open Traffic

/-- The morning, with a failure planned for the next stop of a server at the one backend. -/
def troubled : Traffic Park Flight :=
  (step gateway (.drift (inhabited.plan "east" "stop_instance" (.network "down"))) morning).2

theorem reached_troubled : Reached gateway troubled := by
  obtain ⟨desk, moves, simulated, drifts, same⟩ := reached_morning
  refine ⟨desk, moves ++ [.drift (inhabited.plan "east" "stop_instance" (.network "down"))], simulated, ?_, ?_⟩
  · intro fleet mem
    rcases List.mem_append.mp mem with old | new
    · exact drifts fleet old
    · cases List.mem_singleton.mp new
      exact simulated_inhabited.alike_plan.simulated
  · rw [run_concat, ← same]
    rfl

/-- The server there is to be stopped. -/
def stop : ActionRequest := ⟨"east", .server, "1", "stop", .none, .null⟩

/-- The stop of the server there fails, and the server runs on. The failure is gone then. -/
theorem stop_spared :
    ∃ earlier result after,
      run gateway [.demand (.dispatch stop), .resume 0, .resume 0] troubled = (earlier ++ [.acted stop result], after) ∧
      result.success = false ∧ after.jobs = [] ∧ after.desk.guards = troubled.desk.guards ∧
      stop.FailsAlone gateway troubled.desk.fleet result after.desk.fleet ∧
      after.desk.fleet.rawStatus? (server "east") = some "running" ∧
      after.desk.fleet.failure? "east" "stop_instance" = none := by
  obtain ⟨_, _, _, _, _, dispatches, _⟩ := failures_spare_state gateway troubled reached_troubled
  obtain ⟨earlier, result, after, ran, spared⟩ := dispatches stop
  rw [show troubled.jobs.length = 0 from rfl] at ran
  have told : (run gateway [.demand (.dispatch stop), .resume 0, .resume 0] troubled).1.all
      (fun | .acted _ result => !result.success | _ => true) = true := by decide +kernel
  have left : (run gateway [.demand (.dispatch stop), .resume 0, .resume 0] troubled).2.desk.fleet.rawStatus?
        (server "east") = some "running" ∧
      (run gateway [.demand (.dispatch stop), .resume 0, .resume 0] troubled).2.desk.fleet.failure? "east"
        "stop_instance" = none := by decide +kernel
  rw [ran] at told left
  have failed : result.success = false := by
    rw [List.all_append, Bool.and_eq_true] at told
    simpa using told.2
  obtain ⟨jobs, guards, fails⟩ := spared failed
  exact ⟨earlier, result, after, ran, failed, jobs, guards, fails, left⟩

end Neighbours

end CloudLifecycle
