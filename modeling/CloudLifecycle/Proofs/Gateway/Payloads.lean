import CloudLifecycle.Proofs.Backend.Attributes
import CloudLifecycle.Proofs.Gateway.Parks
import Mathlib.Data.List.Forall2
import Mathlib.Order.SetNotation

/-!
# What becomes of payloads

A gateway hands the payloads of requests on and does not look at them. Whatever it says and keeps is the same for any
other payloads, as long as its fleet does not answer differently.

Two gateways at work on requests that differ in their payloads alone are compared move by move. Payloads are told apart
by any relation, and fleets by any relation that lookups, calls and declarations keep and whose answers are the same
(`Oblivious`). A call that lands may break the second relation; that it does not is a hypothesis of the lemmas about jobs
that wait for one.
-/

namespace CloudLifecycle

variable {σ φ : Type}

/-! ## The same but for payloads -/

section

variable (W : Payload → Payload → Prop) (F : φ → φ → Prop)

structure Call.Alike (call call' : Call) : Prop where
  backend : call.backend = call'.backend
  operation : call.operation = call'.operation
  resource : call.resource = call'.resource
  payload : W call.payload call'.payload

structure ActionRequest.Alike (request request' : ActionRequest) : Prop where
  backend : request.backend = request'.backend
  kind : request.kind = request'.kind
  resourceId : request.resourceId = request'.resourceId
  action : request.action = request'.action
  payload : W request.payload request'.payload

structure CreateRequest.Alike (request request' : CreateRequest) : Prop where
  backend : request.backend = request'.backend
  kind : request.kind = request'.kind
  payload : W request.payload request'.payload

structure Convergence.Alike (c c' : Convergence) : Prop where
  key : c.key = c'.key
  attempts : c.attempts = c'.attempts
  lastSeen : c.lastSeen = c'.lastSeen
  payload : W c.payload c'.payload

inductive Phase.Alike : Phase φ → Phase φ → Prop where
  | polling {c c' : Convergence} (same : c.Alike W c') : Alike (.polling c) (.polling c')
  | finishing {c c' : Convergence} (same : c.Alike W c') (s : LifecycleState) {flight flight' : Option φ}
      (flights : Option.Rel F flight flight') : Alike (.finishing c s flight) (.finishing c' s flight')

inductive Job.Alike : Job φ → Job φ → Prop where
  | looking {request request' : ActionRequest} (same : request.Alike W request') (machine : Machine) :
      Alike (.looking request machine) (.looking request' machine)
  | acting {request request' : ActionRequest} (same : request.Alike W request') {flight flight' : Option φ}
      (flights : Option.Rel F flight flight') : Alike (.acting request flight) (.acting request' flight')
  | creating {request request' : CreateRequest} (same : request.Alike W request') {flight flight' : Option φ}
      (flights : Option.Rel F flight flight') : Alike (.creating request flight) (.creating request' flight')
  | converging {phase phase' : Phase φ} (same : phase.Alike W F phase') :
      Alike (.converging phase) (.converging phase')
  | asking (key : ResourceKey) : Alike (.asking key) (.asking key)
  | listing (key : ResourceKey) : Alike (.listing key) (.listing key)

inductive Demand.Alike : Demand → Demand → Prop where
  | dispatch {request request' : ActionRequest} (same : request.Alike W request') :
      Alike (.dispatch request) (.dispatch request')
  | create {request request' : CreateRequest} (same : request.Alike W request') :
      Alike (.create request) (.create request')
  | converge (key : ResourceKey) {payload payload' : Payload} (same : W payload payload') :
      Alike (.converge key payload) (.converge key payload')
  | currentState (key : ResourceKey) : Alike (.currentState key) (.currentState key)
  | availableActions (key : ResourceKey) : Alike (.availableActions key) (.availableActions key)
  | clearFailure (key : ResourceKey) : Alike (.clearFailure key) (.clearFailure key)

/-- What others see of two requests that are alike: the same results, outcomes and answers. -/
inductive Event.Alike : Event → Event → Prop where
  | reached {request request' : ActionRequest} (same : request.Alike W request') :
      Alike (.reached request) (.reached request')
  | acted {request request' : ActionRequest} (same : request.Alike W request') (result : ActionResult) :
      Alike (.acted request result) (.acted request' result)
  | provisioned {request request' : CreateRequest} (same : request.Alike W request') (result : ActionResult)
      {started started' : Option Convergence} (starts : Option.Rel (Convergence.Alike W) started started') :
      Alike (.provisioned request ⟨result, started⟩) (.provisioned request' ⟨result, started'⟩)
  | claimed (key : ResourceKey) : Alike (.claimed key) (.claimed key)
  | refused (key : ResourceKey) : Alike (.refused key) (.refused key)
  | ended (key : ResourceKey) (outcome : Outcome) : Alike (.ended key outcome) (.ended key outcome)
  | stated (key : ResourceKey) (answer : BackendResult (Option LifecycleState)) :
      Alike (.stated key answer) (.stated key answer)
  | listed (key : ResourceKey) (answer : BackendResult (List String)) : Alike (.listed key answer) (.listed key answer)
  | cleared (key : ResourceKey) (lifted : Bool) : Alike (.cleared key lifted) (.cleared key lifted)

/-- A step that ends with what is alike, or waits for as long with what is alike. -/
inductive Progress.Alike {ω α : Type} (Ω : ω → ω → Prop) (A : α → α → Prop) : Progress ω α → Progress ω α → Prop where
  | done {a a' : α} (same : A a a') : Alike Ω A (.done a) (.done a')
  | waiting {rest rest' : ω} (same : Ω rest rest') {time time' : Duration} (lasts : time = time') :
      Alike Ω A (.waiting rest time) (.waiting rest' time')

end

section

variable (W : Payload → Payload → Prop) (R : σ → σ → Prop) (F : φ → φ → Prop)

/-- Two desks with the same guards and fleets that are related. -/
structure Desk.Alike (d d' : Desk σ) : Prop where
  guards : d.guards = d'.guards
  fleet : R d.fleet d'.fleet

structure Stretch.Alike (s s' : Stretch σ φ) : Prop where
  event : Option.Rel (Event.Alike W) s.event s'.event
  next : Option.Rel (Job.Alike W F) s.next s'.next
  desk : s.desk.Alike R s'.desk

structure Traffic.Alike (t t' : Traffic σ φ) : Prop where
  desk : t.desk.Alike R t'.desk
  jobs : List.Forall₂ (Job.Alike W F) t.jobs t'.jobs

/-- Moves that are alike; what the backends do by themselves leaves fleets that are related. -/
inductive Move.Alike : Move σ → Move σ → Prop where
  | demand {demand demand' : Demand} (same : demand.Alike W demand') : Alike (.demand demand) (.demand demand')
  | resume (place : Nat) : Alike (.resume place) (.resume place)
  | abandon (place : Nat) : Alike (.abandon place) (.abandon place)
  | drift {fleet fleet' : σ} (same : R fleet fleet') : Alike (.drift fleet) (.drift fleet')

/-- A relation between fleets that are not told apart by what they answer, whatever payloads they are sent, and which
lookups and calls that are sent off keep. -/
structure Oblivious [Fleet σ φ] : Prop where
  declared : ∀ {f f' : σ}, R f f' → ∀ backend, Fleet.capabilities f backend = Fleet.capabilities f' backend
  finds : ∀ {f f' : σ}, R f f' → ∀ key,
    (Fleet.find f key).1.map (Option.map Resource.bare) = (Fleet.find f' key).1.map (Option.map Resource.bare) ∧
      R (Fleet.find f key).2 (Fleet.find f' key).2
  launches : ∀ {f f' : σ}, R f f' → ∀ {call call' : Call}, call.Alike W call' →
    (Fleet.launch f call).1.1 = (Fleet.launch f' call').1.1 ∧
      F (Fleet.launch f call).1.2 (Fleet.launch f' call').1.2 ∧ R (Fleet.launch f call).2 (Fleet.launch f' call').2
  lands : ∀ {f f' : σ}, R f f' → ∀ {flight flight' : φ}, F flight flight' →
    (Fleet.land f flight).1 = (Fleet.land f' flight').1

end

/-- Two answers that are the same but for attributes are the same, or show resources that are. -/
theorem answer_cases {answer answer' : BackendResult (Option Resource)}
    (same : answer.map (Option.map Resource.bare) = answer'.map (Option.map Resource.bare)) :
    (∃ e, answer = .error e ∧ answer' = .error e) ∨ (answer = .ok none ∧ answer' = .ok none) ∨
      ∃ r r', answer = .ok (some r) ∧ answer' = .ok (some r') ∧ r.bare = r'.bare := by
  rcases answer with e | _ | r <;> rcases answer' with e' | _ | r' <;> simp_all [Except.map]

section

variable {W : Payload → Payload → Prop} {request request' : ActionRequest}

theorem ActionRequest.Alike.key (same : request.Alike W request') : request.key = request'.key := by
  simp only [ActionRequest.key, same.backend, same.kind, same.resourceId]

theorem ActionRequest.Alike.operation (same : request.Alike W request') : request.operation = request'.operation := by
  simp only [ActionRequest.operation, same.kind, same.action]

theorem ActionRequest.Alike.call (same : request.Alike W request') :
    (Gateway.actionCall request).Alike W (Gateway.actionCall request') :=
  ⟨same.backend, same.operation, congrArg some same.resourceId, same.payload⟩

theorem CreateRequest.Alike.operation {request request' : CreateRequest} (same : request.Alike W request') :
    request.operation = request'.operation :=
  congrArg Operation.create same.kind

theorem CreateRequest.Alike.call {request request' : CreateRequest} (same : request.Alike W request') :
    (Gateway.createCall request).Alike W (Gateway.createCall request') :=
  ⟨same.backend, same.operation, rfl, same.payload⟩

theorem Convergence.Alike.call {c c' : Convergence} (same : c.Alike W c') :
    (Gateway.postCreateCall c).Alike W (Gateway.postCreateCall c') := by
  refine ⟨?_, ?_, ?_, same.payload⟩ <;> simp only [Gateway.postCreateCall, same.key]

theorem Convergence.alike_begin (key : ResourceKey) {payload payload' : Payload} (same : W payload payload') :
    (Convergence.begin key payload).Alike W (.begin key payload') := ⟨rfl, rfl, rfl, same⟩

end

namespace Gateway

section

variable [Fleet σ φ] {W : Payload → Payload → Prop} {R : σ → σ → Prop} {F : φ → φ → Prop} {g : Gateway} {d d' : Desk σ}

theorem supports_alike (oblivious : Oblivious W R F) {f f' : σ} (h : R f f') (backend operation : String) :
    Fleet.supports f backend operation = Fleet.supports f' backend operation := by
  unfold Fleet.supports
  rw [oblivious.declared h]

theorem observe_alike (oblivious : Oblivious W R F) (h : d.Alike R d') (key : ResourceKey) :
    (g.observe key d).1 = (g.observe key d').1 ∧ (g.observe key d).2.Alike R (g.observe key d').2 := by
  obtain ⟨shown, after⟩ := oblivious.finds h.fleet key
  refine ⟨?_, h.guards, after⟩
  unfold observe
  dsimp only
  obtain ⟨e, answer, answer'⟩ | ⟨answer, answer'⟩ | ⟨r, r', answer, answer', bare⟩ := answer_cases shown
  · rw [answer, answer']
  · rw [answer, answer']
  · rw [answer, answer']
    simp only [Except.map, Option.map_some, Resource.rawStatus_of_bare bare]

theorem call_alike (oblivious : Oblivious W R F) (h : d.Alike R d') {call call' : Call} (same : call.Alike W call') :
    Option.Rel F (g.call call d).1.1 (g.call call' d').1.1 ∧ (g.call call d).1.2 = (g.call call' d').1.2 ∧
      (g.call call d).2.Alike R (g.call call' d').2 := by
  obtain ⟨time, flight, after⟩ := oblivious.launches h.fleet same
  unfold Gateway.call
  dsimp only
  rw [time]
  split
  · exact ⟨.some flight, rfl, h.guards, after⟩
  · exact ⟨.none, rfl, h.guards, after⟩

/-! ## Actions -/

variable {request request' : ActionRequest}

theorem enter_alike (oblivious : Oblivious W R F) {f f' : σ} (h : R f f') (same : request.Alike W request') :
    g.enter request f = g.enter request' f' := by
  unfold enter
  rw [supports_alike oblivious h, same.backend, same.operation, same.kind]

theorem admission_alike (guards : Guards) (machine : Machine) (same : request.Alike W request')
    {answer answer' : BackendResult (Option Resource)}
    (shown : answer.map (Option.map Resource.bare) = answer'.map (Option.map Resource.bare)) :
    g.admission guards machine request answer = g.admission guards machine request' answer' := by
  unfold admission
  obtain ⟨e, rfl, rfl⟩ | ⟨rfl, rfl⟩ | ⟨r, r', rfl, rfl, bare⟩ := answer_cases shown
  · rfl
  · rw [same.kind, same.resourceId]
  · dsimp only
    rw [same.key, same.action, same.resourceId, Resource.rawStatus_of_bare bare]

/-- The resource of two requests that are alike is found alike. -/
theorem lookedUp_alike (oblivious : Oblivious W R F) (h : d.Alike R d') (same : request.Alike W request') :
    (Fleet.find d.fleet request.key).1.map (Option.map Resource.bare) =
        (Fleet.find d'.fleet request'.key).1.map (Option.map Resource.bare) ∧
      (lookedUp request d).Alike R (lookedUp request' d') := by
  unfold lookedUp
  rw [← same.key]
  obtain ⟨shown, after⟩ := oblivious.finds h.fleet request.key
  exact ⟨shown, h.guards, after⟩

theorem judge_alike (oblivious : Oblivious W R F) (h : d.Alike R d') (machine : Machine)
    (same : request.Alike W request') :
    Progress.Alike (Option.Rel F) (· = ·) (g.judge request machine d).1 (g.judge request' machine d').1 ∧
      (g.judge request machine d).2.Alike R (g.judge request' machine d').2 := by
  obtain ⟨shown, found⟩ := lookedUp_alike oblivious h same
  have admission : g.admission d.guards machine request (Fleet.find d.fleet request.key).1 =
      g.admission d'.guards machine request' (Fleet.find d'.fleet request'.key).1 := by
    rw [← h.guards]
    exact admission_alike d.guards machine same shown
  cases admitted : g.admission d'.guards machine request' (Fleet.find d'.fleet request'.key).1 with
  | refused result =>
    rw [judge_of_refused (admission.trans admitted), judge_of_refused admitted]
    exact ⟨.done rfl, found⟩
  | admitted =>
    rw [judge_of_admitted (admission.trans admitted), judge_of_admitted admitted]
    obtain ⟨flights, time, after⟩ := call_alike (g := g) oblivious found same.call
    exact ⟨.waiting flights time, after⟩

theorem finishAction_alike (oblivious : Oblivious W R F) (h : d.Alike R d') (same : request.Alike W request')
    {flight flight' : Option φ} (flights : Option.Rel F flight flight')
    (lands : ∀ f f', flight = some f → flight' = some f' → R (Fleet.land d.fleet f).2 (Fleet.land d'.fleet f').2) :
    (g.finishAction request flight d).1 = (g.finishAction request' flight' d').1 ∧
      (g.finishAction request flight d).2.Alike R (g.finishAction request' flight' d').2 := by
  cases flights with
  | none =>
    refine ⟨?_, h⟩
    simp only [finishAction, same.operation, same.resourceId]
  | @some f f' flights =>
    refine ⟨?_, h.guards, lands f f' rfl rfl⟩
    simp only [finishAction, oblivious.lands h.fleet flights, actionResult, same.resourceId, same.backend]

/-! ## New resources -/

theorem finishCreate_alike (oblivious : Oblivious W R F) (h : d.Alike R d') {request request' : CreateRequest}
    (same : request.Alike W request') {flight flight' : Option φ} (flights : Option.Rel F flight flight')
    (lands : ∀ f f', flight = some f → flight' = some f' → R (Fleet.land d.fleet f).2 (Fleet.land d'.fleet f').2) :
    (g.finishCreate request flight d).1.result = (g.finishCreate request' flight' d').1.result ∧
      Option.Rel (Convergence.Alike W) (g.finishCreate request flight d).1.started
        (g.finishCreate request' flight' d').1.started ∧
      (g.finishCreate request flight d).2.Alike R (g.finishCreate request' flight' d').2 := by
  cases flights with
  | none =>
    refine ⟨?_, .none, h⟩
    simp only [finishCreate, same.operation]
  | @some f f' flights =>
    have after := lands f f' rfl rfl
    have answers := oblivious.lands h.fleet flights
    unfold finishCreate
    dsimp only
    rw [answers]
    split
    · next receipt _ =>
      rw [← same.backend, ← same.kind, ← h.guards]
      exact ⟨rfl, .some (Convergence.alike_begin _ same.payload), rfl, after⟩
    · exact ⟨rfl, .none, h.guards, after⟩

/-! ## Convergences -/

variable {c c' : Convergence}

theorem lift_alike (h : d.Alike R d') (same : c.Alike W c') (outcome : Outcome) :
    (lift c outcome d).1 = (lift c' outcome d').1 ∧ (lift c outcome d).2.Alike R (lift c' outcome d').2 := by
  refine ⟨rfl, ?_, h.fleet⟩
  simp only [lift, h.guards, same.key]

theorem fail_alike (h : d.Alike R d') (same : c.Alike W c') (reason : String) (outcome : Outcome) :
    (fail c reason outcome d).1 = (fail c' reason outcome d').1 ∧
      (fail c reason outcome d).2.Alike R (fail c' reason outcome d').2 := by
  refine ⟨rfl, ?_, h.fleet⟩
  simp only [fail, h.guards, same.key]

theorem settle_alike (oblivious : Oblivious W R F) (h : d.Alike R d') (same : c.Alike W c') (s : LifecycleState) :
    Progress.Alike (Phase.Alike W F) (· = ·) (g.settle c s d : Progress (Phase φ) Outcome × Desk σ).1
        (g.settle c' s d').1 ∧
      (g.settle c s d : Progress (Phase φ) Outcome × Desk σ).2.Alike R (g.settle c' s d').2 := by
  unfold settle
  rw [supports_alike oblivious h.fleet, same.key]
  split
  · obtain ⟨flights, time, after⟩ := call_alike (g := g) oblivious h same.call
    exact ⟨.waiting (.finishing same s flights) time, after⟩
  · obtain ⟨_, lifted⟩ := lift_alike h same (.converged s)
    exact ⟨.done rfl, lifted⟩

theorem poll_alike (oblivious : Oblivious W R F) (h : d.Alike R d') (same : c.Alike W c') :
    Progress.Alike (Phase.Alike W F) (· = ·) (g.poll c d).1 (g.poll c' d').1 ∧
      (g.poll c d).2.Alike R (g.poll c' d').2 := by
  obtain ⟨key, payload, attempts, lastSeen⟩ := c
  obtain ⟨key', payload', attempts', lastSeen'⟩ := c'
  obtain ⟨rfl, rfl, rfl, same⟩ := same
  obtain ⟨seen, after⟩ := observe_alike (g := g) oblivious h key
  have later (attempts : Nat) (lastSeen : Option LifecycleState) :
      Convergence.Alike W ⟨key, payload, attempts, lastSeen⟩ ⟨key, payload', attempts, lastSeen⟩ := ⟨rfl, rfl, rfl, same⟩
  unfold poll
  dsimp only
  rw [seen]
  split
  · next state _ =>
    obtain ⟨_, lifted⟩ := lift_alike after (later attempts lastSeen) (.removed state)
    exact ⟨.done rfl, lifted⟩
  · next state _ => exact settle_alike oblivious after (later (attempts + 1) (some state)) state
  · next lastSeen _ =>
    split
    · exact ⟨.waiting (.polling (later (attempts + 1) lastSeen)) rfl, after⟩
    · obtain ⟨_, failed⟩ := fail_alike after (later (attempts + 1) lastSeen)
        (exhaustionReason g.plan.maxAttempts lastSeen) (.exhausted g.plan.maxAttempts lastSeen)
      exact ⟨.done rfl, failed⟩

theorem finishConvergence_alike (oblivious : Oblivious W R F) (h : d.Alike R d') (same : c.Alike W c')
    (s : LifecycleState) {flight flight' : Option φ} (flights : Option.Rel F flight flight')
    (lands : ∀ f f', flight = some f → flight' = some f' → R (Fleet.land d.fleet f).2 (Fleet.land d'.fleet f').2) :
    (g.finishConvergence c s flight d).1 = (g.finishConvergence c' s flight' d').1 ∧
      (g.finishConvergence c s flight d).2.Alike R (g.finishConvergence c' s flight' d').2 := by
  cases flights with
  | none =>
    simp only [finishConvergence, same.key]
    exact fail_alike h same _ _
  | @some f f' flights =>
    have landed : ({ d with fleet := (Fleet.land d.fleet f).2 } : Desk σ).Alike R
        { d' with fleet := (Fleet.land d'.fleet f').2 } := ⟨h.guards, lands f f' rfl rfl⟩
    unfold finishConvergence
    dsimp only
    rw [oblivious.lands h.fleet flights, same.key]
    split
    · exact lift_alike landed same _
    · exact fail_alike landed same _ _

theorem advance_alike (oblivious : Oblivious W R F) (h : d.Alike R d') {phase phase' : Phase φ}
    (same : phase.Alike W F phase')
    (lands : ∀ f f', (Job.converging phase).flight? = some f → (Job.converging phase').flight? = some f' →
      R (Fleet.land d.fleet f).2 (Fleet.land d'.fleet f').2) :
    Progress.Alike (Phase.Alike W F) (· = ·) (g.advance phase d).1 (g.advance phase' d').1 ∧
      (g.advance phase d).2.Alike R (g.advance phase' d').2 := by
  cases same with
  | polling same => exact poll_alike oblivious h same
  | finishing same s flights =>
    obtain ⟨outcome, after⟩ := finishConvergence_alike (g := g) oblivious h same s flights lands
    exact ⟨.done outcome, after⟩

/-! ## Stretches -/

theorem actionsIn_alike (oblivious : Oblivious W R F) {f f' : σ} (h : R f f') : g.actionsIn f = g.actionsIn f' := by
  funext key state
  simp only [actionsIn, supports_alike oblivious h]

/-- Two demands that are alike are taken up alike. -/
theorem accept_alike (oblivious : Oblivious W R F) (h : d.Alike R d') {demand demand' : Demand}
    (same : demand.Alike W demand') :
    (g.accept demand d : Stretch σ φ).Alike W R F (g.accept demand' d') := by
  cases same with
  | @dispatch request request' same =>
    unfold accept
    dsimp only
    rw [enter_alike oblivious h.fleet same]
    split
    · exact ⟨.some (.acted same _), .none, h⟩
    · exact ⟨.none, .some (.looking same _), h⟩
  | @create request request' same =>
    have called := call_alike (g := g) oblivious h same.call
    unfold accept create
    dsimp only
    rw [supports_alike oblivious h.fleet, same.backend, same.operation]
    by_cases declared : Fleet.supports d'.fleet request'.backend request'.operation.name = true
    · simp only [declared, if_true]
      exact ⟨.none, .some (.creating same called.1), called.2.2⟩
    · simp only [declared]
      exact ⟨.some (.provisioned same _ .none), .none, h⟩
  | converge key same =>
    by_cases held : d.guards.get? key = some .converging
    · have held' : d'.guards.get? key = some .converging := h.guards ▸ held
      simp only [accept, claim_of_converging held, claim_of_converging held']
      exact ⟨.some (.refused key), .none, h⟩
    · have held' : d'.guards.get? key ≠ some .converging := h.guards ▸ held
      simp only [accept, claim_of_free held, claim_of_free held']
      exact ⟨.some (.claimed key), .some (.converging (.polling (Convergence.alike_begin key same))),
        congrArg (fun guards : Guards => (guards.begin key).2) h.guards, h.fleet⟩
  | currentState key =>
    unfold accept
    dsimp only
    rw [h.guards]
    split
    · exact ⟨.some (.stated key _), .none, h⟩
    · exact ⟨.none, .some (.asking key), h⟩
  | availableActions key =>
    unfold accept
    dsimp only
    rw [h.guards, actionsIn_alike oblivious h.fleet]
    split
    · exact ⟨.some (.listed key _), .none, h⟩
    · exact ⟨.none, .some (.listing key), h⟩
  | clearFailure key =>
    unfold accept clearFailure
    dsimp only
    rw [h.guards]
    split
    · exact ⟨.some (.cleared key true), .none, rfl, h.fleet⟩
    · exact ⟨.some (.cleared key false), .none, h⟩

/-- Two jobs that are alike go on alike, if the fleets stay related where calls land. -/
theorem resume_alike (oblivious : Oblivious W R F) (h : d.Alike R d') {job job' : Job φ} (same : job.Alike W F job')
    (lands : ∀ f f', job.flight? = some f → job'.flight? = some f' →
      R (Fleet.land d.fleet f).2 (Fleet.land d'.fleet f').2) :
    (g.resume job d).Alike W R F (g.resume job' d') := by
  cases same with
  | @looking request request' same machine =>
    obtain ⟨judged, after⟩ := judge_alike (g := g) oblivious h machine same
    rcases here : g.judge request machine d with ⟨progress, later⟩
    rcases there : g.judge request' machine d' with ⟨progress', later'⟩
    rw [here, there] at judged after
    simp only [resume, here, there]
    cases judged with
    | done result =>
      cases result
      exact ⟨.some (.acted same _), .none, after⟩
    | waiting flights _ => exact ⟨.some (.reached same), .some (.acting same flights), after⟩
  | acting same flights =>
    obtain ⟨result, after⟩ := finishAction_alike (g := g) oblivious h same flights lands
    unfold resume
    dsimp only
    rw [result]
    exact ⟨.some (.acted same _), .none, after⟩
  | @creating request request' same flight flight' flights =>
    obtain ⟨result, starts, after⟩ := finishCreate_alike (g := g) oblivious h same flights lands
    rcases here : g.finishCreate request flight d with ⟨⟨_, started⟩, later⟩
    rcases there : g.finishCreate request' flight' d' with ⟨⟨_, started'⟩, later'⟩
    rw [here, there] at result starts after
    cases result
    simp only [resume, here, there]
    refine ⟨.some (.provisioned same _ starts), ?_, after⟩
    cases starts with
    | none => exact .none
    | some starts => exact .some (.converging (.polling starts))
  | @converging phase phase' same =>
    have key : phase.convergence.key = phase'.convergence.key := by
      cases same with
      | polling same | finishing same _ _ => exact same.key
    obtain ⟨advanced, after⟩ := advance_alike (g := g) oblivious h same lands
    rcases here : g.advance phase d with ⟨progress, later⟩
    rcases there : g.advance phase' d' with ⟨progress', later'⟩
    rw [here, there] at advanced after
    simp only [resume, here, there, key]
    cases advanced with
    | done outcome =>
      cases outcome
      exact ⟨.some (.ended _ _), .none, after⟩
    | waiting rest _ => exact ⟨.none, .some (.converging rest), after⟩
  | asking key =>
    obtain ⟨seen, after⟩ := observe_alike (g := g) oblivious h key
    unfold resume
    dsimp only
    rw [seen]
    exact ⟨.some (.stated key _), .none, after⟩
  | listing key =>
    obtain ⟨seen, after⟩ := observe_alike (g := g) oblivious h key
    unfold resume actionsOf
    dsimp only
    rw [seen, actionsIn_alike oblivious after.fleet]
    exact ⟨.some (.listed key _), .none, after⟩

end

end Gateway

/-! ## Moves -/

namespace Traffic

variable [Fleet σ φ] {W : Payload → Payload → Prop} {R : σ → σ → Prop} {F : φ → φ → Prop} {g : Gateway}
  {t t' : Traffic σ φ}

theorem rel_getElem? {α β : Type} {r : α → β → Prop} {xs : List α} {ys : List β} (h : List.Forall₂ r xs ys) (n : Nat) :
    Option.Rel r xs[n]? ys[n]? := by
  induction h generalizing n with
  | nil => exact .none
  | cons same _ ih =>
    cases n with
    | zero => exact .some same
    | succ n => exact ih n

theorem forall₂_toList {α β : Type} {r : α → β → Prop} {a : Option α} {b : Option β} (h : Option.Rel r a b) :
    List.Forall₂ r a.toList b.toList := by
  cases h with
  | none => exact .nil
  | some same => exact .cons same .nil

/-- A job that is abandoned leaves the others in their places. -/
theorem forall₂_eraseIdx {α β : Type} {r : α → β → Prop} {xs : List α} {ys : List β} (h : List.Forall₂ r xs ys)
    (n : Nat) : List.Forall₂ r (xs.eraseIdx n) (ys.eraseIdx n) := by
  rw [List.eraseIdx_eq_take_drop_succ, List.eraseIdx_eq_take_drop_succ]
  exact List.rel_append (List.forall₂_take n h) (List.forall₂_drop (n + 1) h)

/-- A move shows what is alike and leaves what is alike, if the fleets stay related where calls land. -/
theorem Alike.step (h : t.Alike W R F t') (oblivious : Oblivious W R F) {move move' : Move σ}
    (same : move.Alike W R move')
    (lands : ∀ place job job' f f', move = .resume place → t.jobs[place]? = some job → t'.jobs[place]? = some job' →
      job.flight? = some f → job'.flight? = some f' → R (Fleet.land t.desk.fleet f).2 (Fleet.land t'.desk.fleet f').2) :
    Option.Rel (Event.Alike W) (step g move t).1 (step g move' t').1 ∧
      (step g move t).2.Alike W R F (step g move' t').2 := by
  cases same with
  | @demand demand demand' same =>
    have taken := Gateway.accept_alike (g := g) oblivious h.desk same
    exact ⟨taken.event, taken.desk, List.rel_append h.jobs (forall₂_toList taken.next)⟩
  | resume place =>
    have jobs := rel_getElem? h.jobs place
    generalize there : t.jobs[place]? = job, there' : t'.jobs[place]? = job' at jobs
    cases jobs with
    | none =>
      simp only [Traffic.step, there, there']
      exact ⟨.none, h⟩
    | @some job job' same =>
      have gone := Gateway.resume_alike (g := g) oblivious h.desk same
        fun f f' => lands place job job' f f' rfl there there'
      simp only [Traffic.step, there, there']
      refine ⟨gone.event, gone.desk, ?_⟩
      exact List.rel_append (List.forall₂_take place h.jobs)
        (List.rel_append (forall₂_toList gone.next) (List.forall₂_drop (place + 1) h.jobs))
  | abandon place =>
    have jobs := rel_getElem? h.jobs place
    have left : Alike W R F ⟨t.desk, t.jobs.eraseIdx place⟩ ⟨t'.desk, t'.jobs.eraseIdx place⟩ :=
      ⟨h.desk, forall₂_eraseIdx h.jobs place⟩
    unfold Traffic.step
    dsimp only
    generalize t.jobs[place]? = job, t'.jobs[place]? = job' at jobs ⊢
    cases jobs with
    | none => exact ⟨.none, h⟩
    | some same => cases same <;> first | exact ⟨.none, left⟩ | exact ⟨.none, h⟩
  | drift same => exact ⟨.none, ⟨h.desk.guards, same⟩, h.jobs⟩

end Traffic

end CloudLifecycle
