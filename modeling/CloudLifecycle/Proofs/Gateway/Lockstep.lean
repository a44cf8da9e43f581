import CloudLifecycle.Proofs.Gateway.Jobs
import CloudLifecycle.Proofs.Gateway.Standing

/-!
# Lockstep

Work for one resource sees little of the desk on which it is done: the guard over that resource, and of the fleet only
what its backend declares, what lookups of the resource show, and how calls about it go. On two desks that agree in this
the work goes on in the same way, and leaves desks that agree in it again.

The fleets are compared by any relation that lookups, calls and declarations do not tell apart and keep (`Blind`). A call
that lands may meet more than the relation speaks of; what becomes of it is a hypothesis of the lemmas about jobs that
wait for one (`LandsAlike`, `resume_lockstep`).

What the work leaves to do is about its own resource again, and the guards over all others stay what they are
(`key_accept`, `key_resume`, `guard_accept`, `guard_resume`).
-/

namespace CloudLifecycle

variable {σ φ : Type} [Fleet σ φ]

/-- The resource that a demand is about. -/
def Demand.key? : Demand → Option ResourceKey
  | dispatch request => some request.key
  | create _ => none
  | converge key _ | currentState key | availableActions key | clearFailure key => some key

/-- A relation between fleets that work for one resource cannot tell apart, and which it keeps. -/
structure Blind (key : ResourceKey) (R : σ → σ → Prop) : Prop where
  declared : ∀ {f f' : σ}, R f f' → Fleet.capabilities f key.backend = Fleet.capabilities f' key.backend
  finds : ∀ {f f' : σ}, R f f' →
    (Fleet.find f key).1 = (Fleet.find f' key).1 ∧ R (Fleet.find f key).2 (Fleet.find f' key).2
  launches : ∀ {f f' : σ}, R f f' → ∀ call : Call, call.key? = some key →
    (Fleet.launch f call).1 = (Fleet.launch f' call).1 ∧ R (Fleet.launch f call).2 (Fleet.launch f' call).2

/-- Two desks agree on a resource: its guard is the same, and the fleets are related. -/
structure Desk.Agree (key : ResourceKey) (R : σ → σ → Prop) (d d' : Desk σ) : Prop where
  guard : d.guards.get? key = d'.guards.get? key
  fleet : R d.fleet d'.fleet

/-- Two stretches show the same, leave the same to do, and leave desks that agree. -/
structure Stretch.Agree (key : ResourceKey) (R : σ → σ → Prop) (s s' : Stretch σ φ) : Prop where
  event : s.event = s'.event
  next : s.next = s'.next
  desk : s.desk.Agree key R s'.desk

/-- A call on its way lands alike in two fleets. -/
def LandsAlike (R : σ → σ → Prop) (f f' : σ) (flight : φ) : Prop :=
  (Fleet.land f flight).1 = (Fleet.land f' flight).1 ∧ R (Fleet.land f flight).2 (Fleet.land f' flight).2

namespace Gateway

variable {g : Gateway} {key : ResourceKey} {R : σ → σ → Prop} {d d' : Desk σ}

theorem supports_lockstep (blind : Blind key R) {f f' : σ} (h : R f f') (operation : String) :
    Fleet.supports f key.backend operation = Fleet.supports f' key.backend operation := by
  unfold Fleet.supports
  rw [blind.declared h]

theorem observe_lockstep (blind : Blind key R) (h : d.Agree key R d') :
    (g.observe key d).1 = (g.observe key d').1 ∧ (g.observe key d).2.Agree key R (g.observe key d').2 := by
  obtain ⟨answer, after⟩ := blind.finds h.fleet
  unfold observe
  dsimp only
  rw [answer]
  exact ⟨rfl, h.guard, after⟩

theorem call_lockstep (blind : Blind key R) (h : d.Agree key R d') (call : Call) (about : call.key? = some key) :
    (g.call call d).1 = (g.call call d').1 ∧ (g.call call d).2.Agree key R (g.call call d').2 := by
  obtain ⟨sent, after⟩ := blind.launches h.fleet call about
  refine ⟨?_, h.guard, after⟩
  exact congrArg (fun sent : Duration × φ =>
    if sent.1 ≤ g.timeout then (some sent.2, sent.1) else (none, g.timeout)) sent

/-! ## Actions -/

theorem enter_lockstep (blind : Blind key R) {request : ActionRequest} (about : request.key = key) {f f' : σ}
    (h : R f f') : g.enter request f = g.enter request f' := by
  subst about
  unfold enter
  rw [show Fleet.supports f request.backend _ = _ from supports_lockstep blind h _]
  rfl

theorem presentState_congr {guards guards' : Guards} (same : guards.get? key = guards'.get? key) :
    g.presentState guards key = g.presentState guards' key := by
  funext raw
  rw [presentState, presentState, Guards.overlay, Guards.overlay, same]

theorem admission_congr {guards guards' : Guards} {machine : Machine} {request : ActionRequest}
    (about : request.key = key) (same : guards.get? key = guards'.get? key)
    (answer : BackendResult (Option Resource)) :
    g.admission guards machine request answer = g.admission guards' machine request answer := by
  subst about
  rcases answer with e | _ | resource
  · rfl
  · rfl
  · unfold admission
    rw [presentState_congr same]

theorem judge_lockstep (blind : Blind key R) (h : d.Agree key R d') {request : ActionRequest} (machine : Machine)
    (about : request.key = key) :
    (g.judge request machine d).1 = (g.judge request machine d').1 ∧
      (g.judge request machine d).2.Agree key R (g.judge request machine d').2 := by
  subst about
  obtain ⟨answer, after⟩ := blind.finds h.fleet
  have found : (lookedUp request d).Agree request.key R (lookedUp request d') := ⟨h.guard, after⟩
  have same : g.admission d.guards machine request (Fleet.find d.fleet request.key).1 =
      g.admission d'.guards machine request (Fleet.find d'.fleet request.key).1 := by
    rw [answer]
    exact admission_congr rfl h.guard _
  cases admitted : g.admission d'.guards machine request (Fleet.find d'.fleet request.key).1 with
  | refused result =>
    rw [judge_of_refused (same.trans admitted), judge_of_refused admitted]
    exact ⟨rfl, found⟩
  | admitted =>
    rw [judge_of_admitted (same.trans admitted), judge_of_admitted admitted]
    obtain ⟨sent, after⟩ := call_lockstep (g := g) blind found (actionCall request) rfl
    refine ⟨?_, after⟩
    exact congrArg (fun sent => Progress.waiting sent.1 sent.2) sent

theorem finishAction_lockstep (h : d.Agree key R d') (request : ActionRequest) {flight : Option φ}
    (lands : ∀ f, flight = some f → LandsAlike R d.fleet d'.fleet f) :
    (g.finishAction request flight d).1 = (g.finishAction request flight d').1 ∧
      (g.finishAction request flight d).2.Agree key R (g.finishAction request flight d').2 := by
  cases flight with
  | none => exact ⟨rfl, h⟩
  | some f =>
    obtain ⟨answer, after⟩ := lands f rfl
    unfold finishAction
    dsimp only
    rw [answer]
    exact ⟨rfl, h.guard, after⟩

/-! ## Convergences -/

theorem lift_lockstep (h : d.Agree key R d') (c : Convergence) (outcome : Outcome) :
    (lift c outcome d).1 = (lift c outcome d').1 ∧ (lift c outcome d).2.Agree key R (lift c outcome d').2 := by
  refine ⟨rfl, ?_, h.fleet⟩
  show (d.guards.clear c.key).2.get? key = (d'.guards.clear c.key).2.get? key
  rw [Guards.get?_clear, Guards.get?_clear, h.guard]

theorem fail_lockstep (h : d.Agree key R d') (c : Convergence) (reason : String) (outcome : Outcome) :
    (fail c reason outcome d).1 = (fail c reason outcome d').1 ∧
      (fail c reason outcome d).2.Agree key R (fail c reason outcome d').2 := by
  refine ⟨rfl, ?_, h.fleet⟩
  show (d.guards.fail c.key reason).get? key = (d'.guards.fail c.key reason).get? key
  rw [Guards.get?_fail, Guards.get?_fail, h.guard]

theorem settle_lockstep (blind : Blind key R) (h : d.Agree key R d') (c : Convergence) (about : c.key = key)
    (s : LifecycleState) :
    (g.settle c s d : Progress (Phase φ) Outcome × Desk σ).1 = (g.settle c s d').1 ∧
      (g.settle c s d : Progress (Phase φ) Outcome × Desk σ).2.Agree key R (g.settle c s d').2 := by
  subst about
  unfold settle
  rw [supports_lockstep blind h.fleet]
  split
  · obtain ⟨sent, after⟩ := call_lockstep (g := g) blind h (postCreateCall c) rfl
    refine ⟨?_, after⟩
    exact congrArg (fun sent => Progress.waiting (Phase.finishing c s sent.1) sent.2) sent
  · obtain ⟨_, after⟩ := lift_lockstep h c (.converged s)
    exact ⟨rfl, after⟩

theorem poll_lockstep (blind : Blind key R) (h : d.Agree key R d') (c : Convergence) (about : c.key = key) :
    (g.poll c d).1 = (g.poll c d').1 ∧ (g.poll c d).2.Agree key R (g.poll c d').2 := by
  subst about
  obtain ⟨answer, after⟩ := observe_lockstep (g := g) blind h
  unfold poll
  dsimp only
  rw [answer]
  split
  · next state _ =>
    obtain ⟨_, lifted⟩ := lift_lockstep after c (.removed state)
    exact ⟨rfl, lifted⟩
  · next state _ =>
    exact settle_lockstep blind after { c with attempts := c.attempts + 1, lastSeen := some state } rfl state
  · next lastSeen _ =>
    split
    · exact ⟨rfl, after⟩
    · obtain ⟨_, failed⟩ := fail_lockstep after { c with attempts := c.attempts + 1, lastSeen := lastSeen }
        (exhaustionReason g.plan.maxAttempts lastSeen) (.exhausted g.plan.maxAttempts lastSeen)
      exact ⟨rfl, failed⟩

theorem finishConvergence_lockstep (h : d.Agree key R d') (c : Convergence) (s : LifecycleState) {flight : Option φ}
    (lands : ∀ f, flight = some f → LandsAlike R d.fleet d'.fleet f) :
    (g.finishConvergence c s flight d).1 = (g.finishConvergence c s flight d').1 ∧
      (g.finishConvergence c s flight d).2.Agree key R (g.finishConvergence c s flight d').2 := by
  cases flight with
  | none => exact fail_lockstep h _ _ _
  | some f =>
    obtain ⟨answer, after⟩ := lands f rfl
    have landed : ({ d with fleet := (Fleet.land d.fleet f).2 } : Desk σ).Agree key R
        { d' with fleet := (Fleet.land d'.fleet f).2 } := ⟨h.guard, after⟩
    unfold finishConvergence
    dsimp only
    rw [answer]
    split
    · exact lift_lockstep landed _ _
    · exact fail_lockstep landed _ _ _

theorem advance_lockstep (blind : Blind key R) (h : d.Agree key R d') {phase : Phase φ}
    (about : phase.convergence.key = key)
    (lands : ∀ f, (Job.converging phase).flight? = some f → LandsAlike R d.fleet d'.fleet f) :
    (g.advance phase d).1 = (g.advance phase d').1 ∧ (g.advance phase d).2.Agree key R (g.advance phase d').2 := by
  cases phase with
  | polling c => exact poll_lockstep blind h c about
  | finishing c s flight =>
    obtain ⟨outcome, after⟩ := finishConvergence_lockstep (g := g) h c s lands
    exact ⟨congrArg Progress.done outcome, after⟩

/-! ## Stretches -/

theorem actionsIn_lockstep (blind : Blind key R) {f f' : σ} (h : R f f') : g.actionsIn f key = g.actionsIn f' key := by
  funext state
  simp only [actionsIn, supports_lockstep blind h]

/-- A demand about a resource is taken up alike on two desks that agree on it. -/
theorem accept_lockstep (blind : Blind key R) (h : d.Agree key R d') {demand : Demand} (about : demand.key? = some key) :
    (g.accept demand d : Stretch σ φ).Agree key R (g.accept demand d') := by
  cases demand with
  | dispatch request =>
    have key_eq : request.key = key := Option.some.inj about
    unfold accept
    dsimp only
    rw [enter_lockstep blind key_eq h.fleet]
    split <;> exact ⟨rfl, rfl, h⟩
  | create request => cases about
  | converge key' payload =>
    cases about
    by_cases held : d'.guards.get? key = some .converging
    · simp only [accept, claim_of_converging held, claim_of_converging (h.guard.trans held)]
      exact ⟨rfl, rfl, h⟩
    · have held' : d.guards.get? key ≠ some .converging := h.guard ▸ held
      simp only [accept, claim_of_free held, claim_of_free held']
      refine ⟨rfl, rfl, ?_, h.fleet⟩
      show (d.guards.begin key).2.get? key = (d'.guards.begin key).2.get? key
      rw [Guards.get?_begin, Guards.get?_begin, if_pos rfl, if_pos rfl]
  | currentState key' =>
    cases about
    have overlay : d.guards.overlay key = d'.guards.overlay key := congrArg (Option.map GuardEntry.state) h.guard
    unfold accept
    dsimp only
    rw [overlay]
    split <;> exact ⟨rfl, rfl, h⟩
  | availableActions key' =>
    cases about
    have overlay : d.guards.overlay key = d'.guards.overlay key := congrArg (Option.map GuardEntry.state) h.guard
    unfold accept
    dsimp only
    rw [overlay, actionsIn_lockstep blind h.fleet]
    split <;> exact ⟨rfl, rfl, h⟩
  | clearFailure key' =>
    cases about
    unfold accept clearFailure
    dsimp only
    rw [h.guard]
    split
    · refine ⟨rfl, rfl, ?_, h.fleet⟩
      show (d.guards.clear key).2.get? key = (d'.guards.clear key).2.get? key
      rw [Guards.get?_clear, Guards.get?_clear, if_pos rfl, if_pos rfl]
    · exact ⟨rfl, rfl, h⟩

/-- A job about a resource goes on alike on two desks that agree on it, if its call lands alike. -/
theorem resume_lockstep (blind : Blind key R) (h : d.Agree key R d') {job : Job φ} (about : job.key? = some key)
    (lands : ∀ f, job.flight? = some f → LandsAlike R d.fleet d'.fleet f) :
    (g.resume job d).Agree key R (g.resume job d') := by
  cases job with
  | looking request machine =>
    obtain ⟨judged, after⟩ := judge_lockstep (g := g) blind h machine (Option.some.inj about)
    rcases here : g.judge request machine d with ⟨progress, later⟩
    rcases there : g.judge request machine d' with ⟨progress', later'⟩
    rw [here, there] at judged after
    obtain rfl : progress = progress' := judged
    cases progress <;> simp only [resume, here, there] <;> exact ⟨rfl, rfl, after⟩
  | acting request flight =>
    obtain ⟨result, after⟩ := finishAction_lockstep (g := g) h request lands
    exact ⟨congrArg (fun result : ActionResult => some (Event.acted request result)) result, rfl, after⟩
  | creating request flight => cases about
  | converging phase =>
    obtain ⟨advanced, after⟩ := advance_lockstep (g := g) blind h (Option.some.inj about) lands
    rcases here : g.advance phase d with ⟨progress, later⟩
    rcases there : g.advance phase d' with ⟨progress', later'⟩
    rw [here, there] at advanced after
    obtain rfl : progress = progress' := advanced
    cases progress <;> simp only [resume, here, there] <;> exact ⟨rfl, rfl, after⟩
  | asking key' =>
    cases about
    obtain ⟨answer, after⟩ := observe_lockstep (g := g) blind h
    refine ⟨?_, rfl, after⟩
    exact congrArg (fun answer : BackendResult (Option LifecycleState) => some (Event.stated key answer)) answer
  | listing key' =>
    cases about
    obtain ⟨answer, after⟩ := observe_lockstep (g := g) blind h
    refine ⟨?_, rfl, after⟩
    have listed : g.actionsOf (g.observe key d).2.fleet key (g.observe key d).1 =
        g.actionsOf (g.observe key d').2.fleet key (g.observe key d').1 := by
      rw [answer]
      rcases (g.observe key d').1 with e | _ | state
      · rfl
      · rfl
      · exact congrArg (fun actions => Except.ok (actions state)) (actionsIn_lockstep blind after.fleet)
    exact congrArg (fun answer : BackendResult (List String) => some (Event.listed key answer)) listed

/-! ## What is left alone -/

theorem key_accept {demand : Demand} (about : demand.key? = some key) {job : Job φ}
    (next : (g.accept demand d : Stretch σ φ).next = some job) : job.key? = some key := by
  have taken := g.accepted (φ := φ) demand d
  generalize (g.accept demand d : Stretch σ φ) = s at taken next
  cases taken with
  | entered | claimed | asking | listing =>
    cases next
    exact about
  | sent => cases about
  | _ => cases next

theorem key_resume {job next : Job φ} (about : job.key? = some key) (left : (g.resume job d).next = some next) :
    next.key? = some key := by
  have gone := g.resumed job d
  generalize g.resume job d = s at gone left
  cases gone with
  | reached request machine _ =>
    cases left
    exact about
  | provisioned => cases about
  | going phase rest time later turn =>
    cases left
    have leaves := g.leaves_advance phase d
    rw [turn] at leaves
    exact (congrArg some leaves.1).trans about
  | _ => cases left

theorem guard_accept {demand : Demand} (about : demand.key? = some key) {other : ResourceKey} (ne : key ≠ other) :
    (g.accept demand d : Stretch σ φ).desk.guards.get? other = d.guards.get? other := by
  have taken := g.accepted (φ := φ) demand d
  generalize (g.accept demand d : Stretch σ φ) = s at taken ⊢
  cases taken with
  | claimed own _ _ =>
    cases about
    exact (d.guards.get?_begin key other).trans (if_neg ne)
  | forgotten own _ _ =>
    cases about
    exact (d.guards.get?_clear key other).trans (if_neg ne)
  | sent => cases about
  | _ => rfl

theorem guard_resume {job : Job φ} (about : job.key? = some key) {other : ResourceKey} (ne : key ≠ other) :
    (g.resume job d).desk.guards.get? other = d.guards.get? other := by
  have gone := g.resumed job d
  generalize g.resume job d = s at gone ⊢
  cases gone with
  | acted request flight => exact congrArg (·.get? other) (g.guards_finishAction request flight d)
  | provisioned => cases about
  | ended phase outcome later turn =>
    cases about
    have leaves := g.leaves_advance phase d
    rw [turn] at leaves
    exact (leaves other).trans (if_neg ne)
  | going phase rest time later turn =>
    have leaves := g.leaves_advance phase d
    rw [turn] at leaves
    exact congrArg (·.get? other) leaves.2
  | _ => rfl

/-- Nothing becomes of the fleet when a demand about a resource is taken up. -/
theorem fleet_accept_of_key {demand : Demand} (about : demand.key? = some key) :
    (g.accept demand d : Stretch σ φ).desk.fleet = d.fleet := by
  have taken := g.accepted (φ := φ) demand d
  generalize (g.accept demand d : Stretch σ φ) = s at taken ⊢
  cases taken with
  | sent => cases about
  | _ => rfl

end Gateway

/-- The call for which a job about a resource waits is about that resource. -/
theorem Job.key_call {job : Job φ} {key : ResourceKey} {call : Call} (about : job.key? = some key)
    (waits : job.call? = some call) : call.key? = some key := by
  cases job with
  | acting request flight =>
    cases waits
    exact about
  | creating => cases about
  | converging phase =>
    cases phase with
    | polling => cases waits
    | finishing c s flight =>
      cases waits
      exact about
  | looking | asking | listing => cases waits

end CloudLifecycle
