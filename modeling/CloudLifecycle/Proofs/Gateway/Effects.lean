import CloudLifecycle.Proofs.Gateway.Gates
import CloudLifecycle.Proofs.Gateway.Moves

/-!
# Honest results

A caller decides by the result of a request whether to try again, so a result has to say what may have happened at
the backend, and it may say no more than the gateway knows. Results are put together at a dozen exits of two
operations; all of them are accounted for by what has become of the call (`Fate`):

1. it was never sent off, because a gate was shut or the lookup went wrong;
2. the backend has answered it;
3. it has been given up.

`Honest` says which result is truthful in each case, and has one lemma for each kind of exit. The exits of an action
are those of its gates (`Refused.honest`) and those after its call (`finishAction_honest`), and those of a request for
a new resource are fewer of the same kinds. `results_honest` has them all, and adds that whatever callers are told in
some traffic has come in one of these ways.
-/

namespace CloudLifecycle

variable {σ φ : Type}

/-- What has become of the call for a request. -/
inductive Fate where
  | unsent
  | answered (answer : BackendResult Receipt)
  | givenUp

/-- A result says what has become of the call for its request. Where no call was made, the cause may be the error
`looked` of a lookup. -/
structure Honest (result : ActionResult) (fate : Fate) (looked : Option BackendError) : Prop where
  untouched : result.sideEffect? = some .none ↔ fate = .unsent
  applied : result.sideEffect? = some .applied ↔ ∃ detail, fate = .answered (.error (.responseParse detail))
  unknown : result.sideEffect? = some .unknown ↔
    fate = .givenUp ∨ ∃ e, fate = .answered (.error e) ∧ ∀ detail, e ≠ .responseParse detail
  early : ∀ category, result.category? = some category → category.isPrecondition = true → fate = .unsent
  success_iff : result.success = true ↔ result.error = none
  error_iff : result.error = none ↔ result.newState.isSome = true
  accepted : result.success = true → result.statusHint = 202 ∧ result.resourceId.isSome = true
  hinted : ∀ category, result.category? = some category → category ≠ .backendFailure →
    result.statusHint = category.statusHint
  caused : result.category? = some .backendFailure → ∃ e : BackendError, result.statusHint = e.statusHint ∧
    (fate = .answered (.error e) ∨ (fate = .unsent ∧ looked = some e))

namespace Honest

/-! ## The exits -/

theorem refusal {category : ErrorCategory} (early : category.isPrecondition = true) (message : String)
    (looked : Option BackendError) : Honest (.failure category .none message) .unsent looked := by
  have known : category ≠ .backendFailure := by
    rintro rfl
    cases early
  constructor <;>
    simp [ActionResult.failure, ActionResult.sideEffect?, ActionResult.category?, known]

theorem lookupFailure (e : BackendError) : Honest (.lookupFailure e) .unsent (some e) := by
  constructor <;>
    simp [ActionResult.lookupFailure, ActionResult.failure, ActionResult.sideEffect?, ActionResult.category?]

theorem acceptance (id : String) (state : LifecycleState) (receipt : Receipt) (looked : Option BackendError) :
    Honest (.accepted id state) (.answered (.ok receipt)) looked := by
  constructor <;>
    simp [ActionResult.accepted, ActionResult.sideEffect?, ActionResult.category?]

theorem backendFailure (e : BackendError) (looked : Option BackendError) :
    Honest (.backendFailure e) (.answered (.error e)) looked := by
  constructor <;> cases e <;>
    simp [ActionResult.backendFailure, ActionResult.failure, ActionResult.sideEffectOf, ActionResult.sideEffect?,
      ActionResult.category?, ErrorCategory.isPrecondition]

theorem timeout (operation : Operation) (bound : Duration) (looked : Option BackendError) :
    Honest (.timeout operation bound) .givenUp looked := by
  constructor <;>
    simp [ActionResult.timeout, ActionResult.failure, ActionResult.sideEffect?, ActionResult.category?,
      ErrorCategory.isPrecondition]

/-- A result may be about a resource, whether it is a failure or not. -/
theorem withResourceId {result : ActionResult} {fate : Fate} {looked : Option BackendError}
    (h : Honest result fate looked) (id : String) : Honest (result.withResourceId id) fate looked where
  untouched := h.untouched
  applied := h.applied
  unknown := h.unknown
  early := h.early
  success_iff := h.success_iff
  error_iff := h.error_iff
  accepted := fun success => ⟨(h.accepted success).1, rfl⟩
  hinted := h.hinted
  caused := h.caused

end Honest

namespace Gateway

variable [Fleet σ φ] {g : Gateway}

/-- The calls made for a request, and what has become of them: one is sent off on one desk and comes to its end on
another, or none is made. -/
inductive Comes (g : Gateway) (call : Call) (sent later : Desk σ) : List Call → Fate → Prop where
  | unsent : Comes g call sent later [] .unsent
  | answered (answer : BackendResult Receipt) (h : g.reply call sent later = some answer) :
      Comes g call sent later [call] (.answered answer)
  | givenUp (h : g.reply call sent later = none) : Comes g call sent later [call] .givenUp

/-- The error with which the lookup for a request is answered, if it is. -/
def lookupError? (request : ActionRequest) (desk : Desk σ) : Option BackendError :=
  match lookup request desk with
  | .error e => some e
  | .ok _ => none

/-! ## Actions -/

/-- The result of an action that is asked for on one desk, looked up on the next, and ends on the last. -/
def dispatchResult (g : Gateway) (request : ActionRequest) (first second later : Desk σ) : ActionResult :=
  match (g.dispatchAcross request first second).1 with
  | .done result => result
  | .waiting flight _ => (g.finishAction request flight later).1

/-- Whatever gate is shut to an action, its result is truthful. -/
theorem Refused.honest {request : ActionRequest} {first second : Desk σ} {category : ErrorCategory} {hint : UInt16}
    {result : ActionResult} (h : Refused g request first second category hint result) :
    Honest result .unsent (lookupError? request second) := by
  cases h with
  | undeclared _ | noMachine _ _ | absent _ _ => exact .refusal rfl _ _
  | lookupFailed _ e shut =>
    have looked : lookupError? request second = some e := by rw [lookupError?, shut]
    rw [looked]
    exact .lookupFailure e
  | illegal _ _ _ _ _ e _ => exact (Honest.refusal rfl _ _).withResourceId _

theorem finishAction_honest (request : ActionRequest) (sent later : Desk σ) (looked : Option BackendError) :
    ∃ fate, g.Comes (actionCall request) sent later [actionCall request] fate ∧
      Honest (g.finishAction request (g.call (actionCall request) sent).1.1 later).1 fate looked := by
  rcases flown : (g.call (actionCall request) sent).1.1 with _ | flight
  · exact ⟨.givenUp, .givenUp (reply_of_givenUp flown later), (Honest.timeout _ _ _).withResourceId _⟩
  · refine ⟨.answered (Fleet.land later.fleet flight).1, .answered _ (reply_of_flight flown later), ?_⟩
    have result : (g.finishAction request (some flight) later).1 =
        g.actionResult request (Fleet.land later.fleet flight).1 := rfl
    rw [result]
    rcases (Fleet.land later.fleet flight).1 with e | receipt
    · exact (Honest.backendFailure e looked).withResourceId _
    · exact .acceptance _ _ receipt looked

/-- The result of an action is truthful about the calls that were made for it. -/
theorem dispatch_honest (g : Gateway) (request : ActionRequest) (first second later : Desk (Recorded σ)) :
    ∃ asked fate, (g.dispatchAcross request first second).2.fleet.record = second.fleet.record ++ asked ∧
      g.Comes (actionCall request) (lookedUp request second) later (asked.filterMap Ask.call?) fate ∧
      Honest (g.dispatchResult request first second later) fate (lookupError? request second) := by
  obtain ⟨asked, recorded, asks⟩ := exists_asks g request first second
  by_cases admissible : g.Admissible request first second
  · have calls : asked.filterMap Ask.call? = [actionCall request] := by
      rcases asks with ⟨outside, _⟩ | ⟨_, shut, _⟩ | ⟨_, rfl⟩
      · exact absurd admissible.entered outside
      · exact absurd admissible shut
      · rfl
    obtain ⟨fate, comes, honest⟩ :=
      g.finishAction_honest request (lookedUp request second) later (lookupError? request second)
    refine ⟨asked, fate, recorded, calls ▸ comes, ?_⟩
    rw [dispatchResult, admissible.across]
    exact honest
  · have calls : asked.filterMap Ask.call? = [] := by
      rcases asks with ⟨_, rfl⟩ | ⟨_, _, rfl⟩ | ⟨open_, _⟩
      · rfl
      · rfl
      · exact absurd open_ admissible
    obtain ⟨category, hint, result, refused⟩ := exists_refused admissible
    have done := (done_iff_refused g request first second result).mpr ⟨category, hint, refused⟩
    refine ⟨asked, .unsent, recorded, calls ▸ .unsent, ?_⟩
    rw [dispatchResult, done]
    exact refused.honest

/-! ## New resources -/

/-- The result of a request for a new resource that is asked for on one desk and ends on another. -/
def createResult (g : Gateway) (request : CreateRequest) (sent later : Desk σ) : ActionResult :=
  match (g.create request sent).1 with
  | .done provisioning => provisioning.result
  | .waiting flight _ => (g.finishCreate request flight later).1.result

theorem finishCreate_honest (g : Gateway) (request : CreateRequest) (sent later : Desk σ) :
    ∃ fate, g.Comes (createCall request) sent later [createCall request] fate ∧
      Honest (g.finishCreate request (g.call (createCall request) sent).1.1 later).1.result fate none := by
  rcases flown : (g.call (createCall request) sent).1.1 with _ | flight
  · exact ⟨.givenUp, .givenUp (reply_of_givenUp flown later), .timeout _ _ none⟩
  · refine ⟨.answered (Fleet.land later.fleet flight).1, .answered _ (reply_of_flight flown later), ?_⟩
    rcases answered : (Fleet.land later.fleet flight).1 with e | receipt
    · simp only [finishCreate, answered]
      exact .backendFailure e none
    · simp only [finishCreate, answered]
      exact .acceptance receipt.id .pending receipt none

/-- The result of a request for a new resource is truthful about the calls that were made for it. -/
theorem create_honest (g : Gateway) (request : CreateRequest) (sent later : Desk (Recorded σ)) :
    ∃ asked fate, (g.create request sent).2.fleet.record = sent.fleet.record ++ asked ∧
      g.Comes (createCall request) sent later (asked.filterMap Ask.call?) fate ∧
      Honest (g.createResult request sent later) fate none := by
  by_cases declared : Fleet.supports sent.fleet request.backend request.operation.name = true
  · obtain ⟨fate, comes, honest⟩ := g.finishCreate_honest request sent later
    refine ⟨[.call (createCall request)], fate, ?_, comes, ?_⟩
    · simp only [create, declared, if_true]
      rfl
    · simp only [createResult, create, declared, if_true]
      exact honest
  · refine ⟨[], .unsent, ?_, .unsent, ?_⟩
    · simp only [create, declared, List.append_nil]
      rfl
    · simp only [createResult, create, declared]
      exact .refusal rfl _ none

end Gateway

namespace Traffic

open Gateway

variable [Fleet σ φ] {g : Gateway} {moves : List (Move σ)} {desk : Desk σ}

/-! ## Results in traffic -/

/-- The result of an action that a caller is told of comes of desks of the traffic. -/
theorem exists_desks_of_acted {request : ActionRequest} {result : ActionResult}
    (h : .acted request result ∈ (run g moves (begin desk : Traffic σ φ)).1) :
    ∃ first ∈ desks g moves (begin desk : Traffic σ φ), ∃ second ∈ desks g moves (begin desk : Traffic σ φ),
      ∃ later ∈ desks g moves (begin desk : Traffic σ φ), result = g.dispatchResult request first second later := by
  obtain ⟨earlier, move, sub, shown⟩ := exists_step_of_mem h
  have here : (run g earlier (begin desk : Traffic σ φ)).2.desk ∈ desks g moves (begin desk : Traffic σ φ) :=
    sub.subset (List.mem_append_right _ List.mem_cons_self)
  have before : desks g earlier (begin desk : Traffic σ φ) ⊆ desks g moves (begin desk : Traffic σ φ) :=
    List.Subset.trans (List.subset_append_left _ _) sub.subset
  rcases cases_of_acted shown with barred | ⟨_, machine, _, at_place, refused⟩ | ⟨_, flight, _, at_place, rfl⟩
  · refine ⟨_, here, _, here, _, here, ?_⟩
    simp only [dispatchResult, dispatchAcross, barred]
  · cases (stems g earlier desk _ (List.mem_of_getElem? at_place)).mono before with
    | looking _ _ first asked entered =>
      refine ⟨first, asked, _, here, _, here, ?_⟩
      simp only [dispatchResult, dispatchAcross, entered, judge_of_refused refused]
  · cases (stems g earlier desk _ (List.mem_of_getElem? at_place)).mono before with
    | acting _ machine first second asked found entered admitted =>
      refine ⟨first, asked, second, found, _, here, ?_⟩
      simp only [dispatchResult, dispatchAcross, entered, judge_of_admitted admitted]
      rfl

/-- The result of a request for a new resource that a caller is told of comes of desks of the traffic. -/
theorem exists_desks_of_provisioned {request : CreateRequest} {provisioning : Provisioning}
    (h : .provisioned request provisioning ∈ (run g moves (begin desk : Traffic σ φ)).1) :
    ∃ sent ∈ desks g moves (begin desk : Traffic σ φ), ∃ later ∈ desks g moves (begin desk : Traffic σ φ),
      provisioning.result = g.createResult request sent later := by
  obtain ⟨earlier, move, sub, shown⟩ := exists_step_of_mem h
  have here : (run g earlier (begin desk : Traffic σ φ)).2.desk ∈ desks g moves (begin desk : Traffic σ φ) :=
    sub.subset (List.mem_append_right _ List.mem_cons_self)
  have before : desks g earlier (begin desk : Traffic σ φ) ⊆ desks g moves (begin desk : Traffic σ φ) :=
    List.Subset.trans (List.subset_append_left _ _) sub.subset
  rcases cases_of_provisioned shown with ⟨undeclared, rfl⟩ | ⟨_, flight, _, at_place, rfl⟩
  · refine ⟨_, here, _, here, ?_⟩
    simp only [createResult, create, undeclared]
    rfl
  · cases (stems g earlier desk _ (List.mem_of_getElem? at_place)).mono before with
    | creating _ sent asked declared =>
      refine ⟨sent, asked, _, here, ?_⟩
      simp only [createResult, create, declared, if_true]

end Traffic

/-- **Honest results.** Over any fleet, and however long lookups and calls take:

1. every action makes at most one call, and its result is truthful about it: it says that nothing has happened exactly
   if no call was made, that the backend has acted exactly if its answer could not be read, and leaves the matter open
   exactly if it answered with another error or was given up; and the result has the form that goes with this;
2. the same holds of every request for a new resource, for which nothing is looked up;
3. every result that a caller in some traffic is told of is one of these. -/
theorem Gateway.results_honest [Fleet σ φ] (g : Gateway) :
    (∀ (request : ActionRequest) (first second later : Desk (Recorded σ)), ∃ asked fate,
      (g.dispatchAcross request first second).2.fleet.record = second.fleet.record ++ asked ∧
        g.Comes (actionCall request) (lookedUp request second) later (asked.filterMap Ask.call?) fate ∧
        Honest (g.dispatchResult request first second later) fate (lookupError? request second)) ∧
    (∀ (request : CreateRequest) (sent later : Desk (Recorded σ)), ∃ asked fate,
      (g.create request sent).2.fleet.record = sent.fleet.record ++ asked ∧
        g.Comes (createCall request) sent later (asked.filterMap Ask.call?) fate ∧
        Honest (g.createResult request sent later) fate none) ∧
    ∀ (moves : List (Move (Recorded σ))) (desk : Desk (Recorded σ)),
      let desks := Traffic.desks g moves (.begin desk)
      let events := (Traffic.run g moves (.begin desk)).1
      (∀ request result, .acted request result ∈ events → ∃ first ∈ desks, ∃ second ∈ desks, ∃ later ∈ desks,
        result = g.dispatchResult request first second later) ∧
      (∀ request provisioning, .provisioned request provisioning ∈ events → ∃ sent ∈ desks, ∃ later ∈ desks,
        provisioning.result = g.createResult request sent later) :=
  ⟨g.dispatch_honest, g.create_honest, fun _ _ =>
    ⟨fun _ _ => Traffic.exists_desks_of_acted, fun _ _ => Traffic.exists_desks_of_provisioned⟩⟩

end CloudLifecycle
