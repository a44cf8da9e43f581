import CloudLifecycle.Proofs.Gateway.Recorded

/-!
# The gates before a backend

An action reaches its backend exactly if four gates are open to it, and the first one that is shut decides what its
caller is told (`dispatch_gated`). The gates are stated here on their own, without the functions that check them:

1. the backend declares the operation at the moment (`Declared`);
2. the kind has a machine (`Entered`, with the first);
3. the lookup finds the resource;
4. the machine allows the action in the state in which the resource counts, which is that of its guard if it has
   one, and otherwise what its backend reports (`countsAs`; `Admissible` has all four).

`Refused` lists the results of an action that is not admissible. What the fleet is asked meanwhile is read off the
record of `Recorded`. A lookup may take its time: then the first two gates are those of the desk on which the action
was asked for, and the last two those of the desk on which the lookup is answered (`dispatchAcross`).
-/

namespace CloudLifecycle.Gateway

variable {σ φ : Type} [Fleet σ φ]

/-- Begins an action on the desk `first` and goes on with it on the desk `second`, to which others have brought the
first one by the time the lookup is answered. -/
def dispatchAcross (g : Gateway) (request : ActionRequest) (first second : Desk σ) :
    Progress (Option φ) ActionResult × Desk σ :=
  match g.enter request first.fleet with
  | .error result => (.done result, second)
  | .ok machine => g.judge request machine second

/-! ## The gates -/

/-- The backend of a request declares the operation, named by the action and the kind. -/
def Declared (fleet : σ) (request : ActionRequest) : Prop :=
  ∃ declared, Fleet.capabilities fleet request.backend = some declared ∧
    declared.contains (request.action ++ "_" ++ request.kind.name) = true

/-- The two gates before the lookup are open. -/
def Entered (g : Gateway) (request : ActionRequest) (fleet : σ) : Prop :=
  Declared fleet request ∧ ∃ machine, g.catalog.get? request.kind = some machine

/-- The state in which the resource of a request counts when its backend reports `raw`. -/
def countsAs (g : Gateway) (guards : Guards) (request : ActionRequest) (raw : String) : LifecycleState :=
  match guards.get? ⟨request.backend, request.kind, request.resourceId⟩ with
  | some .converging => .pending
  | some (.failed _) => .failed
  | none => g.normalizer.normalize request.backend raw

/-- The answer of the lookup that a request makes on a desk. -/
def lookup (request : ActionRequest) (desk : Desk σ) : BackendResult (Option Resource) :=
  (Fleet.find desk.fleet (⟨request.backend, request.kind, request.resourceId⟩ : ResourceKey)).1

/-- All four gates are open. -/
def Admissible (g : Gateway) (request : ActionRequest) (first second : Desk σ) : Prop :=
  Declared first.fleet request ∧
    ∃ machine resource target, g.catalog.get? request.kind = some machine ∧
      lookup request second = .ok (some resource) ∧
      machine.check (g.countsAs second.guards request resource.rawStatus) request.action = .ok target

/-- The result of an action by the first gate that is shut to it, with its category and its status hint. -/
inductive Refused (g : Gateway) (request : ActionRequest) (first second : Desk σ) :
    ErrorCategory → UInt16 → ActionResult → Prop where
  | undeclared (shut : ¬ Declared first.fleet request) :
      Refused g request first second .notSupported 501
        (.notSupported request.backend ⟨request.kind, request.action⟩)
  | noMachine (declared : Declared first.fleet request) (shut : g.catalog.get? request.kind = none) :
      Refused g request first second .notSupported 501 (.noLifecycle request.kind)
  | absent (entered : g.Entered request first.fleet) (shut : lookup request second = .ok none) :
      Refused g request first second .notFound 404 (.notFound request.kind request.resourceId)
  | lookupFailed (entered : g.Entered request first.fleet) (e : BackendError)
      (shut : lookup request second = .error e) :
      Refused g request first second .backendFailure e.statusHint (.lookupFailure e)
  | illegal (declared : Declared first.fleet request) (machine : Machine)
      (hm : g.catalog.get? request.kind = some machine) (resource : Resource)
      (found : lookup request second = .ok (some resource)) (e : IllegalTransition)
      (shut : machine.check (g.countsAs second.guards request resource.rawStatus) request.action = .error e) :
      Refused g request first second .illegalTransition 409
        ((ActionResult.illegal e).withResourceId request.resourceId)

section

variable {g : Gateway} {request : ActionRequest} {first second : Desk σ} {category : ErrorCategory}
  {hint : UInt16} {result : ActionResult}

/-- A refused action is told the category of the gate, its hint, and that nothing happened. -/
theorem Refused.told (h : Refused g request first second category hint result) :
    result.success = false ∧ result.category? = some category ∧ result.statusHint = hint ∧
      result.sideEffect? = some .none := by
  cases h <;> exact ⟨rfl, rfl, rfl, rfl⟩

theorem Admissible.entered (h : g.Admissible request first second) : g.Entered request first.fleet := by
  obtain ⟨declared, machine, _, _, hm, _⟩ := h
  exact ⟨declared, machine, hm⟩

theorem Refused.not_admissible (h : Refused g request first second category hint result) :
    ¬ g.Admissible request first second := by
  rintro ⟨declared, machine, resource, target, hm, found, legal⟩
  cases h with
  | undeclared shut => exact shut declared
  | noMachine _ shut => rw [shut] at hm; cases hm
  | absent _ shut => rw [shut] at found; cases found
  | lookupFailed _ e shut => rw [shut] at found; cases found
  | illegal _ machine' hm' resource' found' e shut =>
    obtain rfl : machine = machine' := Option.some.inj (hm.symm.trans hm')
    obtain rfl : resource = resource' := by rw [found] at found'; cases found'; rfl
    rw [legal] at shut
    cases shut

/-- An action to which some gate is shut is refused by the first such gate. -/
theorem exists_refused (h : ¬ g.Admissible request first second) :
    ∃ category hint result, Refused g request first second category hint result := by
  by_cases declared : Declared first.fleet request
  · rcases hm : g.catalog.get? request.kind with _ | machine
    · exact ⟨_, _, _, .noMachine declared hm⟩
    · rcases hl : lookup request second with e | _ | resource
      · exact ⟨_, _, _, .lookupFailed ⟨declared, machine, hm⟩ e hl⟩
      · exact ⟨_, _, _, .absent ⟨declared, machine, hm⟩ hl⟩
      · rcases hc : machine.check (g.countsAs second.guards request resource.rawStatus) request.action
          with e | target
        · exact ⟨_, _, _, .illegal declared machine hm resource hl e hc⟩
        · exact absurd ⟨declared, machine, resource, target, hm, hl, hc⟩ h
  · exact ⟨_, _, _, .undeclared declared⟩

end

/-! ## What a dispatch does at each gate -/

theorem supports_iff_contains (fleet : σ) (backend name : String) :
    Fleet.supports fleet backend name = true ↔
      ∃ declared, Fleet.capabilities fleet backend = some declared ∧ declared.contains name = true := by
  unfold Fleet.supports
  cases Fleet.capabilities fleet backend <;> simp

theorem supports_iff_declared (fleet : σ) (request : ActionRequest) :
    Fleet.supports fleet request.backend request.operation.name = true ↔ Declared fleet request :=
  supports_iff_contains fleet request.backend request.operation.name

theorem presentState_eq (g : Gateway) (guards : Guards) (request : ActionRequest) (raw : String) :
    g.presentState guards request.key raw = g.countsAs guards request raw := by
  unfold presentState countsAs Guards.overlay ActionRequest.key
  rcases guards.get? ⟨request.backend, request.kind, request.resourceId⟩ with _ | _ | _ <;> rfl

theorem presentState_of_guard {g : Gateway} {guards : Guards} {key : ResourceKey} {entry : GuardEntry}
    (h : guards.get? key = some entry) : g.presentState guards key = fun _ => entry.state := by
  funext raw
  rw [presentState, Guards.overlay_of_guard h, Option.getD_some]

theorem presentState_of_free {g : Gateway} {guards : Guards} {key : ResourceKey} (h : guards.get? key = none) :
    g.presentState guards key = g.normalizer.normalize key.backend := by
  funext raw
  rw [presentState, Guards.overlay_of_free h, Option.getD_none]

theorem enter_undeclared {g : Gateway} {request : ActionRequest} {fleet : σ} (h : ¬ Declared fleet request) :
    g.enter request fleet = .error (.notSupported request.backend request.operation) := by
  rw [enter, if_neg (mt (supports_iff_declared fleet request).1 h)]

theorem enter_noMachine {g : Gateway} {request : ActionRequest} {fleet : σ} (h : Declared fleet request)
    (hm : g.catalog.get? request.kind = none) : g.enter request fleet = .error (.noLifecycle request.kind) := by
  rw [enter, if_pos ((supports_iff_declared fleet request).2 h), hm]

theorem enter_ok {g : Gateway} {request : ActionRequest} {fleet : σ} {machine : Machine}
    (h : Declared fleet request) (hm : g.catalog.get? request.kind = some machine) :
    g.enter request fleet = .ok machine := by
  rw [enter, if_pos ((supports_iff_declared fleet request).2 h), hm]

theorem of_enter_ok {g : Gateway} {request : ActionRequest} {fleet : σ} {machine : Machine}
    (h : g.enter request fleet = .ok machine) :
    Declared fleet request ∧ g.catalog.get? request.kind = some machine := by
  by_cases declared : Declared fleet request
  · rcases hm : g.catalog.get? request.kind with _ | machine'
    · rw [enter_noMachine declared hm] at h
      cases h
    · rw [enter_ok declared hm] at h
      cases h
      exact ⟨declared, rfl⟩
  · rw [enter_undeclared declared] at h
    cases h

/-- The desk after the lookup of a request. -/
def lookedUp (request : ActionRequest) (desk : Desk σ) : Desk σ :=
  { desk with fleet := (Fleet.find desk.fleet request.key).2 }

section

variable {g : Gateway} {request : ActionRequest} {first second : Desk σ} {category : ErrorCategory}
  {hint : UInt16} {result : ActionResult}

/-- Before the lookup a refusal leaves the desk as it is. -/
theorem Refused.outside (h : Refused g request first second category hint result)
    (outside : ¬ g.Entered request first.fleet) :
    g.dispatchAcross request first second = (.done result, second) := by
  cases h with
  | undeclared shut =>
    rw [dispatchAcross, enter_undeclared shut]
    rfl
  | noMachine declared shut => rw [dispatchAcross, enter_noMachine declared shut]
  | absent entered | lookupFailed entered => exact absurd entered outside
  | illegal declared machine hm => exact absurd ⟨declared, machine, hm⟩ outside

/-- After the lookup a refusal has cost just that. -/
theorem Refused.inside (h : Refused g request first second category hint result)
    (entered : g.Entered request first.fleet) :
    g.dispatchAcross request first second = (.done result, lookedUp request second) := by
  obtain ⟨declared, machine, hm⟩ := entered
  rw [dispatchAcross, enter_ok declared hm]
  apply judge_of_refused
  cases h with
  | undeclared shut => exact absurd declared shut
  | noMachine _ shut => rw [shut] at hm; cases hm
  | absent _ shut =>
    rw [show (Fleet.find second.fleet request.key).1 = _ from shut]
    rfl
  | lookupFailed _ e shut =>
    rw [show (Fleet.find second.fleet request.key).1 = _ from shut]
    rfl
  | illegal _ machine' hm' resource found e shut =>
    obtain rfl : machine = machine' := Option.some.inj (hm.symm.trans hm')
    rw [show (Fleet.find second.fleet request.key).1 = _ from found]
    simp only [admission, presentState_eq, shut]

/-- An admissible action makes one lookup and then one call, for which it waits as long as the gateway allows. -/
theorem Admissible.across (h : g.Admissible request first second) :
    g.dispatchAcross request first second =
      let sent := g.call (actionCall request) (lookedUp request second)
      (.waiting sent.1.1 sent.1.2, sent.2) := by
  obtain ⟨declared, machine, resource, target, hm, found, legal⟩ := h
  rw [dispatchAcross, enter_ok declared hm]
  apply judge_of_admitted
  rw [show (Fleet.find second.fleet request.key).1 = _ from found]
  simp only [admission, presentState_eq, legal]

/-- An action ends without a call exactly if a gate is shut to it. -/
theorem done_iff_refused (g : Gateway) (request : ActionRequest) (first second : Desk σ)
    (result : ActionResult) :
    (g.dispatchAcross request first second).1 = .done result ↔
      ∃ category hint, Refused g request first second category hint result := by
  constructor
  · intro hd
    by_cases admissible : g.Admissible request first second
    · rw [admissible.across] at hd
      cases hd
    · obtain ⟨category, hint, result', refused⟩ := exists_refused admissible
      refine ⟨category, hint, ?_⟩
      by_cases entered : g.Entered request first.fleet
      · rw [refused.inside entered] at hd
        cases hd
        exact refused
      · rw [refused.outside entered] at hd
        cases hd
        exact refused
  · rintro ⟨category, hint, refused⟩
    by_cases entered : g.Entered request first.fleet
    · rw [refused.inside entered]
    · rw [refused.outside entered]

end

/-! ## What the fleet is asked -/

/-- What a dispatch asks of the fleet until its call lands: nothing, a lookup, or a lookup and a call. -/
def Asks (g : Gateway) (request : ActionRequest) (first second : Desk σ) (asked : List Ask) : Prop :=
  (¬ g.Entered request first.fleet ∧ asked = []) ∨
    (g.Entered request first.fleet ∧ ¬ g.Admissible request first second ∧ asked = [.lookup request.key]) ∨
    (g.Admissible request first second ∧ asked = [.lookup request.key, .call (actionCall request)])

section

variable {g : Gateway} {request : ActionRequest} {first second : Desk σ} {asked : List Ask}

/-- A dispatch calls its backend at most once, and does so exactly if all gates are open. -/
theorem Asks.calls (h : g.Asks request first second asked) :
    (asked.filterMap Ask.call?).length ≤ 1 ∧
      ((asked.filterMap Ask.call?).length = 1 ↔ g.Admissible request first second) ∧
      ∀ call ∈ asked.filterMap Ask.call?, call = actionCall request := by
  rcases h with ⟨outside, rfl⟩ | ⟨_, shut, rfl⟩ | ⟨admissible, rfl⟩
  · have shut : ¬ g.Admissible request first second := fun admissible => outside admissible.entered
    simp [shut]
  · simp [List.filterMap_cons, shut]
  · simp [List.filterMap_cons, admissible]

/-- A dispatch looks its resource up once if the first two gates are open, and else not at all. -/
theorem Asks.lookups (h : g.Asks request first second asked) :
    (g.Entered request first.fleet → asked.filterMap Ask.key? = [request.key]) ∧
      (¬ g.Entered request first.fleet → asked.filterMap Ask.key? = []) := by
  rcases h with ⟨outside, rfl⟩ | ⟨entered, _, rfl⟩ | ⟨admissible, rfl⟩
  · exact ⟨fun entered => absurd entered outside, fun _ => rfl⟩
  · exact ⟨fun _ => rfl, fun outside => absurd entered outside⟩
  · exact ⟨fun _ => rfl, fun outside => absurd admissible.entered outside⟩

end

theorem exists_asks (g : Gateway) (request : ActionRequest) (first second : Desk (Recorded σ)) :
    ∃ asked, (g.dispatchAcross request first second).2.fleet.record = second.fleet.record ++ asked ∧
      g.Asks request first second asked := by
  by_cases admissible : g.Admissible request first second
  · refine ⟨_, ?_, .inr (.inr ⟨admissible, rfl⟩)⟩
    rw [admissible.across]
    exact List.append_assoc second.fleet.record [.lookup request.key] [.call (actionCall request)]
  · obtain ⟨_, _, _, refused⟩ := exists_refused admissible
    by_cases entered : g.Entered request first.fleet
    · refine ⟨_, ?_, .inr (.inl ⟨entered, admissible, rfl⟩)⟩
      rw [refused.inside entered]
      rfl
    · refine ⟨[], ?_, .inl ⟨entered, rfl⟩⟩
      rw [refused.outside entered, List.append_nil]

/-! ## How an admitted action ends -/

/-- The result of an action whose call was sent off, by what becomes of the call: it lands on the desk `later`
and the backend answers, or it has been given up. -/
inductive Ended (g : Gateway) (request : ActionRequest) (later : Desk σ) : Option φ → ActionResult → Prop where
  | accepted (flight : φ) (receipt : Receipt) (answered : (Fleet.land later.fleet flight).1 = .ok receipt) :
      Ended g request later (some flight)
        (.accepted request.resourceId (g.normalizer.normalize request.backend receipt.rawStatus))
  | failed (flight : φ) (e : BackendError) (answered : (Fleet.land later.fleet flight).1 = .error e) :
      Ended g request later (some flight) ((ActionResult.backendFailure e).withResourceId request.resourceId)
  | givenUp :
      Ended g request later none
        ((ActionResult.timeout ⟨request.kind, request.action⟩ g.timeout).withResourceId request.resourceId)

theorem finishAction_ended (g : Gateway) (request : ActionRequest) (flight : Option φ) (later : Desk σ) :
    Ended g request later flight (g.finishAction request flight later).1 := by
  cases flight with
  | none => exact .givenUp
  | some flight =>
    have hr : (g.finishAction request (some flight) later).1 =
        g.actionResult request (Fleet.land later.fleet flight).1 := rfl
    rw [hr]
    rcases ha : (Fleet.land later.fleet flight).1 with e | receipt
    · exact .failed flight e ha
    · exact .accepted flight receipt ha

/-- **The gates.** Before any fleet, and however long the lookup takes, a dispatch calls its backend at most once,
and exactly once if and only if all four gates are open; the call is then that of the request. It looks its resource
up once if the first two gates are open, and else never. It ends without a call exactly if a gate is shut, with the
result of the first such gate. An admitted action is waited for as long as the gateway allows; it then ends as its
backend answers, without asking for anything more. A record of what is asked changes nothing about all this, and
neither does a lookup that takes no time. -/
theorem dispatch_gated (g : Gateway) (request : ActionRequest) (first second : Desk (Recorded σ)) :
    (∃ asked, (g.dispatchAcross request first second).2.fleet.record = second.fleet.record ++ asked ∧
      (asked.filterMap Ask.call?).length ≤ 1 ∧
      ((asked.filterMap Ask.call?).length = 1 ↔ g.Admissible request first second) ∧
      (∀ call ∈ asked.filterMap Ask.call?,
        call = ⟨request.backend, ⟨request.kind, request.action⟩, some request.resourceId,
          ⟨request.credentials, request.body⟩⟩) ∧
      (g.Entered request first.fleet →
        asked.filterMap Ask.key? = [⟨request.backend, request.kind, request.resourceId⟩]) ∧
      (¬ g.Entered request first.fleet → asked.filterMap Ask.key? = [])) ∧
    (∀ result, (g.dispatchAcross request first second).1 = .done result ↔
      ∃ category hint, Refused g request first second category hint result) ∧
    (∀ category hint result, Refused g request first second category hint result →
      ¬ g.Admissible request first second ∧
        result.success = false ∧ result.category? = some category ∧ result.statusHint = hint) ∧
    (g.Admissible request first second → ∀ time (sent : φ),
      (Fleet.launch (lookedUp request second).fleet (actionCall request)).1 = (time, sent) →
      (g.dispatchAcross request first second).1 =
        if time ≤ g.timeout then .waiting (some sent) time else .waiting none g.timeout) ∧
    (∀ (flight : Option φ) (later : Desk (Recorded σ)),
      Ended g request later flight (g.finishAction request flight later).1 ∧
        (g.finishAction request flight later).2.fleet.record = later.fleet.record ∧
        g.finishAction request flight later.bare =
          ((g.finishAction request flight later).1, (g.finishAction request flight later).2.bare)) ∧
    g.dispatch request first = g.dispatchAcross request first first ∧
    g.dispatch request first.bare = ((g.dispatch request first).1, (g.dispatch request first).2.bare) := by
  refine ⟨?_, done_iff_refused g request first second, ?_, ?_, ?_, rfl, dispatch_bare g request first⟩
  · obtain ⟨asked, recorded, asks⟩ := exists_asks g request first second
    obtain ⟨atMost, iff, calls⟩ := asks.calls
    exact ⟨asked, recorded, atMost, iff, calls, asks.lookups⟩
  · intro category hint result refused
    obtain ⟨unsuccessful, told, hinted, _⟩ := refused.told
    exact ⟨refused.not_admissible, unsuccessful, told, hinted⟩
  · intro admissible time sent launched
    rw [admissible.across]
    simp only [call, launched]
    split <;> rfl
  · intro flight later
    refine ⟨finishAction_ended g request flight later, ?_, finishAction_bare g request flight later⟩
    cases flight <;> rfl

end CloudLifecycle.Gateway
