import CloudLifecycle.Backend.Builtin
import CloudLifecycle.Proofs.Gateway.Parks

/-!
# Actions on offer

The list of actions that a caller is shown for a resource and the gates that stop its actions are worked out on two
paths. The list starts from the guard or a lookup, goes on to the machine, and ends with what the backend declares;
an action passes what the backend declares and the machine first, and then a lookup and the guard. Both come down to
one relation, `Offered`: the machine leads away from a state by the action, and the backend declares it.

1. The list of a state holds just what is offered there (`mem_actionsIn`).
2. An action is admissible if a lookup finds its resource and it is offered in the state in which that counts
   (`admissible_iff`).
3. Between its demand and its answer others may change the desk under either path, so the paths are compared on four
   desks, two each, with what they read there in common (`SeeAlike`).

Every answer and every call of a traffic comes of such desks (`Traffic.exists_desks_of_listed`,
`Traffic.exists_desks_of_reached`).
-/

namespace CloudLifecycle

variable {σ φ : Type} [Fleet σ φ]

namespace Gateway

/-! ## What is offered -/

/-- A state offers an action: the machine for the kind leads away from the state by it, and the backend declares the
operation, named by the action and the kind. -/
def Offered (g : Gateway) (fleet : σ) (key : ResourceKey) (state : LifecycleState) (action : String) : Prop :=
  (∃ declared, Fleet.capabilities fleet key.backend = some declared ∧
    declared.contains (action ++ "_" ++ key.kind.name) = true) ∧
  ∃ machine, g.catalog.get? key.kind = some machine ∧
    ∃ t ∈ machine.transitions, t.source = state ∧ t.trigger = .action action

theorem Offered.congr {g : Gateway} {fleet fleet' : σ} {key : ResourceKey} {state : LifecycleState} {action : String}
    (same : Fleet.capabilities fleet key.backend = Fleet.capabilities fleet' key.backend) :
    g.Offered fleet key state action ↔ g.Offered fleet' key state action := by
  unfold Offered
  rw [same]

section

variable (g : Gateway) (fleet : σ) (key : ResourceKey) (state : LifecycleState)

theorem mem_actionsIn (action : String) : action ∈ g.actionsIn fleet key state ↔ g.Offered fleet key state action := by
  unfold actionsIn Offered
  rcases g.catalog.get? key.kind with _ | machine
  · simp
  · rw [List.mem_filter, Machine.mem_actionsFrom_iff_exists, supports_iff_contains]
    simp only [Option.some.injEq, exists_eq_left', and_comm]
    rfl

theorem pairwise_actionsIn : (g.actionsIn fleet key state).Pairwise (· < ·) := by
  unfold actionsIn
  rcases g.catalog.get? key.kind with _ | machine
  · exact .nil
  · exact (machine.pairwise_actionsFrom state).filter _

end

/-- An action passes all gates if a lookup finds its resource, and the state in which that counts offers it. -/
theorem admissible_iff (g : Gateway) (request : ActionRequest) (first second : Desk σ) :
    g.Admissible request first second ↔
      ∃ resource, (Fleet.find second.fleet request.key).1 = .ok (some resource) ∧
        g.Offered first.fleet request.key (g.presentState second.guards request.key resource.rawStatus)
          request.action := by
  constructor
  · rintro ⟨declared, machine, resource, target, hm, found, legal⟩
    rw [← presentState_eq] at legal
    have leads := (machine.exists_check_iff _ _).mp ⟨target, legal⟩
    exact ⟨resource, found, declared, machine, hm, (machine.mem_actionsFrom_iff_exists _ _).mp leads⟩
  · rintro ⟨resource, found, declared, machine, hm, leads⟩
    obtain ⟨target, legal⟩ := (machine.exists_check_iff _ _).mpr ((machine.mem_actionsFrom_iff_exists _ _).mpr leads)
    rw [presentState_eq] at legal
    exact ⟨declared, machine, resource, target, hm, found, legal⟩

/-! ## The calls of an action -/

/-- The calls that an action sends off, when it is asked for on the desk `first` and its lookup is answered on the desk
`second`. -/
def calls (g : Gateway) (request : ActionRequest) (first second : Desk σ) : List Call :=
  (g.dispatchAcross request first.recording second.recording).2.fleet.record.filterMap Ask.call?

theorem calls_of_admissible {g : Gateway} {request : ActionRequest} {first second : Desk σ}
    (h : g.Admissible request first second) : g.calls request first second = [actionCall request] := by
  have recorded : g.Admissible request first.recording second.recording := h
  unfold calls
  rw [recorded.across]
  rfl

theorem calls_of_not_admissible {g : Gateway} {request : ActionRequest} {first second : Desk σ}
    (h : ¬ g.Admissible request first second) : g.calls request first second = [] := by
  obtain ⟨asked, recorded, asks⟩ := g.exists_asks request first.recording second.recording
  unfold calls
  rw [recorded, List.filterMap_append]
  rcases asks with ⟨_, rfl⟩ | ⟨_, _, rfl⟩ | ⟨admissible, _⟩
  · rfl
  · rfl
  · exact absurd admissible h

theorem calls_of_found {g : Gateway} {request : ActionRequest} {first second : Desk σ} {resource : Resource}
    (found : (Fleet.find second.fleet request.key).1 = .ok (some resource)) {actions : List String}
    (offers : ∀ action, action ∈ actions ↔ g.Offered first.fleet request.key
      (g.presentState second.guards request.key resource.rawStatus) action) :
    g.calls request first second = if request.action ∈ actions then [actionCall request] else [] := by
  have passes : g.Admissible request first second ↔ request.action ∈ actions := by
    rw [admissible_iff, offers]
    constructor
    · rintro ⟨resource', found', offered⟩
      rw [found] at found'
      cases found'
      exact offered
    · exact fun offered => ⟨resource, found, offered⟩
  split
  · next offered => exact calls_of_admissible (passes.mpr offered)
  · next missing => exact calls_of_not_admissible (mt passes.mp missing)

theorem calls_of_missing {g : Gateway} {request : ActionRequest} {first second : Desk σ}
    (missing : ∀ resource, (Fleet.find second.fleet request.key).1 ≠ .ok (some resource)) :
    g.calls request first second = [] := by
  refine calls_of_not_admissible fun admissible => ?_
  obtain ⟨resource, found, _⟩ := (g.admissible_iff request first second).mp admissible
  exact missing resource found

/-! ## The list that is shown -/

/-- Asks for the actions of a resource on the desk `asked`. Unless a guard answers at once, the lookup is answered on the
desk `answered`, to which others have brought the first one by then. The answer comes with the desk on which it is
given. -/
def listAcross (g : Gateway) (key : ResourceKey) (asked answered : Desk σ) : BackendResult (List String) × Desk σ :=
  match asked.guards.overlay key with
  | some state => (.ok (g.actionsIn asked.fleet key state), asked)
  | none =>
    let (state, desk) := g.observe key answered
    (g.actionsOf desk.fleet key state, desk)

theorem listAcross_self (g : Gateway) (key : ResourceKey) (desk : Desk σ) :
    g.listAcross key desk desk = g.availableActions key desk := by
  unfold listAcross availableActions currentState
  cases desk.guards.overlay key <;> rfl

section

variable {g : Gateway} {key : ResourceKey} {asked answered : Desk σ}

theorem listAcross_of_guard {entry : GuardEntry} (guard : asked.guards.get? key = some entry) :
    g.listAcross key asked answered = (.ok (g.actionsIn asked.fleet key entry.state), asked) := by
  simp only [listAcross, Guards.overlay_of_guard guard]

theorem listAcross_of_free (free : asked.guards.get? key = none) :
    g.listAcross key asked answered =
      (g.actionsOf (Fleet.find answered.fleet key).2 key (g.observe key answered).1, (g.observe key answered).2) := by
  simp only [listAcross, Guards.overlay_of_free free]
  rfl

theorem pairwise_listAcross {actions : List String} (h : (g.listAcross key asked answered).1 = .ok actions) :
    actions.Pairwise (· < ·) := by
  rcases guard : asked.guards.get? key with _ | entry
  · rw [listAcross_of_free guard] at h
    rcases observed : (g.observe key answered).1 with e | _ | state
    · simp [observed, actionsOf] at h
    · simp only [observed, actionsOf, Except.ok.injEq] at h
      rw [← h]
      exact .nil
    · simp only [observed, actionsOf, Except.ok.injEq] at h
      rw [← h]
      exact g.pairwise_actionsIn _ key state
  · simp only [listAcross_of_guard guard, Except.ok.injEq] at h
    rw [← h]
    exact g.pairwise_actionsIn _ key _

end

/-- What an action on the desks `first` and `second` and a question for the list on the desks `asked` and `answered` read
is the same: the guard, what the backend declares, and the answer of the lookup, where both make one. -/
structure SeeAlike (g : Gateway) (key : ResourceKey) (first second asked answered : Desk σ) : Prop where
  guard : asked.guards.get? key = second.guards.get? key
  declared : Fleet.capabilities (g.listAcross key asked answered).2.fleet key.backend =
    Fleet.capabilities first.fleet key.backend
  found : asked.guards.get? key = none → (Fleet.find answered.fleet key).1 = (Fleet.find second.fleet key).1

namespace SeeAlike

variable {g : Gateway} {key : ResourceKey} {first second asked answered : Desk σ}

theorem guarded (h : g.SeeAlike key first second asked answered) {entry : GuardEntry}
    (guard : asked.guards.get? key = some entry) :
    ∃ actions, (g.listAcross key asked answered).1 = .ok actions ∧
      ∀ action, action ∈ actions ↔ g.Offered first.fleet key entry.state action := by
  have declared := h.declared
  rw [listAcross_of_guard guard] at declared ⊢
  exact ⟨_, rfl, fun action => (g.mem_actionsIn _ key _ action).trans (Offered.congr declared)⟩

theorem found_offers (h : g.SeeAlike key first second asked answered) {resource : Resource}
    (found : (Fleet.find second.fleet key).1 = .ok (some resource)) :
    ∃ actions, (g.listAcross key asked answered).1 = .ok actions ∧
      ∀ action, action ∈ actions ↔
        g.Offered first.fleet key (g.presentState second.guards key resource.rawStatus) action := by
  rcases guard : asked.guards.get? key with _ | entry
  · have declared := h.declared
    rw [listAcross_of_free guard] at declared ⊢
    have observed : (g.observe key answered).1 =
        .ok (some (g.normalizer.normalize key.backend resource.rawStatus)) := by
      simp only [observe, h.found guard, found]
      rfl
    rw [observed, presentState_of_free (h.guard.symm.trans guard)]
    exact ⟨_, rfl, fun action => (g.mem_actionsIn _ key _ action).trans (Offered.congr declared)⟩
  · rw [presentState_of_guard (h.guard.symm.trans guard)]
    exact h.guarded guard

theorem absent (h : g.SeeAlike key first second asked answered) (free : asked.guards.get? key = none)
    (missing : (Fleet.find second.fleet key).1 = .ok none) : (g.listAcross key asked answered).1 = .ok [] := by
  rw [listAcross_of_free free]
  simp only [observe, h.found free, missing]
  rfl

theorem failed (h : g.SeeAlike key first second asked answered) (free : asked.guards.get? key = none)
    {e : BackendError} (failed : (Fleet.find second.fleet key).1 = .error e) :
    (g.listAcross key asked answered).1 = .error e := by
  rw [listAcross_of_free free]
  simp only [observe, h.found free, failed]
  rfl

end SeeAlike

end Gateway

/-! ## In traffic -/

namespace Traffic

open Gateway

variable {g : Gateway} {moves : List (Move σ)} {desk : Desk σ}

theorem exists_desks_of_listed {key : ResourceKey} {answer : BackendResult (List String)}
    (h : .listed key answer ∈ (run g moves (begin desk : Traffic σ φ)).1) :
    ∃ asked ∈ desks g moves (begin desk : Traffic σ φ), ∃ answered ∈ desks g moves (begin desk : Traffic σ φ),
      answer = (g.listAcross key asked answered).1 := by
  obtain ⟨earlier, move, sub, shown⟩ := exists_step_of_mem h
  have here : (run g earlier (begin desk : Traffic σ φ)).2.desk ∈ desks g moves (begin desk : Traffic σ φ) :=
    sub.subset (List.mem_append_right _ List.mem_cons_self)
  have before : desks g earlier (begin desk : Traffic σ φ) ⊆ desks g moves (begin desk : Traffic σ φ) :=
    List.Subset.trans (List.subset_append_left _ _) sub.subset
  rcases stretch_of_event shown with ⟨demand, _, event⟩ | ⟨place, job, rfl, at_place, event⟩
  · have taken := g.accepted (φ := φ) demand (run g earlier (begin desk : Traffic σ φ)).2.desk
    generalize (g.accept demand _ : Stretch σ φ) = s at taken event
    cases taken with
    | listed _ state overlay =>
      cases event
      refine ⟨_, here, _, here, ?_⟩
      simp only [listAcross, overlay]
    | _ => cases event
  · have gone := g.resumed job (run g earlier (begin desk : Traffic σ φ)).2.desk
    generalize (g.resume job _ : Stretch σ φ) = s at gone event
    cases gone with
    | listed _ =>
      cases event
      cases (stems g earlier desk _ (List.mem_of_getElem? at_place)).mono before with
      | listing _ asked there free =>
        refine ⟨asked, there, _, here, ?_⟩
        simp only [listAcross, free]
    | _ => cases event

theorem exists_desks_of_reached {request : ActionRequest}
    (h : .reached request ∈ (run g moves (begin desk : Traffic σ φ)).1) :
    ∃ first ∈ desks g moves (begin desk : Traffic σ φ), ∃ second ∈ desks g moves (begin desk : Traffic σ φ),
      g.calls request first second = [actionCall request] := by
  obtain ⟨earlier, move, sub, shown⟩ := exists_step_of_mem h
  have here : (run g earlier (begin desk : Traffic σ φ)).2.desk ∈ desks g moves (begin desk : Traffic σ φ) :=
    sub.subset (List.mem_append_right _ List.mem_cons_self)
  have before : desks g earlier (begin desk : Traffic σ φ) ⊆ desks g moves (begin desk : Traffic σ φ) :=
    List.Subset.trans (List.subset_append_left _ _) sub.subset
  obtain ⟨place, machine, rfl, at_place, admitted⟩ := looking_of_reached shown
  cases (stems g earlier desk _ (List.mem_of_getElem? at_place)).mono before with
  | looking _ _ first there entered =>
    refine ⟨first, there, _, here, calls_of_admissible ?_⟩
    obtain ⟨resource, target, found, checked⟩ := checked_of_admitted admitted
    obtain ⟨declared, hm⟩ := of_enter_ok entered
    rw [presentState_eq] at checked
    exact ⟨declared, machine, resource, target, hm, found, checked⟩

end Traffic

/-- **Actions on offer.** What the gateway offers for a resource is what it lets through. If an action and a question for
the list see the same:

1. for a resource that the lookup finds, the list is answered, and an action makes its call if it is on the list, and
   none if it is not;
2. for one that has no guard and is not found, the list is empty, and where its lookup fails, the error is told instead;
3. for one that has a guard, the list holds what the state of the guard offers, whatever the lookup says;
4. nothing is called for a resource that is not found, so that the list of 3. is then shown to no avail;
5. every list is strictly ascending.

One desk may stand for two of them, or for all, and every list and every call of a traffic comes of its desks. -/
theorem Gateway.offers_agree (g : Gateway) (key : ResourceKey) (first second asked answered : Desk σ)
    (alike : g.SeeAlike key first second asked answered) :
    let found := (Fleet.find second.fleet key).1
    let offers := (g.listAcross key asked answered).1
    (∀ resource, found = .ok (some resource) → ∃ actions, offers = .ok actions ∧
      ∀ request, request.key = key →
        g.calls request first second = if request.action ∈ actions then [actionCall request] else []) ∧
    (asked.guards.get? key = none →
      (found = .ok none → offers = .ok []) ∧ ∀ e, found = .error e → offers = .error e) ∧
    (∀ entry, asked.guards.get? key = some entry → ∃ actions, offers = .ok actions ∧
      ∀ action, action ∈ actions ↔ g.Offered first.fleet key entry.state action) ∧
    ((∀ resource, found ≠ .ok (some resource)) → ∀ request, request.key = key → g.calls request first second = []) ∧
    (∀ actions, offers = .ok actions → actions.Pairwise (· < ·)) ∧
    (∀ desk : Desk σ, g.listAcross key desk desk = g.availableActions key desk ∧
      ∀ request, g.dispatchAcross request desk desk = g.dispatch request desk) ∧
    ∀ moves (desk : Desk σ),
      let desks := Traffic.desks g moves (.begin desk)
      let events := (Traffic.run g moves (.begin desk)).1
      (∀ answer, .listed key answer ∈ events → ∃ asked ∈ desks, ∃ answered ∈ desks,
        answer = (g.listAcross key asked answered).1) ∧
      ∀ request, .reached request ∈ events → ∃ first ∈ desks, ∃ second ∈ desks,
        g.calls request first second = [actionCall request] := by
  intro found offers
  refine ⟨?_, ?_, ?_, ?_, ?_, ?_, ?_⟩
  · intro resource shown
    obtain ⟨actions, listed, offered⟩ := alike.found_offers shown
    refine ⟨actions, listed, ?_⟩
    rintro request rfl
    exact calls_of_found shown offered
  · exact fun free => ⟨alike.absent free, fun e => alike.failed free⟩
  · exact fun entry => alike.guarded
  · rintro missing request rfl
    exact calls_of_missing missing
  · exact fun actions => pairwise_listAcross
  · exact fun desk => ⟨g.listAcross_self key desk, fun request => rfl⟩
  · exact fun moves desk => ⟨fun answer => Traffic.exists_desks_of_listed, fun request => Traffic.exists_desks_of_reached⟩

namespace Waiting

open Solo

/-- A backend that holds a stopped server. -/
def holding : SimulatedBackend := (SimulatedBackend.new .mock).insert ⟨.server, uuidText 0⟩ "stopped"

/-- The resource that a lookup of the server shows. -/
def stopped : Resource := .plain "mock" .server (uuidText 0) "stopped"

/-- A stopped server may be destroyed or started, and is not stopped again. -/
theorem offers_stopped :
    ((gateway holding).listAcross (server holding) (desk holding) (desk holding)).1 = .ok ["destroy", "start"] ∧
      (gateway holding).calls (request holding "start") (desk holding) (desk holding) =
        [Gateway.actionCall (request holding "start")] ∧
      (gateway holding).calls (request holding "stop") (desk holding) (desk holding) = [] := by
  have listed : ((gateway holding).listAcross (server holding) (desk holding) (desk holding)).1 =
      .ok ["destroy", "start"] := by decide +kernel
  have alike : (gateway holding).SeeAlike (server holding) (desk holding) (desk holding) (desk holding) (desk holding) :=
    ⟨rfl, by decide +kernel, fun _ => rfl⟩
  have found : (Fleet.find (desk holding).fleet (server holding)).1 = .ok (some stopped) := by decide +kernel
  obtain ⟨actions, shown, called⟩ := ((gateway holding).offers_agree (server holding) _ _ _ _ alike).1 stopped found
  obtain rfl : ["destroy", "start"] = actions := Except.ok.inj (listed.symm.trans shown)
  have starts := called (request holding "start") (key_request holding "start")
  have stops := called (request holding "stop") (key_request holding "stop")
  rw [action_request] at starts stops
  exact ⟨listed, starts.trans (if_pos (by decide)), stops.trans (if_neg (by decide))⟩

end Waiting

end CloudLifecycle
