import CloudLifecycle.Proofs.Gateway.Parks
import CloudLifecycle.Proofs.Gateway.Phases

/-!
# Destroyed resources

What keeps a destroyed resource destroyed? Its status is terminal for its machine, and no progress leads away from it
(`Final`), so that neither a look nor the end of a convergence moves it. An action might, if it reached the backend: the
machine allows none in that status, but a resource under guard counts as pending, and then it may be destroyed once
more (`Rests.reached`). And a call that was on its way before may land after the destruction.

`Rests` says that none of this moves the resource: all calls about it that are on their way are of actions after which
its backend reports the status that it has. It is kept by every move that sends off no other action, and so are the
calls that the backend receives (`Rests.step`, `Rests.run`).
-/

namespace CloudLifecycle

open Gateway

/-- A status in which a resource rests: it moves neither by itself nor by the actions that are admitted, and its machine
has nothing that leads away. -/
structure Final (g : Gateway) (key : ResourceKey) (profile : Profile) (raw : String) (admits : ActionRequest → Prop) :
    Prop where
  still : profile.nextStatus? raw = none
  terminal : ∃ machine, g.catalog.get? key.kind = some machine ∧
    machine.isTerminal (g.normalizer.normalize key.backend raw) = true
  repeats : ∀ request, admits request → profile.reportedStatus? request.action = some raw

/-- A resource rests: its backend holds it in a status, and whatever is on its way about it is an action that is
admitted. -/
structure Rests (key : ResourceKey) (profile : Profile) (raw : String) (admits : ActionRequest → Prop)
    (t : Traffic (Recorded Park) Flight) : Prop where
  plays : t.desk.fleet.fleet.profile? key.backend = some profile
  held : t.desk.fleet.fleet.rawStatus? key = some raw
  calls : ∀ job ∈ t.jobs, job.call?.bind Call.key? = some key → ∃ request flight, job = .acting request flight ∧
    admits request

/-- No convergence takes a resource in such a status for one that has come up. -/
theorem Final.not_settled {g : Gateway} {key : ResourceKey} {profile : Profile} {raw : String}
    {admits : ActionRequest → Prop} (h : Final g key profile raw admits)
    (moves : isTerminalFor (g.catalog.get? key.kind) (g.normalizer.normalize key.backend raw) = false) :
    isSettledFor (g.catalog.get? key.kind) (g.normalizer.normalize key.backend raw) = false := by
  obtain ⟨machine, found, terminal⟩ := h.terminal
  rw [found] at moves ⊢
  simp only [isTerminalFor, terminal, Bool.and_true] at moves
  simp only [isSettledFor, Machine.isSettled, moves, Bool.false_and]

/-- What a convergence sees of a resource is what its park holds. -/
theorem Gateway.rawStatus?_of_observe {g : Gateway} {key : ResourceKey} {desk : Desk (Recorded Park)} {s : LifecycleState}
    (simulated : desk.fleet.fleet.Simulated) (seen : (g.observe key desk).1 = .ok (some s)) :
    ∃ raw, desk.fleet.fleet.rawStatus? key = some raw ∧ s = g.normalizer.normalize key.backend raw := by
  obtain ⟨resource, shown, means⟩ := resource_of_observe seen
  have finds := simulated.finds key
  rw [show (desk.fleet.fleet.find key).1 = _ from shown] at finds
  exact ⟨resource.rawStatus, finds.held.1, means.symm⟩

/-! ## What the machines allow -/

/-- While it counts as pending, a server or a system may be destroyed, and that is all that the standard machines
allow. -/
theorem pending_standard {kind : ResourceKind} {machine : Machine} (h : Catalog.standard.get? kind = some machine)
    {action : String} (allowed : action ∈ machine.actionsFrom .pending) :
    action = "destroy" ∧ (kind = .server ∨ kind = .system) := by
  have all : ∀ kind ∈ ResourceKind.all, ∀ machine ∈ Catalog.standard.get? kind, ∀ action ∈ machine.actionsFrom .pending,
      action = "destroy" ∧ (kind = .server ∨ kind = .system) := by
    decide
  exact all kind (ResourceKind.mem_all kind) machine h action allowed

/-! ## Rest -/

namespace Rests

open Traffic (Orderly step run)

variable {g : Gateway} {key : ResourceKey} {profile : Profile} {raw : String} {admits : ActionRequest → Prop}
  {t : Traffic (Recorded Park) Flight} {move : Move (Recorded Park)}

/-- A call about a resource at rest leaves it in its status. -/
theorem held_landed (h : Rests key profile raw admits t) (final : Final g key profile raw admits) (orderly : Orderly g t)
    (unmade : ∀ event, (step g move t).1 = some event → event.made? ≠ some key) {job : Job Flight} (mem : job ∈ t.jobs)
    (shown : (step g move t).1 = (g.resume job t.desk).event) {flight : Flight} (waits : job.flight? = some flight) :
    (t.desk.fleet.fleet.land flight).2.rawStatus? key = some raw := by
  have its_own := orderly.its_own job mem flight waits
  have lands := orderly.simulated.lands flight
  by_cases about : flight.call.key? = some key
  · obtain ⟨request, flight', rfl, admitted⟩ := h.calls job mem (by rw [its_own]; exact about)
    have call : actionCall request = flight.call := Option.some.inj its_own
    obtain rfl : request.key = key := Option.some.inj ((congrArg Call.key? call).trans about)
    rcases answered : (t.desk.fleet.fleet.land flight).1 with e | receipt
    · rw [answered] at lands
      rw [lands.untouched nofun]
      exact h.held
    · exact rawStatus?_of_acted orderly.simulated call answered h.plays (final.repeats request admitted)
  · rw [lands.untouched (receipt_ne orderly.simulated waits its_own about (by rwa [shown] at unmade))]
    exact h.held

/-- The status of a resource at rest is kept by every move. -/
theorem held_step (h : Rests key profile raw admits t) (final : Final g key profile raw admits) (orderly : Orderly g t)
    (calm : move.isDrift = false) (unmade : ∀ event, (step g move t).1 = some event → event.made? ≠ some key) :
    (step g move t).2.desk.fleet.fleet.rawStatus? key = some raw := by
  have kept := Traffic.fleet_step (g := g) (t := t)
    (P := fun r => t.desk.fleet.fleet.Alike r.fleet ∧ r.fleet.rawStatus? key = some raw) calm ?_ ?_ ?_
    ⟨orderly.simulated.alike, h.held⟩
  · exact kept.2
  · rintro r k ⟨alike, held⟩
    have finds := alike.simulated.finds k
    have plays := (alike.profile? key.backend).trans h.plays
    exact ⟨alike.trans (finds.alike alike.simulated), finds.kept plays final.still held⟩
  · rintro r call ⟨alike, held⟩
    have same : (Fleet.launch r call).2.fleet = r.fleet := alike.simulated.launch call
    rw [same]
    exact ⟨alike, held⟩
  · intro job mem shown flight waits
    exact ⟨orderly.simulated.alike_land flight,
      h.held_landed final orderly unmade mem shown waits⟩

/-- No call about a resource at rest is sent off, but those of actions that are admitted. -/
theorem calls_step (h : Rests key profile raw admits t) (final : Final g key profile raw admits) (orderly : Orderly g t)
    (admitted : ∀ request, (step g move t).1 = some (.reached request) → request.key = key → admits request) :
    ∀ job ∈ (step g move t).2.jobs, job.call?.bind Call.key? = some key →
      ∃ request flight, job = .acting request flight ∧ admits request := by
  refine Traffic.forall_jobs_step h.calls ?_ ?_
  · intro demand job next about
    have taken := g.accepted (φ := Flight) demand t.desk
    generalize (g.accept demand t.desk : Stretch (Recorded Park) Flight) = s at taken next
    cases taken with
    | entered | sent | claimed | asking | listing =>
      cases next
      cases about
    | _ => cases next
  · intro job mem shown job' next about
    have gone := g.resumed job t.desk
    rw [shown] at admitted
    generalize g.resume job t.desk = s at gone next admitted
    cases gone with
    | reached request machine _ =>
      cases next
      exact ⟨request, _, rfl, admitted request rfl (Option.some.inj about)⟩
    | provisioned request flight =>
      obtain ⟨c, _, rfl⟩ := Option.map_eq_some_iff.mp next
      cases about
    | going phase rest time later turn =>
      cases next
      have went := g.advanced phase t.desk
      rw [turn] at went
      cases went with
      | waits c kept _ _ => cases about
      | finishes c kept same s seen moves settled =>
        have on : c.key = key := same.symm.trans (Option.some.inj about)
        rw [on] at seen moves settled
        obtain ⟨raw', held, rfl⟩ := rawStatus?_of_observe orderly.simulated seen
        rw [h.held] at held
        cases held
        rw [final.not_settled moves] at settled
        cases settled
    | _ => cases next

/-- Rest is kept by every move that sends off no action which is not admitted. -/
theorem step (h : Rests key profile raw admits t) (final : Final g key profile raw admits) (orderly : Orderly g t)
    (calm : move.isDrift = false) (unmade : ∀ event, (step g move t).1 = some event → event.made? ≠ some key)
    (admitted : ∀ request, (step g move t).1 = some (.reached request) → request.key = key → admits request) :
    Rests key profile raw admits (step g move t).2 where
  plays := ((orderly.alike_step calm).profile? key.backend).trans h.plays
  held := h.held_step final orderly calm unmade
  calls := h.calls_step final orderly admitted

/-- The only action that gets through to a resource at rest is one that destroys it, while it is under guard. -/
theorem reached (h : Rests key profile raw admits t) (final : Final g key profile raw admits) (orderly : Orderly g t)
    (standard : g.catalog = .standard) {request : ActionRequest}
    (shown : (Traffic.step g move t).1 = some (.reached request)) (on : request.key = key) :
    t.desk.guards.get? key = some .converging ∧ request.action = "destroy" ∧
      (key.kind = .server ∨ key.kind = .system) := by
  subst on
  obtain ⟨machine, raw', target, found, held, _, checked⟩ := orderly.checked shown
  obtain rfl : raw' = raw := Option.some.inj (held.symm.trans h.held)
  have allowed := (machine.exists_check_iff _ _).mp ⟨_, checked⟩
  rcases guard : t.desk.guards.get? request.key with _ | _ | reason
  · rw [presentState_of_free guard] at allowed
    obtain ⟨machine', found', terminal⟩ := final.terminal
    obtain rfl : machine = machine' := Option.some.inj (found.symm.trans found')
    rw [((Machine.isTerminal_iff _ _).mp terminal).1] at allowed
    cases allowed
  · rw [presentState_of_guard guard] at allowed
    rw [standard] at found
    exact ⟨rfl, pending_standard found allowed⟩
  · rw [presentState_of_guard guard] at allowed
    rw [show (GuardEntry.failed reason).state = .failed from rfl,
      stuckWhenFailed_standard standard request.kind machine found] at allowed
    cases allowed

/-- A resource at rest stays there, as long as those actions that destroy it and get through are admitted, and its
backend receives no other calls about it. -/
theorem run (h : Rests key profile raw admits t) (final : Final g key profile raw admits) (orderly : Orderly g t)
    (standard : g.catalog = .standard) {moves : List (Move (Recorded Park))} (calm : ∀ move ∈ moves, move.isDrift = false)
    (unmade : ∀ event ∈ (Traffic.run g moves t).1, event.made? ≠ some key)
    (admitted : ∀ request, .reached request ∈ (Traffic.run g moves t).1 → request.key = key →
      request.action = "destroy" → admits request) :
    Rests key profile raw admits (Traffic.run g moves t).2 ∧
      ∃ asked, (Traffic.run g moves t).2.desk.fleet.record = t.desk.fleet.record ++ asked ∧
        ∀ call ∈ asked.filterMap Ask.call?, call.key? = some key → ∃ request, admits request ∧
          call = actionCall request := by
  induction moves generalizing t with
  | nil => exact ⟨h, [], (List.append_nil _).symm, nofun⟩
  | cons move moves ih =>
    rw [List.forall_mem_cons] at calm
    rw [Traffic.run, List.forall_mem_append] at unmade
    have now := h.step final orderly calm.1 (fun event shown => unmade.1 event (by rw [shown]; exact List.mem_cons_self))
      fun request shown on => admitted request (by rw [Traffic.run, shown]; exact List.mem_append_left _ List.mem_cons_self)
        on (h.reached final orderly standard shown on).2.1
    obtain ⟨rests, asked, recorded, about⟩ := ih now (orderly.step calm.1) calm.2 unmade.2 fun request mem =>
      admitted request (List.mem_append_right _ mem)
    obtain ⟨asked', recorded', waits⟩ := Traffic.asked_step calm.1 t
    refine ⟨rests, asked' ++ asked, ?_, ?_⟩
    · rw [Traffic.run, recorded, recorded', List.append_assoc]
    · intro call mem on
      rw [List.filterMap_append, List.mem_append] at mem
      rcases mem with mem | mem
      · obtain ⟨job, there, its_call⟩ := waits call mem
        obtain ⟨request, flight, rfl, admitted⟩ := now.calls job there (by rw [its_call]; exact on)
        exact ⟨request, admitted, (Option.some.inj its_call).symm⟩
      · exact about call mem on

/-- A resource still rests when a move shows some event, if before that no action has got through that is not admitted. -/
theorem at_event (h : Rests key profile raw admits t) (final : Final g key profile raw admits) (orderly : Orderly g t)
    (standard : g.catalog = .standard) {moves : List (Move (Recorded Park))} (calm : ∀ move ∈ moves, move.isDrift = false)
    (unmade : ∀ event ∈ (Traffic.run g moves t).1, event.made? ≠ some key) {before after : List Event} {event : Event}
    (split : (Traffic.run g moves t).1 = before ++ event :: after)
    (admitted : ∀ request, .reached request ∈ before → request.key = key → request.action = "destroy" →
      admits request) :
    ∃ earlier move, earlier <+: moves ∧ (Traffic.run g earlier t).1 = before ∧
      (Traffic.step g move (Traffic.run g earlier t).2).1 = some event ∧ Orderly g (Traffic.run g earlier t).2 ∧
      Rests key profile raw admits (Traffic.run g earlier t).2 := by
  obtain ⟨earlier, move, later, rfl, seen, moved, _⟩ := Traffic.exists_move_of_run split
  have calm' := (List.forall_mem_append.mp calm).1
  refine ⟨earlier, move, List.prefix_append _ _, seen, moved, (orderly.run calm').1, ?_⟩
  refine (h.run final orderly standard calm' (fun e mem => unmade e ?_) fun request mem => admitted request (seen ▸ mem)).1
  rw [Traffic.run_append]
  exact List.mem_append_left _ mem

end Rests

end CloudLifecycle
