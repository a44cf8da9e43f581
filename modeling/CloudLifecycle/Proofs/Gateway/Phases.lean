import CloudLifecycle.Backend.Builtin
import CloudLifecycle.Proofs.Gateway.Moves
import CloudLifecycle.Proofs.Gateway.Owners

/-!
# The phases of a guard

What callers see of a resource follows its guard through three phases, whatever its backend reports and whatever
else goes on (`phases_seen`):

1. from the event with which a convergence begins to that with which it ends, the resource counts as pending;
2. after an end in failure it counts as failed, until someone asks to forget it or a convergence begins again;
3. after any other end it counts as its backend reports, until a convergence begins again.

This takes for granted that no backend makes up an id of which a convergence is on its way (`Fresh`): with two
convergences of one resource the end of the first would lift the guard of the second.

The argument has two halves. `SeenPending`, `SeenFailed` and `SeenAsReported` say what callers are told by a gateway
in some state, and follow from the guard alone. That the guard is the right one follows from the events since the
phase began: `Standing.Run.under_guard` for the first phase, `Standing.Run.idle` for the others, in which no
convergence is on its way that could end.
-/

namespace CloudLifecycle

variable {σ φ : Type}

/-! ## The guard during a phase -/

namespace Standing

variable {key : ResourceKey} {s s' : Standing} {events : List Event}

/-- As long as no convergence ends, a resource under guard stays there. -/
theorem Run.under_guard (hr : Run key s events s') (guarded : s.entry = some .converging)
    (unended : ∀ outcome, .ended key outcome ∉ events) :
    s'.entry = some .converging ∧ s.inFlight ≤ s'.inFlight := by
  induction hr with
  | nil s => exact ⟨guarded, Nat.le_refl _⟩
  | @cons s s₁ s' event events hs _ ih =>
    have later : ∀ outcome, .ended key outcome ∉ events := fun outcome mem =>
      unended outcome (List.mem_cons_of_mem event mem)
    cases hs with
    | quiet _ _ _ => exact ih guarded later
    | provisioned _ _ _ _ | claimed _ _ =>
      obtain ⟨entry, more⟩ := ih rfl later
      exact ⟨entry, Nat.le_trans (Nat.le_succ s.inFlight) more⟩
    | ended _ _ outcome => exact absurd List.mem_cons_self (unended outcome)
    | forgotten _ _ => cases guarded

/-- Without a convergence on its way the guard over a resource stays as it is, until one begins or a failure is
forgotten. -/
theorem Run.idle (hr : Run key s events s') (none_yet : s.inFlight = 0)
    (unbegun : ∀ event ∈ events, event.begun? ≠ some key)
    (unforgotten : ∀ reason, s.entry = some (.failed reason) → .cleared key true ∉ events) : s' = s := by
  induction hr with
  | nil s => rfl
  | @cons s s₁ s' event events hs _ ih =>
    have later : ∀ event ∈ events, event.begun? ≠ some key := fun e mem => unbegun e (List.mem_cons_of_mem event mem)
    cases hs with
    | quiet _ _ _ =>
      exact ih none_yet later fun reason h mem => unforgotten reason h (List.mem_cons_of_mem event mem)
    | provisioned _ _ _ made => exact absurd made (unbegun _ List.mem_cons_self)
    | claimed _ _ => exact absurd rfl (unbegun _ List.mem_cons_self)
    | ended _ _ _ => cases none_yet
    | forgotten reason _ => exact absurd List.mem_cons_self (unforgotten reason rfl)

end Standing

namespace Gateway

variable [Fleet σ φ]

/-- An action on a resource is judged against the state that `counts` makes of what its backend reports. If the
resource is found, the action is sent off exactly if the machine allows it in that state, and is illegal otherwise. -/
def Judges (g : Gateway) (desk : Desk σ) (key : ResourceKey) (counts : String → LifecycleState) : Prop :=
  ∀ (request : ActionRequest) (machine : Machine) (resource : Resource), request.key = key →
    lookup request desk = .ok (some resource) →
      g.judge request machine desk =
        match machine.check (counts resource.rawStatus) request.action with
        | .ok _ =>
          let sent := g.call (actionCall request) (lookedUp request desk)
          (.waiting sent.1.1 sent.1.2, sent.2)
        | .error e => (.done ((ActionResult.illegal e).withResourceId request.resourceId), lookedUp request desk)

theorem judges_presentState (g : Gateway) (desk : Desk σ) (key : ResourceKey) :
    g.Judges desk key (g.presentState desk.guards key) := by
  rintro request machine resource rfl found
  have hf : (Fleet.find desk.fleet request.key).1 = .ok (some resource) := found
  cases hc : machine.check (g.presentState desk.guards request.key resource.rawStatus) request.action with
  | ok target =>
    apply judge_of_admitted
    simp only [admission, hf, hc]
  | error e =>
    apply judge_of_refused
    simp only [admission, hf, hc]

/-! ## Failed resources of which nothing can be asked -/

/-- The machine for a kind, if it has one, allows no action on a failed resource. -/
def StuckWhenFailed (g : Gateway) (kind : ResourceKind) : Prop :=
  ∀ machine, g.catalog.get? kind = some machine → machine.actionsFrom .failed = []

theorem stuckWhenFailed_standard {g : Gateway} (h : g.catalog = .standard) (kind : ResourceKind) :
    g.StuckWhenFailed kind := by
  have all : ∀ kind ∈ ResourceKind.all, ∀ machine ∈ Catalog.standard.get? kind, machine.actionsFrom .failed = [] := by
    decide
  intro machine hm
  rw [h] at hm
  exact all kind (ResourceKind.mem_all kind) machine hm

theorem check_eq_error {machine : Machine} {state : LifecycleState} (h : machine.actionsFrom state = [])
    (action : String) : machine.check state action = .error ⟨machine.kind, state, action⟩ := by
  have absent : machine.target? state action = none := by
    rw [← Option.not_isSome_iff_eq_none, ← Machine.mem_actionsFrom, h]
    exact List.not_mem_nil
  simp only [Machine.check, absent]

theorem judge_of_stuck {g : Gateway} {request : ActionRequest} {machine : Machine} {desk : Desk σ} {reason : String}
    (h : desk.guards.get? request.key = some (.failed reason)) (stuck : machine.actionsFrom .failed = []) :
    ∃ result, g.judge request machine desk = (.done result, lookedUp request desk) := by
  rcases hl : (Fleet.find desk.fleet request.key).1 with e | _ | resource
  · exact ⟨_, judge_of_refused (by rw [hl]; rfl)⟩
  · exact ⟨_, judge_of_refused (by rw [hl]; rfl)⟩
  · refine ⟨(ActionResult.illegal ⟨machine.kind, .failed, request.action⟩).withResourceId request.resourceId,
      judge_of_refused ?_⟩
    rw [hl, admission, presentState_of_guard h, GuardEntry.state, check_eq_error stuck]

end Gateway

namespace Traffic

variable [Fleet σ φ]

/-! ## What callers see -/

/-- The state of a resource is told at once, and nothing changes. Over a recorded fleet, where every question leaves
its mark, this means that no lookup was made. -/
def Tells (g : Gateway) (t : Traffic σ φ) (key : ResourceKey) (state : LifecycleState) : Prop :=
  step g (.demand (.currentState key)) t = (some (.stated key (.ok (some state))), t) ∧
    g.currentState key t.desk = (.ok (some state), t.desk)

/-- What callers see of a resource that counts as pending: its state, by which every action is judged, and that
there is no failure to forget. -/
structure SeenPending (g : Gateway) (t : Traffic σ φ) (key : ResourceKey) : Prop where
  told : Tells g t key .pending
  judged : g.Judges t.desk key fun _ => .pending
  kept : step g (.demand (.clearFailure key)) t = (some (.cleared key false), t) ∧
    Gateway.clearFailure key t.desk = (false, t.desk)

/-- No action on a resource gets through: none is offered, no move brings one to the backend, and one that is asked
for now or was asked for on another desk ends without a call. -/
structure Barred (g : Gateway) (t : Traffic σ φ) (key : ResourceKey) : Prop where
  offered : step g (.demand (.availableActions key)) t = (some (.listed key (.ok [])), t) ∧
    g.availableActions key t.desk = (.ok [], t.desk)
  unreached : ∀ (move : Move σ) (request : ActionRequest), request.key = key →
    (step g move t).1 ≠ some (.reached request)
  refused : ∀ (request : ActionRequest) (first : Desk σ), request.key = key →
    ∃ result, g.dispatchAcross request first t.desk = (.done result, t.desk) ∨
      g.dispatchAcross request first t.desk = (.done result, Gateway.lookedUp request t.desk)

/-- What callers see of a resource that counts as failed. -/
structure SeenFailed (g : Gateway) (t : Traffic σ φ) (key : ResourceKey) : Prop where
  told : Tells g t key .failed
  judged : g.Judges t.desk key fun _ => .failed

/-- What callers see of a resource that counts as its backend reports. -/
structure SeenAsReported (g : Gateway) (t : Traffic σ φ) (key : ResourceKey) : Prop where
  told : g.currentState key t.desk =
    ((Fleet.find t.desk.fleet key).1.map fun found =>
        found.map fun r => g.normalizer.normalize key.backend r.rawStatus,
      { t.desk with fleet := (Fleet.find t.desk.fleet key).2 })
  asked : step g (.demand (.currentState key)) t = (none, ⟨t.desk, t.jobs ++ [.asking key]⟩)
  judged : g.Judges t.desk key (g.normalizer.normalize key.backend)

section

variable {g : Gateway} {t : Traffic σ φ} {key : ResourceKey}

theorem tells_of_guard {entry : GuardEntry} (h : t.desk.guards.get? key = some entry) :
    Tells g t key entry.state := by
  have ho : t.desk.guards.overlay key = some entry.state := Guards.overlay_of_guard h
  constructor
  · simp [step, Gateway.accept, ho]
  · simp [Gateway.currentState, ho]

theorem judges_of_guard {entry : GuardEntry} (h : t.desk.guards.get? key = some entry) :
    g.Judges t.desk key fun _ => entry.state := by
  rw [← Gateway.presentState_of_guard h]
  exact g.judges_presentState t.desk key

theorem seenPending_of_guard (h : t.desk.guards.get? key = some .converging) : SeenPending g t key where
  told := tells_of_guard h
  judged := judges_of_guard h
  kept := by
    have hc : Gateway.clearFailure key t.desk = (false, t.desk) := by simp [Gateway.clearFailure, h]
    refine ⟨?_, hc⟩
    simp [step, Gateway.accept, hc]

theorem seenFailed_of_guard {reason : String} (h : t.desk.guards.get? key = some (.failed reason)) :
    SeenFailed g t key where
  told := tells_of_guard h
  judged := judges_of_guard h

/-- Every action that waits for its lookup goes by the machine for its kind. -/
def Catalogued (g : Gateway) (t : Traffic σ φ) : Prop :=
  ∀ request machine, .looking request machine ∈ t.jobs → g.catalog.get? request.kind = some machine

theorem Catalogued.step (h : Catalogued g t) (move : Move σ) : Catalogued g (step g move t).2 := by
  have each : ∀ job ∈ (Traffic.step g move t).2.jobs, ∀ request machine, job = .looking request machine →
      g.catalog.get? request.kind = some machine := by
    refine forall_jobs_step (fun job mem request machine same => h request machine (same ▸ mem)) ?_ ?_
    · rintro demand job next request machine rfl
      have taken := g.accepted (φ := φ) demand t.desk
      generalize (g.accept demand t.desk : Stretch σ φ) = s at taken next
      cases taken with
      | entered request' machine' entered =>
        cases next
        exact (Gateway.of_enter_ok entered).2
      | _ => cases next
    · rintro job _ _ left next request machine rfl
      have gone := g.resumed job t.desk
      generalize g.resume job t.desk = s at gone next
      cases gone with
      | provisioned request' flight =>
        obtain ⟨c, _, same⟩ := Option.map_eq_some_iff.mp next
        cases same
      | _ => cases next
  exact fun request machine mem => each _ mem request machine rfl

theorem Catalogued.run (h : Catalogued g t) (moves : List (Move σ)) : Catalogued g (run g moves t).2 := by
  induction moves generalizing t with
  | nil => exact h
  | cons move moves ih => exact ih (h.step move)

theorem barred_of_guard {reason : String} (h : t.desk.guards.get? key = some (.failed reason))
    (stuck : g.StuckWhenFailed key.kind) (catalogued : Catalogued g t) : Barred g t key where
  offered := by
    have ho : t.desk.guards.overlay key = some .failed := Guards.overlay_of_guard h
    have ha : g.actionsIn t.desk.fleet key .failed = [] := by
      unfold Gateway.actionsIn
      split
      · next machine hm => rw [stuck machine hm, List.filter_nil]
      · rfl
    constructor
    · simp [step, Gateway.accept, ho, ha]
    · simp [Gateway.availableActions, Gateway.currentState, Gateway.actionsOf, ho, ha]
  unreached := by
    rintro move request rfl reached
    obtain ⟨place, machine, _, at_place, admitted⟩ := looking_of_reached reached
    have known := catalogued request machine (List.mem_of_getElem? at_place)
    obtain ⟨result, done⟩ := Gateway.judge_of_stuck (g := g) h (stuck machine known)
    rw [Gateway.judge_of_admitted admitted] at done
    cases done
  refused := by
    rintro request first rfl
    unfold Gateway.dispatchAcross
    cases he : g.enter request first.fleet with
    | error result => exact ⟨result, .inl rfl⟩
    | ok machine =>
      obtain ⟨result, done⟩ := Gateway.judge_of_stuck (g := g) h (stuck machine (Gateway.of_enter_ok he).2)
      exact ⟨result, .inr done⟩

theorem seenAsReported_of_free (h : t.desk.guards.get? key = none) : SeenAsReported g t key where
  told := by
    have ho : t.desk.guards.overlay key = none := Guards.overlay_of_free h
    simp [Gateway.currentState, ho, Gateway.observe]
  asked := by
    have ho : t.desk.guards.overlay key = none := Guards.overlay_of_free h
    simp [step, Gateway.accept, ho]
  judged := by
    rw [← Gateway.presentState_of_free h]
    exact g.judges_presentState t.desk key

end

/-! ## The phases -/

/-- Where an event of a run stands in the life of a resource: what it does to its standing, and what the events after
it make of that. -/
theorem exists_turn {g : Gateway} {moves : List (Move σ)} {desk : Desk σ} {before after : List Event} {event : Event}
    (fresh : Fresh g moves (begin desk : Traffic σ φ))
    (h : (run g moves (begin desk : Traffic σ φ)).1 = before ++ event :: after) (key : ResourceKey) :
    ∃ s s', s.Single ∧ Standing.Step key s (some event) s' ∧
      Standing.Run key s' after ((run g moves (begin desk : Traffic σ φ)).2.standing key) := by
  obtain ⟨earlier, move, later, rfl, _, moved, rest⟩ := exists_move_of_run h
  have single := single_of_fresh (fresh.of_prefix (List.prefix_append earlier (move :: later))) key
  have turn := step_standing g move (run g earlier (begin desk : Traffic σ φ)).2 key
  have life := run_standing g later (step g move (run g earlier (begin desk : Traffic σ φ)).2).2 key
  rw [moved] at turn
  rw [rest] at life
  exact ⟨_, _, single, turn, life⟩

/-- After the end of a convergence the guard over its resource stays as the outcome left it. -/
theorem guard_of_ended {g : Gateway} {moves : List (Move σ)} {desk : Desk σ} {before after : List Event}
    {key : ResourceKey} {outcome : Outcome} (fresh : Fresh g moves (begin desk : Traffic σ φ))
    (h : (run g moves (begin desk : Traffic σ φ)).1 = before ++ .ended key outcome :: after)
    (unbegun : ∀ event ∈ after, event.begun? ≠ some key)
    (unforgotten : ∀ reason, outcome.leftover = some (.failed reason) → .cleared key true ∉ after) :
    (run g moves (begin desk : Traffic σ φ)).2.desk.guards.get? key = outcome.leftover := by
  obtain ⟨s, s', single, turn, life⟩ := exists_turn fresh h key
  obtain ⟨one_less, entry⟩ := turn.of_ended
  have none_left : s'.inFlight = 0 := by
    have := single.1
    omega
  have same := life.idle none_left unbegun (by rwa [entry])
  exact (congrArg Standing.entry same).trans entry

/-- **The phases of a guard.** After a fresh schedule, over any registry to begin with:

1. a resource of which a convergence is on its way is seen as pending;
2. so it is from the event with which a convergence begins, until one ends;
3. after an end in failure it is seen as failed, until a convergence begins or the failure is forgotten; and if its
   machine allows no action there, as the standard ones do, none gets through;
4. after any other end it is seen as its backend reports, until a convergence begins.

What is seen is what callers are told who come with their questions now. -/
theorem phases_seen (g : Gateway) (desk : Desk σ) (moves : List (Move σ))
    (fresh : Fresh g moves (begin desk : Traffic σ φ)) (key : ResourceKey) :
    let events := (run g moves (begin desk : Traffic σ φ)).1
    let t := (run g moves (begin desk : Traffic σ φ)).2
    (∀ phase, .converging phase ∈ t.jobs → phase.convergence.key = key → SeenPending g t key) ∧
    (∀ before event after, events = before ++ event :: after → event.begun? = some key →
      (∀ outcome, .ended key outcome ∉ after) → t.inFlight key = 1 ∧ SeenPending g t key) ∧
    (∀ before outcome after, events = before ++ .ended key outcome :: after →
      (∃ reason, outcome = .postCreateFailed reason) ∨ (∃ attempts lastSeen, outcome = .exhausted attempts lastSeen) →
      (∀ event ∈ after, event.begun? ≠ some key) → .cleared key true ∉ after →
        SeenFailed g t key ∧ (g.StuckWhenFailed key.kind → Barred g t key)) ∧
    (∀ before outcome after, events = before ++ .ended key outcome :: after →
      (∃ state, outcome = .converged state) ∨ (∃ state, outcome = .removed state) →
      (∀ event ∈ after, event.begun? ≠ some key) → SeenAsReported g t key) ∧
    (g.catalog = .standard → g.StuckWhenFailed key.kind) := by
  intro events t
  have single : (t.standing key).Single := single_of_fresh fresh key
  refine ⟨?_, ?_, ?_, ?_, fun standard => Gateway.stuckWhenFailed_standard standard key.kind⟩
  · intro phase mem on
    have some_yet : 1 ≤ t.inFlight key := inFlight_pos.mpr ⟨phase, mem, on⟩
    exact seenPending_of_guard (single.2 (Nat.le_antisymm single.1 some_yet))
  · intro before event after h begun unended
    obtain ⟨s, s', _, turn, life⟩ := exists_turn fresh h key
    have began := turn.of_begun begun
    obtain ⟨guarded, more⟩ := life.under_guard (congrArg Standing.entry began) unended
    have some_yet : 1 ≤ t.inFlight key := by
      refine Nat.le_trans ?_ more
      rw [began]
      exact Nat.le_add_left 1 s.inFlight
    exact ⟨Nat.le_antisymm single.1 some_yet, seenPending_of_guard guarded⟩
  · intro before outcome after h failure unbegun unforgotten
    have guard := guard_of_ended fresh h unbegun fun _ _ => unforgotten
    have failed : ∃ reason, t.desk.guards.get? key = some (.failed reason) := by
      rcases failure with ⟨reason, rfl⟩ | ⟨attempts, lastSeen, rfl⟩
      · exact ⟨reason, guard⟩
      · exact ⟨exhaustionReason attempts lastSeen, guard⟩
    obtain ⟨reason, failed⟩ := failed
    have catalogued : Catalogued g (begin desk : Traffic σ φ) := nofun
    exact ⟨seenFailed_of_guard failed, fun stuck => barred_of_guard failed stuck (catalogued.run moves)⟩
  · intro before outcome after h success unbegun
    have none_left : outcome.leftover = none := by
      rcases success with ⟨state, rfl⟩ | ⟨state, rfl⟩ <;> rfl
    have guard := guard_of_ended fresh h unbegun fun reason failed => by rw [none_left] at failed; cases failed
    exact seenAsReported_of_free (guard.trans none_left)

end Traffic

/-! ## A server in every phase -/

namespace Hasty

open Traffic

/-- A park of one plain backend. -/
def park : Park := Park.routing ⟨Registry.empty.set "mock" (.simulated (.new .mock)), .empty, ⟨0, 0⟩⟩ ["mock"]

/-- A gateway with the standard machines that gives a new resource up after the first look. -/
def gateway : Gateway :=
  ⟨.standard, park.normalizer, Gateway.standardTimeout, ⟨1, .zero⟩, Gateway.standardTimeout_pos, Nat.one_pos⟩

/-- The first server that the backend makes. -/
def server : ResourceKey := ⟨"mock", .server, uuidText 0⟩

/-- A server is asked for, made and given up. Then someone waits for it to come up, which it does, and it is finished. -/
def moves : List (Move (Recorded Park)) :=
  [.demand (.create ⟨"mock", .server, .none, .null⟩), .resume 0, .resume 0, .demand (.converge server .empty), .resume 0,
    .resume 0]

/-- The gateway before that park, over a registry that is empty. -/
def start : Traffic (Recorded Park) Flight := .begin ⟨.empty, park, []⟩

/-- The server counts as pending as soon as its caller is told of it, as failed once it has been given up, as pending again
while someone waits for it, and as its backend reports once it has come up after all. -/
theorem seen_in_every_phase :
    Fresh gateway moves start ∧ SeenPending gateway (run gateway (moves.take 2) start).2 server ∧
      (SeenFailed gateway (run gateway (moves.take 3) start).2 server ∧
        Barred gateway (run gateway (moves.take 3) start).2 server) ∧
      SeenPending gateway (run gateway (moves.take 4) start).2 server ∧
      SeenAsReported gateway (run gateway moves start).2 server := by
  have fresh : Fresh gateway moves start := by decide +kernel
  have given_up : (run gateway (moves.take 3) start).1 =
      (run gateway (moves.take 2) start).1 ++ .ended server (.exhausted 1 (some .pending)) :: [] := rfl
  have come_up : (run gateway moves start).1 =
      (run gateway (moves.take 5) start).1 ++ .ended server (.converged .stopped) :: [] := rfl
  refine ⟨fresh, ?_, ?_, ?_, ?_⟩
  · exact (phases_seen gateway _ _ (fresh.of_prefix (List.take_prefix 2 _)) server).1
      (.polling (.begin server .empty)) (List.mem_singleton.mpr rfl) rfl
  · obtain ⟨_, _, failed, _, standard⟩ := phases_seen gateway _ _ (fresh.of_prefix (List.take_prefix 3 _)) server
    obtain ⟨seen, barred⟩ :=
      failed _ _ [] given_up (.inr ⟨1, some .pending, rfl⟩) (List.forall_mem_nil _) List.not_mem_nil
    exact ⟨seen, barred (standard rfl)⟩
  · exact (phases_seen gateway _ _ (fresh.of_prefix (List.take_prefix 4 _)) server).1
      (.polling (.begin server .empty)) (List.mem_singleton.mpr rfl) rfl
  · obtain ⟨_, _, _, reported, _⟩ := phases_seen gateway _ _ fresh server
    exact reported _ _ [] come_up (.inl ⟨.stopped, rfl⟩) (List.forall_mem_nil _)

end Hasty

end CloudLifecycle
