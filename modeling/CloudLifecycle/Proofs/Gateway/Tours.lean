import CloudLifecycle.Proofs.Gateway.Arrivals
import CloudLifecycle.Proofs.Gateway.Solitude
import CloudLifecycle.Simulation

/-!
# Lives that profiles tell

How the life of a resource goes before a simulated backend can be told from the profile of the backend alone, if the caller
has a session for itself and the backend answers in time and without failures. The profile says how the resource comes up
(`Profile.Course`), under what status it settles after so many looks (`Profile.rested?`), and what states it shows as it is
taken through actions (`Profile.tour?`). More looks than are needed change nothing about that (`Profile.tour?_mono`).

The lemmas about sessions go step by step along with what the caller does: a park keeps the resource under some status
(`Park.Keeps`), each step leaves it under the next one and the caller still alone (`Session.Ready`), and so by induction on
the looks and on the actions does the whole tour (`Session.Ready.settle`, `Session.Ready.act`). `Simulation.run_told` puts
the parts of a life together.
-/

namespace CloudLifecycle

/-! ## What a profile says -/

namespace Profile

/-- The status under which someone leaves a resource who waits for it to settle, if so many looks are enough. -/
def rested? (profile : Profile) (machine : Machine) : Nat → String → Option String
  | 0, _ => none
  | looks + 1, raw =>
    if machine.isSettled (profile.statusTable.resolve raw) then some (profile.following raw)
    else profile.rested? machine looks (profile.following raw)

/-- The status after an action that has been taken on a look at the resource. -/
def statusAfter (profile : Profile) (action raw : String) : String :=
  (profile.reportedStatus? action).getD (profile.following raw)

/-- The states that a resource shows as it is taken through actions, each of them once it has settled within so many looks,
and the status under which it is left; nothing if it does not settle, or an action is not declared or not allowed. -/
def tour? (profile : Profile) (machine : Machine) (kind : ResourceKind) (looks : Nat) :
    List String → String → Option (List LifecycleState × String)
  | [], raw => some ([], raw)
  | action :: actions, raw =>
    (profile.rested? machine looks raw).bind fun rested =>
      let after := profile.statusAfter action rested
      if profile.capabilities.contains (Operation.name ⟨kind, action⟩) ∧
          (machine.target? (profile.statusTable.resolve rested) action).isSome then
        (profile.tour? machine kind looks actions after).map fun rest =>
          (profile.statusTable.resolve after :: rest.1, rest.2)
      else none

/-- The status under which a new resource is left that has come up with the look `n`. -/
def broughtUp (profile : Profile) (kind : ResourceKind) (n : Nat) : String :=
  if profile.capabilities.contains (Operation.postCreate kind).name then
    (profile.reportedStatus? (Operation.postCreate kind).action).getD (profile.statusAt kind (n + 1))
  else profile.statusAt kind (n + 1)

section

variable {profile : Profile} {machine : Machine} {kind : ResourceKind} {looks more : Nat}

theorem rested?_mono {raw rested : String} (h : profile.rested? machine looks raw = some rested) (le : looks ≤ more) :
    profile.rested? machine more raw = some rested := by
  induction looks generalizing raw more with
  | zero => cases h
  | succ looks ih =>
    obtain ⟨more, rfl⟩ := Nat.exists_eq_add_of_lt le
    rw [rested?] at h ⊢
    split at h
    · next settled => rw [if_pos settled, h]
    · next restless =>
      rw [if_neg restless]
      exact ih h (Nat.le_add_right looks more)

/-- An action of a tour: the resource settles, and then the action is declared and allowed. -/
theorem tour?_cons {action : String} {actions : List String} {raw left : String} {states : List LifecycleState} :
    profile.tour? machine kind looks (action :: actions) raw = some (states, left) ↔
      ∃ rested later, profile.rested? machine looks raw = some rested ∧
        profile.capabilities.contains (Operation.name ⟨kind, action⟩) = true ∧
        (∃ target, machine.target? (profile.statusTable.resolve rested) action = some target) ∧
        profile.tour? machine kind looks actions (profile.statusAfter action rested) = some (later, left) ∧
        states = profile.statusTable.resolve (profile.statusAfter action rested) :: later := by
  simp only [tour?, Option.bind_eq_some_iff, Option.ite_none_right_eq_some, Option.map_eq_some_iff, Prod.exists,
    Prod.mk.injEq, Option.isSome_iff_exists]
  constructor
  · rintro ⟨rested, settles, ⟨declared, allowed⟩, later, left, goes, rfl, rfl⟩
    exact ⟨rested, later, settles, declared, allowed, goes, rfl⟩
  · rintro ⟨rested, later, settles, declared, allowed, goes, rfl⟩
    exact ⟨rested, settles, ⟨declared, allowed⟩, later, left, goes, rfl, rfl⟩

theorem tour?_mono {actions : List String} {raw left : String} {states : List LifecycleState}
    (h : profile.tour? machine kind looks actions raw = some (states, left)) (le : looks ≤ more) :
    profile.tour? machine kind more actions raw = some (states, left) := by
  induction actions generalizing raw states with
  | nil => exact h
  | cons action actions ih =>
    obtain ⟨rested, later, settles, declared, allowed, goes, shown⟩ := tour?_cons.mp h
    exact tour?_cons.mpr ⟨rested, later, rested?_mono settles le, declared, allowed, ih goes, shown⟩

end

end Profile

/-! ## Coming up -/

namespace Traffic

section

variable {g : Gateway} {key : ResourceKey} {profile : Profile} {latency : Duration} {payload : Payload}
  {n looks : Nat} {finishes : Bool} {outcome : Outcome} {left raw : String}

/-- Whatever a job about the resource does, the park keeps the resource. -/
theorem keeps_resume {job : Job Flight} {desk : Desk Park} (keeps : desk.fleet.Keeps key profile latency raw)
    (about : job.key? = some key) (own : ∀ flight, job.flight? = some flight → flight.call.key? = some key) :
    ∃ raw', (g.resume job desk).desk.fleet.Keeps key profile latency raw' := by
  refine park_resume (P := fun p => ∃ raw', p.Keeps key profile latency raw') keeps.simulated ?_ ?_ fun _ => ⟨_, keeps⟩
  · rintro p k _ its_own ⟨raw', keeps⟩
    obtain rfl : k = key := Option.some.inj (its_own.symm.trans about)
    obtain ⟨_, _, _, after⟩ := keeps.find
    exact ⟨_, after⟩
  · intro flight on_its_way
    obtain ⟨_, _, _, after⟩ := keeps.land (own flight on_its_way)
    exact ⟨_, after⟩

/-- A job that is the only one leaves nothing but the rest of it. -/
theorem act_only {job : Job Flight} (desk : Desk Park) (about : job.key? = some key) :
    act g (.resume key 0) ⟨desk, [job]⟩ =
      ((g.resume job desk).event.map .event, ⟨(g.resume job desk).desk, (g.resume job desk).next.toList⟩) := by
  have its_own : Job.isAbout key job = true := decide_eq_true about
  have there : ((⟨desk, [job]⟩ : Traffic Park Flight).about key)[0]? = some job := by
    rw [Traffic.about, List.filter_singleton, its_own]
    rfl
  rw [act_resume there]
  simp [List.findIdxNth_cons, its_own]

/-- The only job is the convergence of the resource, and what is on its way for it is a call about the resource. -/
theorem Stage.concerned {phase : Phase Flight} {desk : Desk Park}
    (h : Stage key profile latency payload looks n ⟨desk, [.converging phase]⟩) :
    Job.key? (.converging phase : Job Flight) = some key ∧
      ∀ flight, Job.flight? (.converging phase) = some flight → flight.call.key? = some key := by
  obtain ⟨phase', arriving⟩ := h.arriving
  have first : ((⟨desk, [.converging phase]⟩ : Traffic Park Flight).about key)[0]? = some (.converging phase') := by
    rw [arriving.alone]
    rfl
  obtain ⟨mem, about⟩ := mem_of_about first
  obtain rfl : phase' = phase := Job.converging.inj (List.mem_singleton.mp mem)
  exact ⟨about, fun flight on_its_way => arriving.sound.key_flight first on_its_way⟩

/-- A new resource that nobody else works at comes up as its profile says. -/
theorem Stage.undisturbed {phase : Phase Flight} {desk : Desk Park}
    (reads : ∀ raw, g.normalizer.normalize key.backend raw = profile.statusTable.resolve raw)
    (quick : latency ≤ g.timeout)
    (course : profile.Course (g.catalog.get? key.kind) key.kind g.plan.maxAttempts looks finishes outcome left)
    (h : Stage key profile latency payload looks n ⟨desk, [.converging phase]⟩)
    (keeps : desk.fleet.Keeps key profile latency raw) {turns : Nat} (all : n + turns + 1 = looks + finishes.toNat) :
    ∃ later, g.undisturbed phase desk = (outcome, later) ∧ later.guards.get? key = outcome.leftover ∧
      later.fleet.Keeps key profile latency left := by
  induction turns generalizing n phase desk raw with
  | zero =>
    obtain ⟨about, own⟩ := h.concerned
    obtain ⟨raw', kept⟩ := keeps_resume (g := g) keeps about own
    obtain ⟨arrived, shown⟩ := (h.step reads quick course).2 all
    rw [act_only desk about] at arrived shown
    rcases turn : g.advance phase desk with ⟨ended | ⟨rest, time⟩, later⟩
    · simp only [Gateway.resume, turn, Option.map_some, Option.some.injEq, Shown.event.injEq, Event.ended.injEq]
        at kept arrived shown
      obtain rfl : raw' = left := Option.some.inj (kept.rawStatus?.symm.trans arrived.held)
      exact ⟨later, by rw [Gateway.undisturbed_of_done turn, shown.2], arrived.guard, kept⟩
    · simp only [Gateway.resume, turn, Option.map_none] at shown
      cases shown
  | succ turns ih =>
    obtain ⟨about, own⟩ := h.concerned
    obtain ⟨raw', kept⟩ := keeps_resume (g := g) keeps about own
    obtain ⟨stage, shown⟩ := (h.step reads quick course).1 (by omega)
    rw [act_only desk about] at stage shown
    rcases turn : g.advance phase desk with ⟨ended | ⟨rest, time⟩, later⟩
    · simp only [Gateway.resume, turn, Option.map_some] at shown
      cases shown
    · simp only [Gateway.resume, turn, Option.toList_some] at kept stage
      rw [Gateway.undisturbed_of_waiting turn]
      exact ih stage kept (by omega)

end

end Traffic

/-! ## A caller alone -/

/-- A caller has a session to itself, and a resource that has come up is kept under some status. -/
structure Session.Ready (key : ResourceKey) (profile : Profile) (latency : Duration) (raw : String)
    (s : Session Park Flight) : Prop where
  quiet : s.background = []
  free : s.desk.guards.get? key = none
  keeps : s.desk.fleet.Keeps key profile latency raw

namespace Session.Ready

open Simulation

section

variable {g : Gateway} {key : ResourceKey} {profile : Profile} {latency : Duration} {raw : String} {s : Session Park Flight}
  {machine : Machine}

theorem currentState (h : s.Ready key profile latency raw)
    (reads : ∀ raw, g.normalizer.normalize key.backend raw = profile.statusTable.resolve raw) :
    ∃ s', atDesk (g.currentState key) s = (.ok (some (profile.statusTable.resolve raw)), s') ∧
      s'.Ready key profile latency (profile.following raw) := by
  obtain ⟨resource, shown, rfl, after⟩ := h.keeps.find
  have shown : (Fleet.find s.desk.fleet key).1 = .ok (some resource) := shown
  have seen : g.seen? key (Fleet.find s.desk.fleet key).1 = some (profile.statusTable.resolve resource.rawStatus) := by
    rw [shown]
    exact congrArg some (reads _)
  refine ⟨{ s with desk := (g.observe key s.desk).2 }, ?_, h.quiet, h.free, after⟩
  simp only [atDesk, Gateway.currentState, Guards.overlay_of_free h.free, Gateway.observe_of_seen seen]

theorem wait (h : s.Ready key profile latency raw) (g : Gateway) (time : Duration) :
    (Session.wait g time s).Ready key profile latency raw := by
  obtain ⟨now, waited⟩ := wait_of_quiet g time h.quiet
  rw [waited]
  exact ⟨h.quiet, h.free, h.keeps⟩

/-- Whoever waits for a resource to settle finds it settled, if so many looks are enough. -/
theorem settle (h : s.Ready key profile latency raw)
    (reads : ∀ raw, g.normalizer.normalize key.backend raw = profile.statusTable.resolve raw) (interval : Duration)
    {looks : Nat} {rested : String} (settles : profile.rested? machine looks raw = some rested) :
    ∃ s', Simulation.settle g key machine interval looks s = (.ok (), s') ∧ s'.Ready key profile latency rested := by
  induction looks generalizing raw s with
  | zero => cases settles
  | succ looks ih =>
    obtain ⟨s', shown, after⟩ := h.currentState reads
    rw [Profile.rested?] at settles
    by_cases settled : machine.isSettled (profile.statusTable.resolve raw) = true
    · rw [if_pos settled] at settles
      cases settles
      exact ⟨s', by simp only [Simulation.settle, shown, if_pos settled], after⟩
    · rw [if_neg settled] at settles
      obtain ⟨s'', rests, ready⟩ := ih (after.wait g interval) settles
      exact ⟨s'', by simp only [Simulation.settle, shown, if_neg settled, rests], ready⟩

/-- An action that is declared, and allowed in the state that the resource shows, goes well. -/
theorem dispatch (request : ActionRequest) (h : s.Ready request.key profile latency raw)
    (reads : ∀ raw, g.normalizer.normalize request.backend raw = profile.statusTable.resolve raw)
    (quick : latency ≤ g.timeout) (drawn : g.catalog.get? request.kind = some machine)
    (declared : profile.capabilities.contains request.operation.name = true)
    (allowed : ∃ target, machine.target? (profile.statusTable.resolve raw) request.action = some target) :
    ∃ s', Session.dispatch g request s =
        (.accepted request.resourceId (profile.statusTable.resolve (profile.statusAfter request.action raw)), s') ∧
      s'.Ready request.key profile latency (profile.statusAfter request.action raw) := by
  obtain ⟨_, placed, _⟩ := h.keeps.placed
  obtain ⟨resource, shown, rfl, kept⟩ := h.keeps.find
  have admissible : g.Admissible request s.desk s.desk := by
    obtain ⟨target, leads⟩ := allowed
    have free : s.desk.guards.get? ⟨request.backend, request.kind, request.resourceId⟩ = none := h.free
    refine ⟨(Gateway.supports_iff_declared _ _).mp ((placed.supports _).trans declared), machine, resource, target, drawn,
      shown, ?_⟩
    simp only [Gateway.countsAs, free, reads, Machine.check, leads]
  -- the call goes off on the desk that the lookup has left, and lands there
  obtain ⟨_, placed', _⟩ := kept.placed
  obtain ⟨b, there, _, _, rfl, _⟩ := Park.holds_iff.mp placed'
  have simulated : (Gateway.lookedUp request s.desk).fleet.Simulated := kept.simulated
  obtain ⟨flight, sent, call⟩ := Gateway.call_in_time (Gateway.actionCall request) simulated there quick
  have goes : g.dispatch request s.desk = _ := admissible.across
  rw [sent] at goes
  obtain ⟨s', ended, quiet, desk⟩ := dispatch_of_quiet h.quiet goes
  have about : flight.call.key? = some request.key := by rw [call]; rfl
  obtain ⟨receipt, answered, told, left⟩ := kept.land about
  have meant : flight.call.operation.action = request.action := by rw [call]; rfl
  rw [meant] at told left
  have answered : (Fleet.land (Gateway.lookedUp request s.desk).fleet flight).1 = .ok receipt := answered
  refine ⟨s', ended.trans ?_, quiet, desk ▸ h.free, desk ▸ left⟩
  simp only [Gateway.finishAction, answered, Gateway.actionResult, reads, told]
  rfl

/-- Whoever takes a resource through a tour is told of the states that it shows. -/
theorem act (h : s.Ready key profile latency raw)
    (reads : ∀ raw, g.normalizer.normalize key.backend raw = profile.statusTable.resolve raw)
    (quick : latency ≤ g.timeout) (drawn : g.catalog.get? key.kind = some machine) {actions : List String}
    {states : List LifecycleState} {left : String}
    (tour : profile.tour? machine key.kind g.plan.maxAttempts actions raw = some (states, left)) :
    ∃ s', Simulation.act g key actions s = ((actions.zip (states.map (.accepted key.id)), none), s') ∧
      s'.Ready key profile latency left := by
  induction actions generalizing raw s states with
  | nil =>
    cases tour
    exact ⟨s, rfl, h⟩
  | cons action actions ih =>
    obtain ⟨rested, later, settles, declared, allowed, goes, rfl⟩ := Profile.tour?_cons.mp tour
    obtain ⟨s₁, waited, h₁⟩ := h.settle reads g.plan.interval settles
    obtain ⟨s₂, sent, h₂⟩ := h₁.dispatch ⟨key.backend, key.kind, key.id, action, .none, .null⟩ reads quick drawn declared allowed
    obtain ⟨s₃, acted, h₃⟩ := ih h₂ goes
    refine ⟨s₃, ?_, h₃⟩
    simp only [Simulation.act, settleAny, drawn, waited, sent, acted]
    rfl

end

end Session.Ready

/-! ## Whole lives -/

/-- The lives that a profile tells of a resource which is made under some id. -/
inductive Profile.Tale (profile : Profile) (machine : Option Machine) (backend : String) (kind : ResourceKind)
    (attempts : Nat) (id : String) : SimulationRun → Prop where
  | unmade (undeclared : profile.capabilities.contains (Operation.create kind).name = false) :
      Tale profile machine backend kind attempts id
        ⟨.notSupported backend (.create kind), none, [], none, some (.notCreated kind)⟩
  | lost (looks : Nat) (finishes : Bool) (outcome : Outcome) (left : String)
      (declared : profile.capabilities.contains (Operation.create kind).name = true)
      (course : profile.Course machine kind attempts looks finishes outcome left)
      (lost : outcome.isConverged = false) :
      Tale profile machine backend kind attempts id
        ⟨.accepted id .pending, some outcome, [], none, some (.notConverged id)⟩
  | lived (m : Machine) (drawn : machine = some m) (looks : Nat) (finishes : Bool) (state : LifecycleState)
      (up left : String) (states : List LifecycleState)
      (declared : profile.capabilities.contains (Operation.create kind).name = true)
      (course : profile.Course machine kind attempts looks finishes (.converged state) up)
      (tour : profile.tour? m kind attempts (Simulation.script kind) up = some (states, left)) :
      Tale profile machine backend kind attempts id
        ⟨.accepted id .pending, some (.converged state), (Simulation.script kind).zip (states.map (.accepted id)),
          some left, none⟩

namespace Simulation

/-- A caller has a session to itself, and is about to ask a backend for a resource that answers in time, has its lookups
routed to itself and no failure planned. -/
structure Prepared (g : Gateway) (backend : String) (b : SimulatedBackend) (s : Live) : Prop where
  quiet : s.background = []
  unheard : s.outcomes.contains s.nextHandle = false
  simulated : s.desk.fleet.Simulated
  there : s.desk.fleet.registry.get? backend = some (.simulated b)
  routed : s.desk.fleet.router.target? backend = some backend
  unplanned : ∀ name, s.desk.fleet.failure? backend name = none
  quick : b.latency ≤ g.timeout
  reads : ∀ raw, g.normalizer.normalize backend raw = b.profile.statusTable.resolve raw

section

variable {g : Gateway} {backend : String} {b : SimulatedBackend} {kind : ResourceKind} {s : Live}

theorem Prepared.supports (h : Prepared g backend b s) (name : String) :
    Fleet.supports s.desk.fleet backend name = b.profile.capabilities.contains name := by
  have declared : Fleet.capabilities s.desk.fleet backend = some b.profile.capabilities :=
    congrArg (Option.map Backend.capabilities) h.there
  rw [Fleet.supports, declared]

/-- Nothing comes of a request for a resource that the backend does not make. -/
theorem Prepared.run_of_undeclared (h : Prepared g backend b s)
    (undeclared : b.profile.capabilities.contains (Operation.create kind).name = false) :
    run g backend kind s =
      (⟨.notSupported backend (.create kind), none, [], none, some (.notCreated kind)⟩, s) := by
  let request : CreateRequest := ⟨backend, kind, .none, .null⟩
  have refused : g.create request s.desk = (.done ⟨.notSupported backend (.create kind), none⟩, s.desk) :=
    if_neg (ne_true_of_eq_false ((h.supports _).trans undeclared))
  have answered : Session.create g request s = ((.notSupported backend (.create kind), none), s) := by
    simp only [Session.create, Session.atDesk, refused, Session.provision]
  simp only [run, request, answered] at answered ⊢
  rfl

/-- A resource that is asked for is made, and its convergence is all there is to do. -/
theorem Prepared.create (h : Prepared g backend b s)
    (declared : b.profile.capabilities.contains (Operation.create kind).name = true) :
    let key : ResourceKey := ⟨backend, kind, s.desk.fleet.ids.next.1⟩
    let phase : Phase Flight := .polling (Traffic.comingUp b.profile key ⟨.none, .null⟩ 0)
    ∃ s' due, Session.create g ⟨backend, kind, .none, .null⟩ s = ((.accepted key.id .pending, some s.nextHandle), s') ∧
      s'.background = [⟨s.nextHandle, phase, due⟩] ∧ s'.outcomes = s.outcomes ∧
      Traffic.Arriving key b.profile b.latency phase (b.profile.statusAt kind 0) ⟨s'.desk, [.converging phase]⟩ ∧
      s'.desk.fleet.Keeps key b.profile b.latency (b.profile.statusAt kind 0) := by
  intro key phase
  let request : CreateRequest := ⟨backend, kind, .none, .null⟩
  obtain ⟨flight, made, goes, comes, guarded, keeps⟩ :=
    Gateway.creates request h.simulated h.there h.routed declared h.quick h.unplanned
  obtain ⟨s', due, told, lonely, unheard, desk⟩ := Session.create_of_quiet h.quiet goes comes
  refine ⟨s', due, told, lonely, unheard, ?_, desk ▸ keeps⟩
  rw [desk]
  refine ⟨⟨keeps.simulated, ?_⟩, guarded, ?_, keeps.placed, keeps.unplanned _⟩
  · intro job mem flight on_its_way
    obtain rfl := List.mem_singleton.mp mem
    cases on_its_way
  · have about : Job.isAbout key (.converging phase) = true := decide_eq_true rfl
    rw [Traffic.about, List.filter_singleton, about]
    rfl

/-- The convergence of the resource comes to what the profile says. -/
theorem Prepared.await (h : Prepared g backend b s) {looks : Nat} {finishes : Bool} {outcome : Outcome} {up : String}
    (declared : b.profile.capabilities.contains (Operation.create kind).name = true)
    (course : b.profile.Course (g.catalog.get? kind) kind g.plan.maxAttempts looks finishes outcome up) :
    let key : ResourceKey := ⟨backend, kind, s.desk.fleet.ids.next.1⟩
    ∃ s₁ s₂, Session.create g ⟨backend, kind, .none, .null⟩ s = ((.accepted key.id .pending, some s.nextHandle), s₁) ∧
      Session.await g s.nextHandle s₁ = (some outcome, s₂) ∧ s₂.background = [] ∧
      s₂.desk.guards.get? key = outcome.leftover ∧ s₂.desk.fleet.Keeps key b.profile b.latency up := by
  intro key
  obtain ⟨s₁, due, made, lonely, unheard, arriving, keeps⟩ := h.create declared
  have pos := course.looks_pos g.attempts_pos
  have stage : Traffic.Stage key b.profile b.latency ⟨.none, .null⟩ looks 0 _ := .looking 0 _ pos arriving
  obtain ⟨turns, all⟩ : ∃ turns, 0 + turns + 1 = looks + finishes.toNat := ⟨looks + finishes.toNat - 1, by omega⟩
  obtain ⟨later, ends, guard, kept⟩ := stage.undisturbed h.reads h.quick course keeps all
  obtain ⟨s₂, awaited, quiet, desk⟩ := Session.await_of_lonely (g := g) lonely (by rw [unheard]; exact h.unheard)
  rw [ends] at awaited desk
  exact ⟨s₁, s₂, made, awaited, quiet, desk ▸ guard, desk ▸ kept⟩

/-- The life of a resource goes as its profile tells it. -/
theorem Prepared.run_told (h : Prepared g backend b s) {told : SimulationRun}
    (tale : b.profile.Tale (g.catalog.get? kind) backend kind g.plan.maxAttempts s.desk.fleet.ids.next.1 told) :
    (run g backend kind s).1 = told := by
  cases tale with
  | unmade undeclared => rw [h.run_of_undeclared undeclared]
  | lost looks finishes outcome left declared course lost =>
    obtain ⟨s₁, s₂, made, awaited, _⟩ := h.await declared course
    simp only [run, made, ActionResult.accepted, awaited, Option.map_some, lost, Option.getD_some, Bool.false_eq_true,
      if_false]
  | lived m drawn looks finishes state up left states declared course tour =>
    obtain ⟨s₁, s₂, made, awaited, quiet, free, keeps⟩ := h.await declared course
    have ready : s₂.Ready ⟨backend, kind, s.desk.fleet.ids.next.1⟩ b.profile b.latency up := ⟨quiet, free, keeps⟩
    obtain ⟨s₃, acted, last⟩ := ready.act h.reads h.quick drawn tour
    have final : finalStatus? ⟨backend, kind, s.desk.fleet.ids.next.1⟩ s₃ = some left := last.keeps.rawStatus?
    have up : Outcome.isConverged (.converged state) = true := rfl
    simp only [run, made, ActionResult.accepted, awaited, Option.map_some, up, Option.getD_some, if_true] at acted ⊢
    rw [acted]
    simp only [final]

end

end Simulation

end CloudLifecycle
