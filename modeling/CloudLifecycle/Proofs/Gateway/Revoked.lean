import CloudLifecycle.Backend.Builtin
import CloudLifecycle.Proofs.Gateway.Lives
import CloudLifecycle.Proofs.Gateway.Resting

/-!
# Revoked resources

A resource may be destroyed while it is still coming up. The convergence of it that is on its way then does not know
of that, and it must neither finish the resource nor take it for one that has failed.

1. While a new resource comes up, there is one convergence of it, and its guard lets nothing through but actions that
   destroy it (`Coming`). So whatever is on its way about it is such an action, or the call that finishes it.
2. If its convergence still looks, the latter is not the case, and the first call that destroys it brings it to rest
   (`Coming.struck`): from then on nothing that is on its way moves it any more.
3. It rests until its convergence looks again, which finds it destroyed (`Struck.ends`). Before that the convergence
   has neither seen the resource come up nor used up its attempts, since one that waits always has an attempt left.

`revoked_ends` puts these together.
-/

namespace CloudLifecycle

open Gateway

/-- The action that succeeds with an event. -/
def Event.succeeded? : Event → Option ActionRequest
  | .acted request result => if result.success then some request else none
  | .reached _ | .provisioned _ _ | .claimed _ | .refused _ | .ended _ _ | .stated _ _ | .listed _ _ | .cleared _ _ => none

theorem Event.subject_of_made {event : Event} {key : ResourceKey} (made : event.made? = some key) :
    event.subject? = some key := by
  cases event with
  | provisioned request provisioning => exact made
  | _ => cases made

theorem Event.acted_of_succeeded {event : Option Event} {request : ActionRequest}
    (h : event.bind succeeded? = some request) :
    ∃ result, event = some (.acted request result) ∧ result.success = true := by
  obtain ⟨event, rfl, succeeded⟩ := Option.bind_eq_some_iff.mp h
  cases event with
  | acted request' result =>
    obtain ⟨success, same⟩ := Option.ite_none_right_eq_some.mp succeeded
    cases same
    exact ⟨result, rfl, success⟩
  | _ => cases succeeded

/-- An event neither brings a resource into being nor ends a convergence of it. -/
def Event.Spares (key : ResourceKey) (event : Event) : Prop :=
  event.made? ≠ some key ∧ ∀ outcome, event ≠ .ended key outcome

theorem Event.Spares.of_not_mem {key : ResourceKey} {events : List Event}
    (unmade : ∀ event ∈ events, event.made? ≠ some key) (unended : ∀ outcome, .ended key outcome ∉ events) :
    ∀ event ∈ events, event.Spares key := by
  intro event mem
  refine ⟨unmade event mem, ?_⟩
  rintro outcome rfl
  exact unended outcome mem

theorem Event.Spares.of_subject {key : ResourceKey} {event : Event} (unconcerned : event.subject? ≠ some key) :
    event.Spares key := by
  refine ⟨fun made => unconcerned (subject_of_made made), ?_⟩
  rintro outcome rfl
  exact unconcerned rfl

/-- A resource of which nobody knows: its backend does not hold it, and no convergence of it is on its way. -/
structure Unknown (key : ResourceKey) (t : Traffic (Recorded Park) Flight) : Prop where
  unheld : t.desk.fleet.fleet.rawStatus? key = none
  unclaimed : t.inFlight key = 0

/-- A call that destroys a server or a system, in a park where lookups go to its backend. -/
def Strikes (key : ResourceKey) (park : Park) (job : Job Flight) : Prop :=
  (∃ request flight, job = .acting request flight ∧ request.action = "destroy") ∧
    (key.kind = .server ∨ key.kind = .system) ∧ park.router.target? key.backend = some key.backend

/-- A resource comes up: it is under guard, one convergence of it is on its way, and all calls about it that are on
their way destroy it or finish it. -/
structure Coming (key : ResourceKey) (t : Traffic (Recorded Park) Flight) : Prop where
  standing : t.standing key = ⟨some .converging, 1⟩
  calls : ∀ job ∈ t.jobs, job.call?.bind Call.key? = some key →
    Strikes key t.desk.fleet.fleet job ∨ ∃ c s flight, job = .converging (.finishing c s flight)

/-- A resource rests, and its only convergence is still to look at it. -/
structure Struck (key : ResourceKey) (profile : Profile) (raw : String) (c : Convergence)
    (t : Traffic (Recorded Park) Flight) : Prop where
  rests : Rests key profile raw (·.action = "destroy") t
  standing : t.standing key = ⟨some .converging, 1⟩
  waits : .converging (.polling c) ∈ t.jobs
  routed : t.desk.fleet.fleet.router.target? key.backend = some key.backend

/-! ## One convergence -/

/-- Under guard, the standing of a resource changes only when one more convergence of it begins with a new resource, or
one ends. -/
theorem Standing.Step.of_guarded {key : ResourceKey} {n : Nat} {event : Option Event} {s : Standing}
    (h : Standing.Step key ⟨some .converging, n⟩ event s) (spares : ∀ e, event = some e → e.Spares key) :
    s = ⟨some .converging, n⟩ := by
  cases h with
  | quiet => rfl
  | provisioned _ request provisioning made => exact absurd made (spares _ rfl).1
  | claimed _ free => exact absurd rfl free
  | ended _ _ outcome => exact absurd rfl ((spares _ rfl).2 outcome)

/-- With the end of the only convergence of a resource none is left, and the guard is what that leaves behind. -/
theorem Standing.Step.of_only_end {key : ResourceKey} {entry : Option GuardEntry} {outcome : Outcome} {s : Standing}
    (h : Standing.Step key ⟨entry, 1⟩ (some (.ended key outcome)) s) : s = ⟨outcome.leftover, 0⟩ := by
  cases h with
  | quiet _ _ unconcerned => exact absurd rfl unconcerned
  | ended _ _ _ => rfl

namespace Traffic

theorem phase_unique {σ φ : Type} {t : Traffic σ φ} {key : ResourceKey} (alone : t.inFlight key = 1)
    {phase phase' : Phase φ} (mem : .converging phase ∈ t.jobs) (on : phase.convergence.key = key)
    (mem' : .converging phase' ∈ t.jobs) (on' : phase'.convergence.key = key) : phase = phase' := by
  rw [inFlight, List.countP_eq_length_filter] at alone
  obtain ⟨job, only⟩ := List.length_eq_one_iff.mp alone
  have here : .converging phase ∈ t.jobs.filter (Job.isOn key) := List.mem_filter.mpr ⟨mem, decide_eq_true on⟩
  have here' : .converging phase' ∈ t.jobs.filter (Job.isOn key) := List.mem_filter.mpr ⟨mem', decide_eq_true on'⟩
  rw [only, List.mem_singleton] at here here'
  exact Job.converging.inj (here.trans here'.symm)

/-- A convergence on its way stays as it is, unless it goes on itself. -/
theorem converging_step {σ φ : Type} [Fleet σ φ] {g : Gateway} {move : Move σ} {t : Traffic σ φ} {phase : Phase φ}
    (mem : .converging phase ∈ t.jobs) :
    .converging phase ∈ (step g move t).2.jobs ∨
      ∃ place, move = .resume place ∧ t.jobs[place]? = some (.converging phase) := by
  have others (place : Nat) (job : Job φ) (at_place : t.jobs[place]? = some job) (next : List (Job φ)) :
      .converging phase ∈ t.jobs.take place ++ (next ++ t.jobs.drop (place + 1)) ∨ job = .converging phase := by
    rw [jobs_eq at_place] at mem
    simp only [List.mem_append, List.mem_singleton] at mem ⊢
    rcases mem with earlier | rfl | later
    · exact .inl (.inl earlier)
    · exact .inr rfl
    · exact .inl (.inr (.inr later))
  cases move with
  | demand demand => exact .inl (List.mem_append_left _ mem)
  | resume place =>
    rcases hj : t.jobs[place]? with _ | job
    · exact .inl (by simpa only [step, hj] using mem)
    · rcases others place job hj (g.resume job t.desk).next.toList with kept | rfl
      · exact .inl (by simpa only [step, hj] using kept)
      · exact .inr ⟨place, rfl, hj⟩
  | abandon place =>
    refine .inl ?_
    rcases hj : t.jobs[place]? with _ | job
    · simpa only [step, hj] using mem
    · have kept := others place job hj []
      rw [List.nil_append, ← List.eraseIdx_eq_take_drop_succ] at kept
      cases job with
      | converging phase' => simpa only [step, hj] using mem
      | looking _ _ | acting _ _ | creating _ _ | asking _ | listing _ =>
        simpa only [step, hj] using kept.resolve_right fun same => by cases same
  | drift fleet => exact .inl mem

end Traffic

/-! ## Resources of which nobody knows -/

namespace Traffic

variable {g : Gateway} {key : ResourceKey} {t : Traffic (Recorded Park) Flight} {move : Move (Recorded Park)}

/-- No resource gets lost. -/
theorem Orderly.unheld_of_step (orderly : Orderly g t) (calm : move.isDrift = false)
    (unheld : (Traffic.step g move t).2.desk.fleet.fleet.rawStatus? key = none) :
    t.desk.fleet.fleet.rawStatus? key = none := by
  by_contra held
  rw [← ne_eq, Option.ne_none_iff_isSome] at held
  have kept := fleet_step (g := g) (t := t)
    (P := fun r => r.fleet.Simulated ∧ (r.fleet.rawStatus? key).isSome) calm ?_ ?_ ?_ ⟨orderly.simulated, held⟩
  · rw [unheld] at kept
    cases kept.2
  · rintro r k ⟨simulated, held⟩
    have finds := simulated.finds k
    refine ⟨(finds.alike simulated).simulated, ?_⟩
    rcases finds.rawStatus? key with same | ⟨_, _, _, _, moved⟩
    · exact same ▸ held
    · exact moved ▸ rfl
  · rintro r call ⟨simulated, held⟩
    have same : (Fleet.launch r call).2.fleet = r.fleet := simulated.launch call
    rw [same]
    exact ⟨simulated, held⟩
  · intro job mem shown flight waits
    have lands := orderly.simulated.lands flight
    refine ⟨(lands.alike orderly.simulated).simulated, ?_⟩
    by_cases about : ∃ receipt, (t.desk.fleet.fleet.land flight).1 = .ok receipt ∧
        (⟨flight.call.backend, flight.call.operation.kind, receipt.id⟩ : ResourceKey) = key
    · obtain ⟨receipt, answered, rfl⟩ := about
      rw [answered] at lands
      exact lands.rawStatus? ▸ rfl
    · have untouched := lands.untouched fun receipt answered same => about ⟨receipt, answered, same⟩
      exact untouched ▸ held

/-- No call is on its way about a resource that its backend does not hold. -/
theorem uncalled_of_unheld {desk : Desk (Recorded Park)} (simulated : desk.fleet.fleet.Simulated)
    {moves : List (Move (Recorded Park))} (calm : ∀ move ∈ moves, move.isDrift = false)
    (unheld : (run g moves (begin desk)).2.desk.fleet.fleet.rawStatus? key = none) :
    ∀ job ∈ (run g moves (begin desk)).2.jobs, job.call?.bind Call.key? ≠ some key := by
  induction moves using List.reverseRecOn with
  | nil => exact List.forall_mem_nil _
  | append_singleton moves move ih =>
    rw [List.forall_mem_append, List.forall_mem_singleton] at calm
    rw [run_concat] at unheld ⊢
    have orderly : Orderly g (run g moves (begin desk)).2 := ((Orderly.of_begin simulated).run calm.1).1
    have before := orderly.unheld_of_step calm.2 unheld
    refine forall_jobs_step (ih calm.1 before) ?_ ?_
    · intro demand job next
      have taken := g.accepted (φ := Flight) demand (run g moves (begin desk)).2.desk
      generalize (g.accept demand _ : Stretch (Recorded Park) Flight) = s at taken next
      cases taken with
      | entered | sent | claimed | asking | listing =>
        cases next
        exact nofun
      | _ => cases next
    · intro job mem shown job' next about
      have gone := g.resumed job (run g moves (begin desk)).2.desk
      generalize g.resume job (run g moves (begin desk)).2.desk = s at gone next shown
      cases gone with
      | reached request machine _ =>
        cases next
        obtain ⟨_, raw, _, _, held, _⟩ := orderly.checked shown
        rw [show request.key = key from Option.some.inj about, before] at held
        cases held
      | provisioned request flight =>
        obtain ⟨c, _, rfl⟩ := Option.map_eq_some_iff.mp next
        cases about
      | going phase rest time later turn =>
        cases next
        have went := g.advanced phase (run g moves (begin desk)).2.desk
        rw [turn] at went
        cases went with
        | waits c kept _ _ => cases about
        | finishes c kept same s seen _ _ =>
          obtain ⟨raw, held, _⟩ := rawStatus?_of_observe orderly.simulated seen
          rw [show c.key = key from same.symm.trans (Option.some.inj about), before] at held
          cases held
      | _ => cases next

end Traffic

/-! ## Resources that come up -/

namespace Coming

open Traffic (Orderly step run)

variable {g : Gateway} {key : ResourceKey} {t : Traffic (Recorded Park) Flight} {move : Move (Recorded Park)}

/-- All that a move adds to what is on its way about a resource under guard is a call that destroys it or finishes
it. -/
theorem calls_step (orderly : Orderly g t) (standard : g.catalog = .standard) (calm : move.isDrift = false)
    (calls : ∀ job ∈ t.jobs, job.call?.bind Call.key? = some key →
      Strikes key t.desk.fleet.fleet job ∨ ∃ c s flight, job = .converging (.finishing c s flight))
    (guarded : ∀ request, (step g move t).1 = some (.reached request) → t.desk.guards.get? key = some .converging) :
    ∀ job ∈ (step g move t).2.jobs, job.call?.bind Call.key? = some key →
      Strikes key (step g move t).2.desk.fleet.fleet job ∨ ∃ c s flight, job = .converging (.finishing c s flight) := by
  have strikes : Strikes key (step g move t).2.desk.fleet.fleet = Strikes key t.desk.fleet.fleet := by
    unfold Strikes
    rw [(orderly.alike_step calm).router]
  rw [strikes]
  refine Traffic.forall_jobs_step calls ?_ ?_
  · intro demand job next about
    have taken := g.accepted (φ := Flight) demand t.desk
    generalize (g.accept demand t.desk : Stretch (Recorded Park) Flight) = s at taken next
    cases taken with
    | entered | sent | claimed | asking | listing =>
      cases next
      cases about
    | _ => cases next
  · intro job mem shown job' next about
    have gone := g.resumed job t.desk
    generalize g.resume job t.desk = s at gone next shown
    cases gone with
    | reached request machine _ =>
      cases next
      have guarded := guarded request shown
      obtain rfl : request.key = key := Option.some.inj about
      obtain ⟨machine, raw, target, found, _, routed, checked⟩ := orderly.checked shown
      rw [presentState_of_guard guarded] at checked
      rw [standard] at found
      obtain ⟨destroys, kind⟩ := pending_standard found ((Machine.exists_check_iff _ _ _).mp ⟨_, checked⟩)
      exact .inl ⟨⟨request, _, rfl, destroys⟩, kind, routed⟩
    | provisioned request flight =>
      obtain ⟨c, _, rfl⟩ := Option.map_eq_some_iff.mp next
      cases about
    | going phase rest time later turn =>
      cases next
      have went := g.advanced phase t.desk
      rw [turn] at went
      cases went with
      | waits c kept _ _ => cases about
      | finishes c kept same s _ _ _ => exact .inr ⟨kept, s, _, rfl⟩
    | _ => cases next

/-- A new resource comes up. -/
theorem of_made (orderly : Orderly g t) (standard : g.catalog = .standard) (calm : move.isDrift = false)
    (uncalled : ∀ job ∈ t.jobs, job.call?.bind Call.key? ≠ some key) (unclaimed : t.inFlight key = 0)
    (made : (step g move t).1.bind Event.made? = some key) : Coming key (step g move t).2 where
  standing := by
    obtain ⟨event, shown, made⟩ := Option.bind_eq_some_iff.mp made
    have turn := Traffic.step_standing g move t key
    rw [shown] at turn
    have begun : event.begun? = some key := by
      cases event with
      | provisioned request provisioning => exact made
      | _ => cases made
    rw [turn.of_begun begun, Traffic.standing, unclaimed]
  calls := by
    refine calls_step orderly standard calm (fun job mem about => absurd about (uncalled job mem)) fun request shown => ?_
    rw [shown] at made
    cases made

theorem guarded (h : Coming key t) : t.desk.guards.get? key = some .converging := congrArg Standing.entry h.standing

/-- A resource goes on coming up until its convergence ends. -/
theorem step (h : Coming key t) (orderly : Orderly g t) (standard : g.catalog = .standard) (calm : move.isDrift = false)
    (spares : ∀ event, (Traffic.step g move t).1 = some event → event.Spares key) :
    Coming key (Traffic.step g move t).2 where
  standing := by
    have turn := Traffic.step_standing g move t key
    rw [h.standing] at turn
    exact turn.of_guarded spares
  calls := calls_step orderly standard calm h.calls fun _ _ => h.guarded

theorem run (h : Coming key t) (orderly : Orderly g t) (standard : g.catalog = .standard)
    {moves : List (Move (Recorded Park))} (calm : ∀ move ∈ moves, move.isDrift = false)
    (spares : ∀ event ∈ (Traffic.run g moves t).1, event.Spares key) : Coming key (Traffic.run g moves t).2 := by
  refine (Traffic.run_keeps (P := fun t => Orderly g t ∧ Coming key t) ?_ calm spares ⟨orderly, h⟩).2
  rintro move t calm spares ⟨orderly, h⟩
  exact ⟨orderly.step calm, h.step orderly standard calm spares⟩

/-- If the convergence of the resource still looks, all calls about the resource destroy it. -/
theorem calls_of_looking (h : Coming key t) {c : Convergence} (on : c.key = key)
    (waits : .converging (.polling c) ∈ t.jobs) :
    ∀ job ∈ t.jobs, job.call?.bind Call.key? = some key → Strikes key t.desk.fleet.fleet job := by
  intro job mem about
  refine (h.calls job mem about).resolve_right ?_
  rintro ⟨c', s, flight, rfl⟩
  cases Traffic.phase_unique (congrArg Standing.inFlight h.standing) waits on mem (Option.some.inj about)

end Coming

/-! ## The call that destroys it -/

/-- An action succeeds only when its call lands well. -/
theorem Traffic.landed_of_succeeded {σ φ : Type} [Fleet σ φ] {g : Gateway} {move : Move σ} {t : Traffic σ φ}
    {request : ActionRequest} (succeeded : (step g move t).1.bind Event.succeeded? = some request) :
    ∃ place flight receipt, move = .resume place ∧ t.jobs[place]? = some (.acting request (some flight)) ∧
      (Fleet.land t.desk.fleet flight).1 = .ok receipt ∧
      (step g move t).2.desk.fleet = (Fleet.land t.desk.fleet flight).2 := by
  obtain ⟨result, shown, success⟩ := Event.acted_of_succeeded succeeded
  rcases cases_of_acted shown with barred | ⟨_, _, _, _, refused⟩ | ⟨place, flight, rfl, at_place, rfl⟩
  · rw [(refusal_of_enter barred).1] at success
    cases success
  · rw [(refusal_of_admission refused).1] at success
    cases success
  · rw [desk_resume at_place]
    have ended := g.finishAction_ended request flight t.desk
    generalize (g.finishAction request flight t.desk).1 = result at ended success
    cases ended with
    | accepted flight receipt answered =>
      exact ⟨place, flight, receipt, rfl, at_place, answered, g.fleet_finishAction request (some flight) t.desk⟩
    | failed _ _ _ | givenUp => cases success

/-- An action that succeeds while the convergence of its resource still looks destroys the resource, and brings it to
rest. -/
theorem Coming.struck {g : Gateway} {key : ResourceKey} {profile : Profile} {raw : String} {c : Convergence}
    {t : Traffic (Recorded Park) Flight} {move : Move (Recorded Park)} {request : ActionRequest} (h : Coming key t)
    (orderly : Traffic.Orderly g t) (standard : g.catalog = .standard) (on : c.key = key)
    (waits : .converging (.polling c) ∈ t.jobs) (plays : t.desk.fleet.fleet.profile? key.backend = some profile)
    (reported : profile.reportedStatus? "destroy" = some raw)
    (succeeded : (Traffic.step g move t).1.bind Event.succeeded? = some request) (about : request.key = key) :
    request.action = "destroy" ∧ (key.kind = .server ∨ key.kind = .system) ∧
      Struck key profile raw c (Traffic.step g move t).2 := by
  obtain ⟨result, shown, _⟩ := Event.acted_of_succeeded succeeded
  obtain ⟨place, flight, receipt, rfl, at_place, answered, landed⟩ := Traffic.landed_of_succeeded succeeded
  have mem := List.mem_of_getElem? at_place
  obtain ⟨⟨_, _, same, destroys⟩, kind, routed⟩ :=
    h.calls_of_looking on waits _ mem (congrArg some about)
  cases same
  have later : Coming key (Traffic.step g (.resume place) t).2 :=
    h.step orderly standard rfl (by rw [shown]; rintro _ ⟨⟩; exact ⟨nofun, nofun⟩)
  have waits' : .converging (.polling c) ∈ (Traffic.step g (.resume place) t).2.jobs := by
    refine (Traffic.converging_step waits).resolve_right ?_
    rintro ⟨place', same, here⟩
    cases same
    rw [at_place] at here
    cases here
  have alike : t.desk.fleet.fleet.Alike (Traffic.step g (.resume place) t).2.desk.fleet.fleet := orderly.alike_step rfl
  refine ⟨destroys, kind, ⟨(alike.profile? key.backend).trans plays, ?_, ?_⟩, later.standing, waits', ?_⟩
  · have its_own := Option.some.inj (orderly.its_own _ mem flight rfl)
    subst about
    rw [landed]
    exact rawStatus?_of_acted orderly.simulated its_own answered plays (destroys ▸ reported)
  · intro job there about'
    obtain ⟨strikes, _⟩ := later.calls_of_looking on waits' job there about'
    exact strikes
  · rw [alike.router]
    exact routed

/-! ## The look that finds it destroyed -/

/-- Servers and systems have a machine, which ends with their destruction. -/
theorem Gateway.finish_standard {g : Gateway} (standard : g.catalog = .standard) {kind : ResourceKind}
    (h : kind = .server ∨ kind = .system) :
    ∃ machine, g.catalog.get? kind = some machine ∧ machine.hasState .finish = true ∧
      machine.isTerminal .finish = true := by
  rw [standard]
  rcases h with rfl | rfl
  · exact ⟨_, rfl, by decide, by decide⟩
  · exact ⟨_, rfl, by decide, by decide⟩

theorem Gateway.terminal_finish {g : Gateway} (standard : g.catalog = .standard) {kind : ResourceKind}
    (h : kind = .server ∨ kind = .system) : Terminal (g.catalog.get? kind) .finish := by
  obtain ⟨machine, found, has, terminal⟩ := finish_standard standard h
  rw [found, ← isTerminalFor_iff, isTerminalFor, has, terminal]
  rfl

theorem Final.of_finish {g : Gateway} {key : ResourceKey} {profile : Profile} {raw : String}
    (standard : g.catalog = .standard) (kind : key.kind = .server ∨ key.kind = .system)
    (still : profile.nextStatus? raw = none) (finished : g.normalizer.normalize key.backend raw = .finish)
    (reported : profile.reportedStatus? "destroy" = some raw) : Final g key profile raw (·.action = "destroy") where
  still := still
  terminal := by
    obtain ⟨machine, found, _, terminal⟩ := finish_standard standard kind
    exact ⟨machine, found, by rw [finished]; exact terminal⟩
  repeats := fun request destroys => by rw [destroys]; exact reported

namespace Struck

open Traffic (Orderly)

variable {g : Gateway} {key : ResourceKey} {profile : Profile} {raw : String} {c : Convergence}
  {t : Traffic (Recorded Park) Flight} {move : Move (Recorded Park)}

/-- The next look of its convergence finds the resource destroyed. -/
theorem looks (h : Struck key profile raw c t) (orderly : Orderly g t) (on : c.key = key)
    (terminal : Terminal (g.catalog.get? key.kind) (g.normalizer.normalize key.backend raw)) :
    (g.resume (.converging (.polling c)) t.desk).event =
      some (.ended key (.removed (some (g.normalizer.normalize key.backend raw)))) := by
  subst on
  obtain ⟨resource, answer, same⟩ := (orderly.simulated.finds c.key).shown h.routed h.rests.held
  have seen : g.seen? c.key (Fleet.find t.desk.fleet c.key).1 = some (g.normalizer.normalize c.key.backend raw) := by
    rw [show (Fleet.find t.desk.fleet c.key).1 = _ from answer, seen?, same]
  have turn : g.advance (.polling c) t.desk = _ := poll_of_terminal seen terminal
  simp only [resume, turn, ended, lift]
  rfl

/-- It stays so until that look. -/
theorem step (h : Struck key profile raw c t) (final : Final g key profile raw (·.action = "destroy"))
    (orderly : Orderly g t) (standard : g.catalog = .standard) (on : c.key = key)
    (terminal : Terminal (g.catalog.get? key.kind) (g.normalizer.normalize key.backend raw))
    (calm : move.isDrift = false) (spares : ∀ event, (Traffic.step g move t).1 = some event → event.Spares key) :
    Struck key profile raw c (Traffic.step g move t).2 where
  rests := h.rests.step final orderly calm (fun event shown => (spares event shown).1) fun request shown about =>
    (h.rests.reached final orderly standard shown about).2.1
  standing := by
    have turn := Traffic.step_standing g move t key
    rw [h.standing] at turn
    exact turn.of_guarded spares
  waits := by
    refine (Traffic.converging_step h.waits).resolve_right ?_
    rintro ⟨place, rfl, at_place⟩
    exact (spares _ ((Traffic.event_resume at_place).trans (h.looks orderly on terminal))).2 _ rfl
  routed := by
    rw [(orderly.alike_step calm).router]
    exact h.routed

theorem run (h : Struck key profile raw c t) (final : Final g key profile raw (·.action = "destroy"))
    (orderly : Orderly g t) (standard : g.catalog = .standard) (on : c.key = key)
    (terminal : Terminal (g.catalog.get? key.kind) (g.normalizer.normalize key.backend raw))
    {moves : List (Move (Recorded Park))} (calm : ∀ move ∈ moves, move.isDrift = false)
    (spares : ∀ event ∈ (Traffic.run g moves t).1, event.Spares key) :
    Struck key profile raw c (Traffic.run g moves t).2 := by
  refine (Traffic.run_keeps (P := fun t => Orderly g t ∧ Struck key profile raw c t) ?_ calm spares ⟨orderly, h⟩).2
  rintro move t calm spares ⟨orderly, h⟩
  exact ⟨orderly.step calm, h.step final orderly standard on terminal calm spares⟩

/-- Only that look ends a convergence of the resource. -/
theorem ends (h : Struck key profile raw c t) (orderly : Orderly g t) (on : c.key = key)
    (terminal : Terminal (g.catalog.get? key.kind) (g.normalizer.normalize key.backend raw)) {outcome : Outcome}
    (shown : (Traffic.step g move t).1 = some (.ended key outcome)) :
    outcome = .removed (some (g.normalizer.normalize key.backend raw)) ∧
      (Traffic.step g move t).2.standing key = ⟨none, 0⟩ := by
  obtain ⟨place, phase, _, rfl, at_place, its_key, _⟩ := Traffic.converging_of_ended shown
  obtain rfl := Traffic.phase_unique (congrArg Standing.inFlight h.standing) (List.mem_of_getElem? at_place) its_key
    h.waits on
  have looked := (Traffic.event_resume at_place).trans (h.looks orderly on terminal)
  cases shown.symm.trans looked
  have turn := Traffic.step_standing g (.resume place) t key
  rw [looked, h.standing] at turn
  exact ⟨rfl, turn.of_only_end⟩

end Struck

/-! ## The whole story -/

namespace Traffic

/-- A new resource is made, and while its convergence still looks an action on it succeeds. In between that convergence
has not ended, and the id of the resource was not given out once more. -/
structure Revokes (g : Gateway) (key : ResourceKey) (c : Convergence) (request : ActionRequest)
    (t : Traffic (Recorded Park) Flight) (make : Move (Recorded Park)) (between : List (Move (Recorded Park)))
    (strike : Move (Recorded Park)) : Prop where
  unknown : Unknown key t
  made : (step g make t).1.bind Event.made? = some key
  spared : ∀ event ∈ (run g between (step g make t).2).1, event.Spares key
  on : c.key = key
  looks : .converging (.polling c) ∈ (run g between (step g make t).2).2.jobs
  about : request.key = key
  succeeded : (step g strike (run g between (step g make t).2).2).1.bind Event.succeeded? = some request

/-- **Revoked resources.** Before a park of simulated backends that do not change by themselves, with the standard
machines and whatever else goes on: a new resource is made, and an action on it succeeds while its convergence still
looks, be it before its first look or between two later ones. Its backend destroys resources at once, with a status that
counts as finished and from which it does not move on, and no new resource gets the same id. Then

1. the action has destroyed the resource, and it is a server or a system, since no other gets through;
2. as long as its convergence has not ended, it is the same as before and the only one, it has an attempt left, and when
   it goes on, it finds the resource destroyed, ends with that, and leaves no guard;
3. so the first end of a convergence of the resource is that one, and the resource is not under guard any more until
   another convergence of it begins;
4. its backend receives no calls about the resource but those that destroy it: it is not finished any more. -/
theorem revoked_ends (g : Gateway) (standard : g.catalog = .standard) (desk : Desk (Recorded Park))
    (simulated : desk.fleet.fleet.Simulated) (before between later : List (Move (Recorded Park)))
    (make strike : Move (Recorded Park))
    (calm : ∀ move ∈ before ++ make :: (between ++ strike :: later), move.isDrift = false)
    (key : ResourceKey) (profile : Profile) (raw : String)
    (plays : desk.fleet.fleet.profile? key.backend = some profile)
    (reported : profile.reportedStatus? "destroy" = some raw) (still : profile.nextStatus? raw = none)
    (finished : g.normalizer.normalize key.backend raw = .finish)
    (c : Convergence) (request : ActionRequest)
    (revokes : Revokes g key c request (run g before (begin desk)).2 make between strike)
    (unmade : ∀ event ∈
      (run g later (step g strike (run g between (step g make (run g before (begin desk)).2).2).2).2).1,
      event.made? ≠ some key) :
    let struck := (step g strike (run g between (step g make (run g before (begin desk)).2).2).2).2
    let events := (run g later struck).1
    let t := (run g later struck).2
    (request.action = "destroy" ∧ (key.kind = .server ∨ key.kind = .system)) ∧
    ((∀ outcome, .ended key outcome ∉ events) →
      .converging (.polling c) ∈ t.jobs ∧ c.attempts < g.plan.maxAttempts ∧
      ∀ place phase, t.jobs[place]? = some (.converging phase) → phase.convergence.key = key →
        phase = .polling c ∧ (step g (.resume place) t).1 = some (.ended key (.removed (some .finish))) ∧
          (step g (.resume place) t).2.desk.guards.get? key = none) ∧
    (∀ earlier outcome after, events = earlier ++ .ended key outcome :: after →
      (∀ outcome', .ended key outcome' ∉ earlier) →
        outcome = .removed (some .finish) ∧
          ((∀ event ∈ after, event.begun? ≠ some key) → t.desk.guards.get? key = none)) ∧
    ∃ asked, t.desk.fleet.record = struck.desk.fleet.record ++ asked ∧
      ∀ call ∈ asked.filterMap Ask.call?, call.key? = some key → call.operation.action = "destroy" := by
  intro struck events t
  simp only [List.forall_mem_append, List.forall_mem_cons] at calm
  obtain ⟨calm_before, calm_make, calm_between, calm_strike, calm_later⟩ := calm
  -- Until the action has succeeded, the resource comes up.
  obtain ⟨orderly₀, alike₀⟩ := (Orderly.of_begin (g := g) simulated).run calm_before
  have uncalled := uncalled_of_unheld simulated calm_before revokes.unknown.unheld
  have made := Coming.of_made orderly₀ standard calm_make uncalled revokes.unknown.unclaimed revokes.made
  obtain ⟨orderly₂, alike₂⟩ := (orderly₀.step calm_make).run calm_between
  have coming := made.run (orderly₀.step calm_make) standard calm_between revokes.spared
  have alike := (alike₀.trans (orderly₀.alike_step calm_make)).trans alike₂
  obtain ⟨destroys, kind, rests⟩ := coming.struck orderly₂ standard revokes.on revokes.looks
    ((alike.profile? key.backend).trans plays) reported revokes.succeeded revokes.about
  -- From then on it rests.
  have orderly : Orderly g struck := orderly₂.step calm_strike
  have final : Final g key profile raw (·.action = "destroy") := .of_finish standard kind still finished reported
  have terminal : Terminal (g.catalog.get? key.kind) (g.normalizer.normalize key.backend raw) := by
    rw [finished]
    exact terminal_finish standard kind
  refine ⟨⟨destroys, kind⟩, fun unended => ?_, ?_, ?_⟩
  · have now := rests.run final orderly standard revokes.on terminal calm_later (.of_not_mem unmade unended)
    have orderly' := (orderly.run calm_later).1
    have stems := stems g (before ++ make :: between) desk (.converging (.polling c))
      (by rw [run_append]; exact revokes.looks)
    refine ⟨now.waits, ?_, fun place phase at_place on => ?_⟩
    · cases stems with
      | polling _ more => exact more
    · obtain rfl := phase_unique (congrArg Standing.inFlight now.standing) (List.mem_of_getElem? at_place) on
        now.waits revokes.on
      have shown : (step g (.resume place) t).1 = some (.ended key (.removed (some .finish))) := by
        rw [← finished]
        exact (event_resume at_place).trans (now.looks orderly' on terminal)
      exact ⟨rfl, shown, congrArg Standing.entry (now.ends orderly' on terminal shown).2⟩
  · intro earlier outcome after split unended
    obtain ⟨moves, move, moves', rfl, seen, shown, rest⟩ := exists_move_of_run split
    have calm_moves := (List.forall_mem_append.mp calm_later).1
    have unmade' : ∀ event ∈ (run g moves struck).1, event.made? ≠ some key := by
      intro event mem
      refine unmade event ?_
      rw [run_append]
      exact List.mem_append_left _ mem
    have now := rests.run final orderly standard revokes.on terminal calm_moves (.of_not_mem unmade' (seen ▸ unended))
    obtain ⟨same, standing⟩ := now.ends (orderly.run calm_moves).1 revokes.on terminal shown
    refine ⟨same.trans (by rw [finished]), fun unbegun => ?_⟩
    have life := run_standing g moves' (step g move (run g moves struck).2).2 key
    rw [rest, standing] at life
    exact congrArg Standing.entry (life.idle rfl unbegun nofun)
  · obtain ⟨_, asked, recorded, calls⟩ :=
      rests.rests.run final orderly standard calm_later unmade fun _ _ _ destroys => destroys
    refine ⟨asked, recorded, fun call mem about => ?_⟩
    obtain ⟨request', destroys', rfl⟩ := calls call mem about
    exact destroys'

end Traffic

/-! ## A server that is revoked -/

namespace Revoked

open Solo
open Traffic (step run)

/-- A backend that starts its servers bit by bit, and destroys them at once. -/
def backend : SimulatedBackend := .new .vcloud

/-- The traffic when the server is asked for. -/
def before : Traffic (Recorded Park) Flight := (run (gateway backend) [order backend] (.begin (desk backend))).2

/-- The server is looked at, and then asked to be destroyed. -/
def between : List (Move (Recorded Park)) := .resume 0 :: ask backend "destroy"

/-- The convergence of the server after that look, which has found it starting. -/
def waiting : Convergence := ⟨server backend, ⟨.none, .null⟩, 1, some .pending⟩

/-- The traffic when the server is destroyed. -/
def struck : Traffic (Recorded Park) Flight :=
  (step (gateway backend) (.resume 1)
    (run (gateway backend) between (step (gateway backend) (.resume 0) before).2).2).2

/-- The server that was about to come up is found destroyed, though someone has asked for that once more. -/
theorem server_revoked :
    ∃ place, (step (gateway backend) (.resume place) (run (gateway backend) (ask backend "destroy") struck).2).1 =
        some (.ended (server backend) (.removed (some .finish))) ∧
      (step (gateway backend) (.resume place)
        (run (gateway backend) (ask backend "destroy") struck).2).2.desk.guards.get? (server backend) = none := by
  have looks : (run (gateway backend) between (step (gateway backend) (.resume 0) before).2).2.jobs[0]? =
      some (.converging (.polling waiting)) := rfl
  have seen : before.desk.fleet.fleet.rawStatus? (server backend) = none ∧ before.inFlight (server backend) = 0 ∧
      (step (gateway backend) (.resume 0) before).1.bind Event.made? = some (server backend) ∧
      (∀ event ∈ (run (gateway backend) between (step (gateway backend) (.resume 0) before).2).1,
        event.subject? ≠ some (server backend)) ∧
      (step (gateway backend) (.resume 1) (run (gateway backend) between
        (step (gateway backend) (.resume 0) before).2).2).1.bind Event.succeeded? = some (request backend "destroy") ∧
      ∀ event ∈ (run (gateway backend) (ask backend "destroy") struck).1, event.subject? ≠ some (server backend) := by
    decide +kernel
  obtain ⟨unheld, unclaimed, made, quiet, succeeded, quiet'⟩ := seen
  have revokes : Traffic.Revokes (gateway backend) (server backend) waiting (request backend "destroy") before
      (.resume 0) between (.resume 1) :=
    { unknown := ⟨unheld, unclaimed⟩
      made := made
      spared := fun event mem => .of_subject (quiet event mem)
      on := rfl
      looks := List.mem_of_getElem? looks
      about := rfl
      succeeded := succeeded }
  obtain ⟨_, ends, _⟩ := Traffic.revoked_ends (gateway backend) rfl (desk backend) (simulated_park backend)
    [order backend] between (ask backend "destroy") (.resume 0) (.resume 1) (by decide) (server backend) .vcloud "DELETED"
    (by decide +kernel) (by decide +kernel) (by decide +kernel) (by decide +kernel) waiting (request backend "destroy")
    revokes fun event mem same => quiet' event mem (Event.subject_of_made same)
  obtain ⟨mem, _, finds⟩ := ends fun _ mem => quiet' _ mem rfl
  obtain ⟨place, at_place⟩ := List.mem_iff_getElem?.mp mem
  exact ⟨place, (finds place (.polling waiting) at_place rfl).2⟩

end Revoked

end CloudLifecycle
