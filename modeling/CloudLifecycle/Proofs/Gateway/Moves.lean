import CloudLifecycle.Proofs.Gateway.Jobs
import Mathlib.Data.List.Induction

/-!
# Moves

From what a gateway may do in one stretch to what a move may do to its traffic, and from there to whole runs:

1. a property that every stretch keeps is kept by every move, wherever in the list of jobs the work stands
   (`forall_jobs_step`, `desk_step`, `fleet_step`), and by every run (`run_keeps`);
2. an event tells which job has gone on, and how (`looking_of_reached`, `cases_of_acted`, `cases_of_provisioned`,
   `converging_of_ended`);
3. what a job holds tells what was done on earlier desks: which gates were passed there, which call was sent off
   (`Job.Stems`, `stems`).
-/

namespace CloudLifecycle

variable {σ φ : Type} [Fleet σ φ]

/-- Whether a move is the backends' own. -/
def Move.isDrift : Move σ → Bool
  | .drift _ => true
  | .demand _ | .resume _ | .abandon _ => false

namespace Traffic

section

variable {g : Gateway} {t : Traffic σ φ} {place : Nat} {job : Job φ}

theorem event_resume (h : t.jobs[place]? = some job) :
    (step g (.resume place) t).1 = (g.resume job t.desk).event := by
  simp only [step, h]

theorem desk_resume (h : t.jobs[place]? = some job) :
    (step g (.resume place) t).2.desk = (g.resume job t.desk).desk := by
  simp only [step, h]

theorem step_demand (demand : Demand) :
    step g (.demand demand) t = ((g.accept demand t.desk : Stretch σ φ).event,
      ⟨(g.accept demand t.desk : Stretch σ φ).desk,
        t.jobs ++ (g.accept demand t.desk : Stretch σ φ).next.toList⟩) := rfl

theorem resume_last (desk : Desk σ) (jobs : List (Job φ)) (job : Job φ) :
    step g (.resume jobs.length) ⟨desk, jobs ++ [job]⟩ =
      ((g.resume job desk).event, ⟨(g.resume job desk).desk, jobs ++ (g.resume job desk).next.toList⟩) := by
  simp [step]

theorem resume_beyond (desk : Desk σ) (jobs : List (Job φ)) :
    step g (.resume jobs.length) ⟨desk, jobs⟩ = (none, ⟨desk, jobs⟩) := by
  simp [step]

end

/-- What holds of each job, and of what every stretch leaves to do, holds of each job after a move. The stretch of a job
may be taken to be the one whose event the move shows. -/
theorem forall_jobs_step {g : Gateway} {move : Move σ} {t : Traffic σ φ} {J : Job φ → Prop}
    (jobs : ∀ job ∈ t.jobs, J job)
    (accepts : ∀ demand, ∀ job ∈ (g.accept demand t.desk : Stretch σ φ).next, J job)
    (resumes : ∀ job ∈ t.jobs, (step g move t).1 = (g.resume job t.desk).event →
      ∀ next ∈ (g.resume job t.desk).next, J next) :
    ∀ job ∈ (step g move t).2.jobs, J job := by
  intro job mem
  cases move with
  | demand demand =>
    rcases List.mem_append.mp mem with old | new
    · exact jobs job old
    · exact accepts demand job (Option.mem_toList.mp new)
  | resume place =>
    rcases hj : t.jobs[place]? with _ | work
    · simp only [step, hj] at mem
      exact jobs job mem
    · simp only [step, hj, List.mem_append] at mem
      rcases mem with old | new | old
      · exact jobs job (List.mem_of_mem_take old)
      · exact resumes work (List.mem_of_getElem? hj) (event_resume hj) job (Option.mem_toList.mp new)
      · exact jobs job (List.mem_of_mem_drop old)
  | abandon place =>
    unfold step at mem
    dsimp only at mem
    split at mem
    · exact jobs job mem
    · exact jobs job mem
    · exact jobs job (List.mem_of_mem_eraseIdx mem)
  | drift fleet => exact jobs job mem

/-- What holds of the desk, and is kept by every stretch, holds of the desk after every move but those of the backends
themselves. -/
theorem desk_step {g : Gateway} {move : Move σ} {t : Traffic σ φ} {D : Desk σ → Prop} (calm : move.isDrift = false)
    (desk : D t.desk) (accepts : ∀ demand, D (g.accept demand t.desk : Stretch σ φ).desk)
    (resumes : ∀ job ∈ t.jobs, (step g move t).1 = (g.resume job t.desk).event → D (g.resume job t.desk).desk) :
    D (step g move t).2.desk := by
  cases move with
  | demand demand => exact accepts demand
  | resume place =>
    rcases hj : t.jobs[place]? with _ | job
    · simp only [step, hj]
      exact desk
    · rw [desk_resume hj]
      exact resumes job (List.mem_of_getElem? hj) (event_resume hj)
  | abandon place =>
    unfold step
    dsimp only
    split <;> exact desk
  | drift fleet => cases calm

/-- What holds of the fleet, and is kept by lookups, by calls that are sent off, and by the landing of the call of the
job that goes on, holds of the fleet after every move but those of the backends themselves. -/
theorem fleet_step {g : Gateway} {move : Move σ} {t : Traffic σ φ} {P : σ → Prop} (calm : move.isDrift = false)
    (finds : ∀ fleet key, P fleet → P (Fleet.find fleet key).2)
    (launches : ∀ fleet call, P fleet → P (Fleet.launch fleet call).2)
    (lands : ∀ job ∈ t.jobs, (step g move t).1 = (g.resume job t.desk).event → ∀ flight, job.flight? = some flight →
      P (Fleet.land t.desk.fleet flight).2)
    (h : P t.desk.fleet) : P (step g move t).2.desk.fleet :=
  desk_step (D := fun desk => P desk.fleet) calm h (fun _ => Gateway.fleet_accept launches h)
    fun job mem shown => Gateway.fleet_resume (fun fleet key _ => finds fleet key) launches (lands job mem shown)
      fun _ => h

/-- What every move keeps as long as it shows nothing but certain events is kept by every run that shows no others. -/
theorem run_keeps {g : Gateway} {P : Traffic σ φ → Prop} {E : Event → Prop}
    (keeps : ∀ move t, move.isDrift = false → (∀ event, (step g move t).1 = some event → E event) → P t →
      P (step g move t).2)
    {moves : List (Move σ)} {t : Traffic σ φ} (calm : ∀ move ∈ moves, move.isDrift = false)
    (shows : ∀ event ∈ (run g moves t).1, E event) (h : P t) : P (run g moves t).2 := by
  induction moves generalizing t with
  | nil => exact h
  | cons move moves ih =>
    rw [List.forall_mem_cons] at calm
    rw [run, List.forall_mem_append] at shows
    exact ih calm.2 shows.2 (keeps move t calm.1 (fun event shown => shows.1 event (Option.mem_toList.mpr shown)) h)

/-- An event belongs to the demand that was taken up, or to the job that went on. -/
theorem stretch_of_event {g : Gateway} {move : Move σ} {t : Traffic σ φ} {event : Event}
    (h : (step g move t).1 = some event) :
    (∃ demand, move = .demand demand ∧ (g.accept demand t.desk : Stretch σ φ).event = some event) ∨
      ∃ place job, move = .resume place ∧ t.jobs[place]? = some job ∧ (g.resume job t.desk).event = some event := by
  cases move with
  | demand demand => exact .inl ⟨demand, rfl, h⟩
  | resume place =>
    rcases hj : t.jobs[place]? with _ | job
    · simp [step, hj] at h
    · simp only [step, hj] at h
      exact .inr ⟨place, job, rfl, hj, h⟩
  | abandon place =>
    unfold step at h
    dsimp only at h
    split at h <;> cases h
  | drift fleet => cases h

section

variable {g : Gateway} {move : Move σ} {t : Traffic σ φ}

/-- An action gets through from the wait for its lookup. -/
theorem looking_of_reached {request : ActionRequest} (shown : (step g move t).1 = some (.reached request)) :
    ∃ place machine, move = .resume place ∧ t.jobs[place]? = some (.looking request machine) ∧
      g.admission t.desk.guards machine request (Fleet.find t.desk.fleet request.key).1 = .admitted := by
  rcases stretch_of_event shown with ⟨demand, _, event⟩ | ⟨place, job, rfl, at_place, event⟩
  · have taken := g.accepted (φ := φ) demand t.desk
    generalize (g.accept demand t.desk : Stretch σ φ) = s at taken event
    cases taken <;> cases event
  · have gone := g.resumed job t.desk
    generalize g.resume job t.desk = s at gone event
    cases gone with
    | reached request machine admitted =>
      cases event
      exact ⟨place, machine, rfl, at_place, admitted⟩
    | _ => cases event

/-- An action ends before its lookup, with it, or with its call. -/
theorem cases_of_acted {request : ActionRequest} {result : ActionResult}
    (shown : (step g move t).1 = some (.acted request result)) :
    g.enter request t.desk.fleet = .error result ∨
      (∃ place machine, move = .resume place ∧ t.jobs[place]? = some (.looking request machine) ∧
        g.admission t.desk.guards machine request (Fleet.find t.desk.fleet request.key).1 = .refused result) ∨
      ∃ place flight, move = .resume place ∧ t.jobs[place]? = some (.acting request flight) ∧
        (g.finishAction request flight t.desk).1 = result := by
  rcases stretch_of_event shown with ⟨demand, _, event⟩ | ⟨place, job, rfl, at_place, event⟩
  · have taken := g.accepted (φ := φ) demand t.desk
    generalize (g.accept demand t.desk : Stretch σ φ) = s at taken event
    cases taken with
    | barred request result barred =>
      cases event
      exact .inl barred
    | _ => cases event
  · have gone := g.resumed job t.desk
    generalize g.resume job t.desk = s at gone event
    cases gone with
    | refused request machine result refused =>
      cases event
      exact .inr (.inl ⟨place, machine, rfl, at_place, refused⟩)
    | acted request flight =>
      cases event
      exact .inr (.inr ⟨place, flight, rfl, at_place, rfl⟩)
    | _ => cases event

/-- A request for a new resource ends before its call or with it. -/
theorem cases_of_provisioned {request : CreateRequest} {provisioning : Provisioning}
    (shown : (step g move t).1 = some (.provisioned request provisioning)) :
    (Fleet.supports t.desk.fleet request.backend request.operation.name = false ∧
        provisioning = ⟨.notSupported request.backend request.operation, none⟩) ∨
      ∃ place flight, move = .resume place ∧ t.jobs[place]? = some (.creating request flight) ∧
        (g.finishCreate request flight t.desk).1 = provisioning := by
  rcases stretch_of_event shown with ⟨demand, _, event⟩ | ⟨place, job, rfl, at_place, event⟩
  · have taken := g.accepted (φ := φ) demand t.desk
    generalize (g.accept demand t.desk : Stretch σ φ) = s at taken event
    cases taken with
    | unsupported request undeclared =>
      cases event
      exact .inl ⟨undeclared, rfl⟩
    | _ => cases event
  · have gone := g.resumed job t.desk
    generalize g.resume job t.desk = s at gone event
    cases gone with
    | provisioned request flight =>
      cases event
      exact .inr ⟨place, flight, rfl, at_place, rfl⟩
    | _ => cases event

/-- A convergence ends when it goes on. -/
theorem converging_of_ended {key : ResourceKey} {outcome : Outcome}
    (shown : (step g move t).1 = some (.ended key outcome)) :
    ∃ place phase later, move = .resume place ∧ t.jobs[place]? = some (.converging phase) ∧
      phase.convergence.key = key ∧ g.advance phase t.desk = (.done outcome, later) := by
  rcases stretch_of_event shown with ⟨demand, _, event⟩ | ⟨place, job, rfl, at_place, event⟩
  · have taken := g.accepted (φ := φ) demand t.desk
    generalize (g.accept demand t.desk : Stretch σ φ) = s at taken event
    cases taken <;> cases event
  · have gone := g.resumed job t.desk
    generalize g.resume job t.desk = s at gone event
    cases gone with
    | ended phase outcome later turn =>
      cases event
      exact ⟨place, phase, later, rfl, at_place, rfl, turn⟩
    | _ => cases event

end

/-! ## Where jobs come from -/

/-- The desks on which the moves of a schedule find a gateway. -/
def desks (g : Gateway) : List (Move σ) → Traffic σ φ → List (Desk σ)
  | [], _ => []
  | move :: moves, t => t.desk :: desks g moves (step g move t).2

theorem desks_append (g : Gateway) (moves moves' : List (Move σ)) (t : Traffic σ φ) :
    desks g (moves ++ moves') t = desks g moves t ++ desks g moves' (run g moves t).2 := by
  induction moves generalizing t with
  | nil => rfl
  | cons move moves ih => simp only [List.cons_append, desks, ih, run]

/-- An event of a run belongs to a move on one of its desks. -/
theorem exists_step_of_mem {g : Gateway} {moves : List (Move σ)} {t : Traffic σ φ} {event : Event}
    (h : event ∈ (run g moves t).1) :
    ∃ earlier move, desks g earlier t ++ [(run g earlier t).2.desk] <+: desks g moves t ∧
      (step g move (run g earlier t).2).1 = some event := by
  obtain ⟨before, after, split⟩ := List.append_of_mem h
  obtain ⟨earlier, move, later, rfl, _, moved, _⟩ := exists_move_of_run split
  refine ⟨earlier, move, ⟨desks g later (step g move (run g earlier t).2).2, ?_⟩, moved⟩
  rw [desks_append, List.append_assoc]
  rfl

end Traffic

/-- A job is what earlier stretches, each on one of the desks, have left of some work. -/
inductive Job.Stems (g : Gateway) (desks : List (Desk σ)) : Job φ → Prop where
  | looking (request : ActionRequest) (machine : Machine) (first : Desk σ) (h : first ∈ desks)
      (entered : g.enter request first.fleet = .ok machine) : Stems g desks (.looking request machine)
  | acting (request : ActionRequest) (machine : Machine) (first second : Desk σ) (h : first ∈ desks)
      (h' : second ∈ desks) (entered : g.enter request first.fleet = .ok machine)
      (admitted : g.admission second.guards machine request (Fleet.find second.fleet request.key).1 = .admitted) :
      Stems g desks (.acting request (g.call (Gateway.actionCall request) (Gateway.lookedUp request second)).1.1)
  | creating (request : CreateRequest) (sent : Desk σ) (h : sent ∈ desks)
      (declared : Fleet.supports sent.fleet request.backend request.operation.name = true) :
      Stems g desks (.creating request (g.call (Gateway.createCall request) sent).1.1)
  | polling (c : Convergence) (more : c.attempts < g.plan.maxAttempts) : Stems g desks (.converging (.polling c))
  | finishing (c : Convergence) (s : LifecycleState) (seen : Desk σ) (h : seen ∈ desks) :
      Stems g desks (.converging (.finishing c s (g.call (Gateway.postCreateCall c) (g.observe c.key seen).2).1.1))
  | asking (key : ResourceKey) (asked : Desk σ) (h : asked ∈ desks) (free : asked.guards.overlay key = none) :
      Stems g desks (.asking key)
  | listing (key : ResourceKey) (asked : Desk σ) (h : asked ∈ desks) (free : asked.guards.overlay key = none) :
      Stems g desks (.listing key)

theorem Job.Stems.mono {g : Gateway} {desks desks' : List (Desk σ)} {job : Job φ} (h : job.Stems g desks)
    (sub : desks ⊆ desks') : job.Stems g desks' := by
  cases h with
  | looking request machine first h entered => exact .looking request machine first (sub h) entered
  | acting request machine first second h h' entered admitted =>
    exact .acting request machine first second (sub h) (sub h') entered admitted
  | creating request sent h declared => exact .creating request sent (sub h) declared
  | polling c more => exact .polling c more
  | finishing c s seen h => exact .finishing c s seen (sub h)
  | asking key asked h free => exact .asking key asked (sub h) free
  | listing key asked h free => exact .listing key asked (sub h) free

namespace Traffic

/-- Every job of a run stems from the desks of the run. -/
theorem stems (g : Gateway) (moves : List (Move σ)) (desk : Desk σ) :
    ∀ job ∈ (run g moves (begin desk : Traffic σ φ)).2.jobs,
      job.Stems g (desks g moves (begin desk : Traffic σ φ)) := by
  induction moves using List.reverseRecOn with
  | nil => exact List.forall_mem_nil _
  | append_singleton moves move ih =>
    rw [run_concat, desks_append]
    have here : (run g moves (begin desk : Traffic σ φ)).2.desk ∈
        desks g moves (begin desk : Traffic σ φ) ++ desks g [move] (run g moves (begin desk : Traffic σ φ)).2 :=
      List.mem_append_right _ List.mem_cons_self
    have old : ∀ job ∈ (run g moves (begin desk : Traffic σ φ)).2.jobs, job.Stems g
        (desks g moves (begin desk : Traffic σ φ) ++ desks g [move] (run g moves (begin desk : Traffic σ φ)).2) :=
      fun job mem => (ih job mem).mono (List.subset_append_left _ _)
    refine forall_jobs_step old ?_ ?_
    · intro demand job next
      have taken := g.accepted (φ := φ) demand (run g moves (begin desk : Traffic σ φ)).2.desk
      generalize (g.accept demand _ : Stretch σ φ) = s at taken next
      cases taken with
      | entered request machine h =>
        cases next
        exact .looking request machine _ here h
      | sent request h =>
        cases next
        exact .creating request _ here h
      | claimed key payload h =>
        cases next
        exact .polling _ g.attempts_pos
      | asking key h =>
        cases next
        exact .asking key _ here h
      | listing key h =>
        cases next
        exact .listing key _ here h
      | _ => cases next
    · intro job mem _ job' next
      have before := old job mem
      have gone := g.resumed job (run g moves (begin desk : Traffic σ φ)).2.desk
      generalize (g.resume job _ : Stretch σ φ) = s at gone next
      cases gone with
      | reached request machine h =>
        cases next
        cases before with
        | looking _ _ first h' entered => exact .acting request machine first _ h' here entered h
      | provisioned request flight =>
        obtain ⟨c, started, rfl⟩ := Option.map_eq_some_iff.mp next
        obtain ⟨id, rfl⟩ := Gateway.started_finishCreate started
        exact .polling _ g.attempts_pos
      | going phase rest time later h =>
        cases next
        have step := g.advanced phase (run g moves (begin desk : Traffic σ φ)).2.desk
        rw [h] at step
        cases step with
        | waits c kept same more => exact .polling kept more
        | finishes c kept same s _ _ _ => exact .finishing kept s _ here
      | _ => cases next

end Traffic

end CloudLifecycle
