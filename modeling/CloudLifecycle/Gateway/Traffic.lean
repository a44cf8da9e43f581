import CloudLifecycle.Gateway.Converge
import CloudLifecycle.Gateway.Create
import CloudLifecycle.Gateway.Read

/-!
# Traffic

A gateway at work for many callers at once. Everything it does is cut into stretches that end where time has to
pass: for a lookup, for a call, or for the next attempt of a convergence. Between two stretches of one piece of work
all others may move, and in any order: a schedule is any list of moves. Time itself is left out, since every moment
at which a wait may end is a moment at which the work may go on.

A stretch between two such waits is one step, during which nothing else moves. So the answer of a lookup is taken, judged
and acted on at once (`Gateway.judge`), and a failure is found and forgotten at once (`Gateway.clearFailure`). Where pieces
of work run truly at the same time, another one could come in between, within a stretch; that is finer than what is said
here.

Backends may change by themselves between two stretches, in any way (`Move.drift`). Callers may stop waiting for
an answer (`Move.abandon`), but a convergence that has begun goes on to its end.
-/

namespace CloudLifecycle

/-- What callers may ask of a gateway. -/
inductive Demand where
  | dispatch (request : ActionRequest)
  | create (request : CreateRequest)
  | converge (key : ResourceKey) (payload : Payload)
  | currentState (key : ResourceKey)
  | availableActions (key : ResourceKey)
  | clearFailure (key : ResourceKey)

/-- A piece of work that waits to go on. -/
inductive Job (φ : Type) where
  /-- An action past the first two gates, which waits for its lookup. -/
  | looking (request : ActionRequest) (machine : Machine)
  /-- An action past all gates, which waits for its call. -/
  | acting (request : ActionRequest) (flight : Option φ)
  /-- A request for a new resource, which waits for its call. -/
  | creating (request : CreateRequest) (flight : Option φ)
  | converging (phase : Phase φ)
  /-- A question for the state of a resource, which waits for its lookup. -/
  | asking (key : ResourceKey)
  /-- A question for the actions that a resource allows, which waits for its lookup. -/
  | listing (key : ResourceKey)

/-- What a stretch of work lets others see. -/
inductive Event where
  /-- An action has passed all gates, and its call is on its way. -/
  | reached (request : ActionRequest)
  | acted (request : ActionRequest) (result : ActionResult)
  /-- A request for a new resource was answered. -/
  | provisioned (request : CreateRequest) (provisioning : Provisioning)
  /-- A convergence has begun in the foreground. -/
  | claimed (key : ResourceKey)
  /-- A convergence in the foreground was refused, since another one holds the guard. -/
  | refused (key : ResourceKey)
  /-- A convergence has come to its end. -/
  | ended (key : ResourceKey) (outcome : Outcome)
  | stated (key : ResourceKey) (answer : BackendResult (Option LifecycleState))
  | listed (key : ResourceKey) (answer : BackendResult (List String))
  /-- Someone asked to forget a failure, and whether there was one. -/
  | cleared (key : ResourceKey) (lifted : Bool)

/-- What a piece of work does while it has its turn. -/
structure Stretch (σ φ : Type) where
  event : Option Event
  /-- What is left to do. -/
  next : Option (Job φ)
  desk : Desk σ

variable {σ φ : Type} [Fleet σ φ]

namespace Gateway

/-- Takes a demand up. -/
def accept (g : Gateway) (demand : Demand) (desk : Desk σ) : Stretch σ φ :=
  match demand with
  | .dispatch request =>
    match g.enter request desk.fleet with
    | .error result => ⟨some (.acted request result), none, desk⟩
    | .ok machine => ⟨none, some (.looking request machine), desk⟩
  | .create request =>
    match g.create request desk with
    | (.done provisioning, desk) => ⟨some (.provisioned request provisioning), none, desk⟩
    | (.waiting flight _, desk) => ⟨none, some (.creating request flight), desk⟩
  | .converge key payload =>
    match claim key payload desk with
    | (some c, desk) => ⟨some (.claimed key), some (.converging (.polling c)), desk⟩
    | (none, desk) => ⟨some (.refused key), none, desk⟩
  | .currentState key =>
    match desk.guards.overlay key with
    | some state => ⟨some (.stated key (.ok (some state))), none, desk⟩
    | none => ⟨none, some (.asking key), desk⟩
  | .availableActions key =>
    match desk.guards.overlay key with
    | some state => ⟨some (.listed key (.ok (g.actionsIn desk.fleet key state))), none, desk⟩
    | none => ⟨none, some (.listing key), desk⟩
  | .clearFailure key =>
    let (lifted, desk) := clearFailure key desk
    ⟨some (.cleared key lifted), none, desk⟩

/-- Goes on with a piece of work. -/
def resume (g : Gateway) (job : Job φ) (desk : Desk σ) : Stretch σ φ :=
  match job with
  | .looking request machine =>
    match g.judge request machine desk with
    | (.done result, desk) => ⟨some (.acted request result), none, desk⟩
    | (.waiting flight _, desk) => ⟨some (.reached request), some (.acting request flight), desk⟩
  | .acting request flight =>
    let (result, desk) := g.finishAction request flight desk
    ⟨some (.acted request result), none, desk⟩
  | .creating request flight =>
    let (provisioning, desk) := g.finishCreate request flight desk
    ⟨some (.provisioned request provisioning), provisioning.started.map fun c => .converging (.polling c), desk⟩
  | .converging phase =>
    match g.advance phase desk with
    | (.done outcome, desk) => ⟨some (.ended phase.convergence.key outcome), none, desk⟩
    | (.waiting rest _, desk) => ⟨none, some (.converging rest), desk⟩
  | .asking key =>
    let (answer, desk) := g.observe key desk
    ⟨some (.stated key answer), none, desk⟩
  | .listing key =>
    let (answer, desk) := g.observe key desk
    ⟨some (.listed key (g.actionsOf desk.fleet key answer)), none, desk⟩

end Gateway

/-- The desk of a gateway, and all the work that waits to go on. -/
structure Traffic (σ φ : Type) where
  desk : Desk σ
  jobs : List (Job φ)

/-- What may happen next. -/
inductive Move (σ : Type) where
  /-- Someone comes with a demand. -/
  | demand (demand : Demand)
  /-- The job at a place goes on. -/
  | resume (place : Nat)
  /-- The caller of the job at a place waits no longer. -/
  | abandon (place : Nat)
  /-- The backends change by themselves. -/
  | drift (fleet : σ)

namespace Traffic

/-- A gateway that has nothing to do yet. -/
def begin (desk : Desk σ) : Traffic σ φ := ⟨desk, []⟩

/-- One move, and what it lets others see. A move that means no job changes nothing, and a convergence is never
abandoned. -/
def step (g : Gateway) (move : Move σ) (t : Traffic σ φ) : Option Event × Traffic σ φ :=
  match move with
  | .demand demand =>
    let s := g.accept demand t.desk
    (s.event, ⟨s.desk, t.jobs ++ s.next.toList⟩)
  | .resume place =>
    match t.jobs[place]? with
    | some job =>
      let s := g.resume job t.desk
      (s.event, ⟨s.desk, t.jobs.take place ++ (s.next.toList ++ t.jobs.drop (place + 1))⟩)
    | none => (none, t)
  | .abandon place =>
    match t.jobs[place]? with
    | some (.converging _) | none => (none, t)
    | some _ => (none, ⟨t.desk, t.jobs.eraseIdx place⟩)
  | .drift fleet => (none, ⟨{ t.desk with fleet := fleet }, t.jobs⟩)

/-- The moves of a schedule one after the other, with all that others see, the earliest first. -/
def run (g : Gateway) : List (Move σ) → Traffic σ φ → List Event × Traffic σ φ
  | [], t => ([], t)
  | move :: moves, t =>
    let rest := run g moves (step g move t).2
    ((step g move t).1.toList ++ rest.1, rest.2)

theorem run_append (g : Gateway) (moves moves' : List (Move σ)) (t : Traffic σ φ) :
    run g (moves ++ moves') t =
      ((run g moves t).1 ++ (run g moves' (run g moves t).2).1, (run g moves' (run g moves t).2).2) := by
  induction moves generalizing t with
  | nil => rfl
  | cons move moves ih => simp only [List.cons_append, run, ih, List.append_assoc]

theorem run_concat (g : Gateway) (moves : List (Move σ)) (move : Move σ) (t : Traffic σ φ) :
    run g (moves ++ [move]) t =
      ((run g moves t).1 ++ (step g move (run g moves t).2).1.toList, (step g move (run g moves t).2).2) := by
  rw [run_append, run, run, List.append_nil]

/-- An event of a run belongs to one of its moves. -/
theorem exists_move_of_run {g : Gateway} {moves : List (Move σ)} {t : Traffic σ φ} {before after : List Event}
    {event : Event} (h : (run g moves t).1 = before ++ event :: after) :
    ∃ earlier move later, moves = earlier ++ move :: later ∧ (run g earlier t).1 = before ∧
      (step g move (run g earlier t).2).1 = some event ∧
      run g later (step g move (run g earlier t).2).2 = (after, (run g moves t).2) := by
  induction moves generalizing t before with
  | nil => simp [run] at h
  | cons move moves ih =>
    rw [run] at h ⊢
    rcases he : (step g move t).1 with _ | e
    · rw [he] at h
      obtain ⟨earlier, m, later, rfl, hb, hm, ha⟩ := ih h
      refine ⟨move :: earlier, m, later, rfl, ?_, hm, ha⟩
      rw [run, he, hb]
      rfl
    · rw [he] at h
      rcases before with _ | ⟨b, before⟩
      · obtain ⟨rfl, rfl⟩ := List.cons.inj h
        exact ⟨[], move, moves, rfl, rfl, he, rfl⟩
      · obtain ⟨rfl, hr⟩ := List.cons.inj h
        obtain ⟨earlier, m, later, rfl, hb, hm, ha⟩ := ih hr
        refine ⟨move :: earlier, m, later, rfl, ?_, hm, ha⟩
        rw [run, he, hb]
        rfl

end Traffic

end CloudLifecycle
