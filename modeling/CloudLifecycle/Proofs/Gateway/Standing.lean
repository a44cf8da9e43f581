import CloudLifecycle.Gateway.Traffic

/-!
# The standing of a resource

As far as the guards go, two things about a resource change while a gateway works: the guard over it, and the number
of convergences of it that are on their way. Together they are its `Standing`. A move changes the standing of a
resource in one of five ways, and the event of the move tells which (`Standing.Step`, `step_standing`):

1. the event does not concern the resource, and its standing stays;
2. a backend has answered a request for a new resource with its id: it is under guard, and one convergence more is
   on its way, whatever was there before;
3. a convergence has begun in the foreground: likewise, and it was not under guard before;
4. a convergence has ended: there is one less, and what is left of the guard follows from the outcome alone;
5. a failure was forgotten: no guard is left, and there was nothing but the failure before.

All that is shown of guards in the modules after this one is an induction over runs with these five cases.
-/

namespace CloudLifecycle

variable {σ φ : Type}

/-- The guard that a convergence with this outcome leaves behind. -/
def Outcome.leftover : Outcome → Option GuardEntry
  | postCreateFailed reason => some (.failed reason)
  | exhausted attempts lastSeen => some (.failed (exhaustionReason attempts lastSeen))
  | converged _ | removed _ | alreadyConverging => none

/-- The resource that a request for a new one has brought, as its caller is told. -/
def Provisioning.made? (p : Provisioning) (request : CreateRequest) : Option ResourceKey :=
  if p.result.success then p.result.resourceId.map (⟨request.backend, request.kind, ·⟩) else none

namespace Event

/-- The resource of which a convergence begins with an event. -/
def begun? : Event → Option ResourceKey
  | provisioned request provisioning => provisioning.made? request
  | claimed key => some key
  | _ => none

/-- The resource whose standing an event changes: a convergence of it has begun or ended, or a failure of it was
forgotten. -/
def subject? : Event → Option ResourceKey
  | provisioned request provisioning => provisioning.made? request
  | claimed key | ended key _ | cleared key true => some key
  | reached _ | acted _ _ | refused _ | stated _ _ | listed _ _ | cleared _ false => none

end Event

/-! ## Convergences on their way -/

/-- Whether a piece of work is a convergence of the resource. -/
def Job.isOn (key : ResourceKey) : Job φ → Bool
  | converging phase => phase.convergence.key = key
  | _ => false

/-- The guard over a resource, and the number of its convergences on their way. -/
structure Standing where
  entry : Option GuardEntry
  inFlight : Nat

/-- The number of convergences of a resource on their way. -/
def Traffic.inFlight (t : Traffic σ φ) (key : ResourceKey) : Nat := t.jobs.countP (Job.isOn key)

/-- The standing of a resource. -/
def Traffic.standing (t : Traffic σ φ) (key : ResourceKey) : Standing := ⟨t.desk.guards.get? key, t.inFlight key⟩

/-- The standing of a resource after a stretch of work, with `n` convergences of it among the other jobs. -/
def Stretch.standing (s : Stretch σ φ) (key : ResourceKey) (n : Nat) : Standing :=
  ⟨s.desk.guards.get? key, n + s.next.toList.countP (Job.isOn key)⟩

/-- All that a move can do to the standing of a resource. -/
inductive Standing.Step (key : ResourceKey) : Standing → Option Event → Standing → Prop where
  | quiet (s : Standing) (event : Option Event) (unconcerned : event.bind Event.subject? ≠ some key) :
      Step key s event s
  | provisioned (s : Standing) (request : CreateRequest) (provisioning : Provisioning)
      (made : provisioning.made? request = some key) :
      Step key s (some (.provisioned request provisioning)) ⟨some .converging, s.inFlight + 1⟩
  | claimed (s : Standing) (free : s.entry ≠ some .converging) :
      Step key s (some (.claimed key)) ⟨some .converging, s.inFlight + 1⟩
  | ended (entry : Option GuardEntry) (n : Nat) (outcome : Outcome) :
      Step key ⟨entry, n + 1⟩ (some (.ended key outcome)) ⟨outcome.leftover, n⟩
  | forgotten (reason : String) (n : Nat) :
      Step key ⟨some (.failed reason), n⟩ (some (.cleared key true)) ⟨none, n⟩

namespace Standing.Step

variable {key : ResourceKey} {s s' : Standing}

theorem of_unconcerned {event : Option Event} (h : Step key s event s')
    (unconcerned : event.bind Event.subject? ≠ some key) : s' = s := by
  cases h with
  | quiet _ _ _ => rfl
  | provisioned _ _ _ made => exact absurd made unconcerned
  | claimed _ _ | ended _ _ _ | forgotten _ _ => exact absurd rfl unconcerned

theorem of_begun {event : Event} (h : Step key s (some event) s') (begun : event.begun? = some key) :
    s' = ⟨some .converging, s.inFlight + 1⟩ := by
  cases h with
  | quiet _ _ unconcerned =>
    cases event with
    | provisioned _ _ | claimed _ => exact absurd begun unconcerned
    | reached _ | acted _ _ | refused _ | ended _ _ | stated _ _ | listed _ _ | cleared _ _ => cases begun
  | provisioned _ _ _ _ | claimed _ _ => rfl
  | ended _ _ _ | forgotten _ _ => cases begun

theorem of_ended {outcome : Outcome} (h : Step key s (some (.ended key outcome)) s') :
    s.inFlight = s'.inFlight + 1 ∧ s'.entry = outcome.leftover := by
  cases h with
  | quiet _ _ unconcerned => exact absurd rfl unconcerned
  | ended _ _ _ => exact ⟨rfl, rfl⟩

theorem silent (h : Step key s none s') : s' = s := h.of_unconcerned nofun

end Standing.Step

/-- A stretch of work takes a resource from a standing to that after it, with `n` convergences of it among the other
jobs. -/
def Stretch.Takes (s : Stretch σ φ) (key : ResourceKey) (n : Nat) (start : Standing) : Prop :=
  Standing.Step key start s.event (s.standing key n)

/-- A stretch takes no resource anywhere that shows nothing of it, leaves its guard, and is as much of a convergence
of it afterwards as before. -/
theorem Stretch.takes_of_quiet {s : Stretch σ φ} {key : ResourceKey} {n m : Nat} {entry : Option GuardEntry}
    (entry_eq : s.desk.guards.get? key = entry) (next_eq : n + s.next.toList.countP (Job.isOn key) = m)
    (unconcerned : s.event.bind Event.subject? ≠ some key) : s.Takes key n ⟨entry, m⟩ := by
  subst entry_eq next_eq
  exact .quiet _ _ unconcerned

/-! ## One step of a convergence -/

namespace Gateway

/-- What a step of the convergence of `key` makes of the guards. At its end the convergence leaves behind what its
outcome says, on its way it touches nothing. -/
def Leaves (key : ResourceKey) (guards : Guards) : Progress (Phase φ) Outcome × Desk σ → Prop
  | (.done outcome, desk) => ∀ k, desk.guards.get? k = if key = k then outcome.leftover else guards.get? k
  | (.waiting rest _, desk) => rest.convergence.key = key ∧ desk.guards = guards

theorem leaves_lift (c : Convergence) (desk : Desk σ) {outcome : Outcome} (h : outcome.leftover = none) :
    Leaves (φ := φ) c.key desk.guards (ended (lift c outcome desk)) := by
  intro k
  show (desk.guards.clear c.key).2.get? k = if c.key = k then outcome.leftover else desk.guards.get? k
  rw [h, Guards.get?_clear]

theorem leaves_fail (c : Convergence) (desk : Desk σ) {reason : String} {outcome : Outcome}
    (h : outcome.leftover = some (.failed reason)) :
    Leaves (φ := φ) c.key desk.guards (ended (fail c reason outcome desk)) := by
  intro k
  show (desk.guards.fail c.key reason).get? k = if c.key = k then outcome.leftover else desk.guards.get? k
  rw [h, Guards.get?_fail]

variable [Fleet σ φ]

theorem leaves_settle (g : Gateway) (c : Convergence) (state : LifecycleState) (desk : Desk σ) :
    Leaves (φ := φ) c.key desk.guards (g.settle c state desk) := by
  unfold settle
  split
  · exact ⟨rfl, rfl⟩
  · exact leaves_lift c desk rfl

theorem leaves_poll (g : Gateway) (c : Convergence) (desk : Desk σ) :
    Leaves (φ := φ) c.key desk.guards (g.poll c desk) := by
  unfold poll
  dsimp only
  split
  · exact leaves_lift c (g.observe c.key desk).2 rfl
  · exact g.leaves_settle _ _ (g.observe c.key desk).2
  · split
    · exact ⟨rfl, rfl⟩
    · exact leaves_fail _ (g.observe c.key desk).2 rfl

theorem leaves_finishConvergence (g : Gateway) (c : Convergence) (state : LifecycleState) (flight : Option φ)
    (desk : Desk σ) : Leaves (φ := φ) c.key desk.guards (ended (g.finishConvergence c state flight desk)) := by
  unfold finishConvergence
  split
  · next flight =>
    dsimp only
    split
    · exact leaves_lift c { desk with fleet := (Fleet.land desk.fleet flight).2 } rfl
    · exact leaves_fail c { desk with fleet := (Fleet.land desk.fleet flight).2 } rfl
  · exact leaves_fail c desk rfl

theorem leaves_advance (g : Gateway) (phase : Phase φ) (desk : Desk σ) :
    Leaves phase.convergence.key desk.guards (g.advance phase desk) := by
  cases phase with
  | polling c => exact g.leaves_poll c desk
  | finishing c state flight => exact g.leaves_finishConvergence c state flight desk

/-! ## One stretch of work -/

/-- A convergence begins exactly if the caller is told of a new resource, and it is of that resource. -/
theorem made_finishCreate (g : Gateway) (request : CreateRequest) (flight : Option φ) (desk : Desk σ) :
    (g.finishCreate request flight desk).1.made? request =
      (g.finishCreate request flight desk).1.started.map (·.key) := by
  cases flight with
  | none => rfl
  | some flight =>
    rcases ha : (Fleet.land desk.fleet flight).1 with e | receipt
    · simp only [finishCreate, ha]
      rfl
    · simp only [finishCreate, ha]
      rfl

/-- The end of a request for a new resource puts that resource under guard, if there is one, and no other. -/
theorem guards_finishCreate (g : Gateway) (request : CreateRequest) (flight : Option φ) (desk : Desk σ)
    (k : ResourceKey) :
    (g.finishCreate request flight desk).2.guards.get? k =
      if (g.finishCreate request flight desk).1.made? request = some k then some .converging
      else desk.guards.get? k := by
  rw [made_finishCreate]
  cases flight with
  | none => rfl
  | some flight =>
    rcases ha : (Fleet.land desk.fleet flight).1 with e | receipt
    · simp only [finishCreate, ha]
      rfl
    · simp only [finishCreate, ha]
      rw [Guards.get?_begin]
      simp [Convergence.begin]

theorem converge_takes (g : Gateway) (key' : ResourceKey) (payload : Payload) (desk : Desk σ) (key : ResourceKey)
    (n : Nat) : (g.accept (.converge key' payload) desk : Stretch σ φ).Takes key n ⟨desk.guards.get? key, n⟩ := by
  by_cases h : desk.guards.get? key' = some .converging
  · simp only [accept, claim_of_converging h]
    exact Stretch.takes_of_quiet rfl rfl nofun
  · simp only [accept, claim_of_free h]
    by_cases hk : key' = key
    · subst hk
      have hg : (desk.guards.begin key').2.get? key' = some .converging := by rw [Guards.get?_begin, if_pos rfl]
      simpa [Stretch.Takes, Stretch.standing, hg, Job.isOn, Phase.convergence, Convergence.begin] using
        Standing.Step.claimed ⟨desk.guards.get? key', n⟩ h
    · have hg : (desk.guards.begin key').2.get? key = desk.guards.get? key := by rw [Guards.get?_begin, if_neg hk]
      refine Stretch.takes_of_quiet hg ?_ ?_
      · simp [Job.isOn, Phase.convergence, Convergence.begin, hk]
      · simpa [Event.subject?] using hk

theorem clearFailure_takes (g : Gateway) (key' : ResourceKey) (desk : Desk σ) (key : ResourceKey) (n : Nat) :
    (g.accept (.clearFailure key') desk : Stretch σ φ).Takes key n ⟨desk.guards.get? key, n⟩ := by
  rcases h : desk.guards.get? key' with _ | _ | reason
  · simp only [accept, clearFailure, h]
    exact Stretch.takes_of_quiet rfl rfl nofun
  · simp only [accept, clearFailure, h]
    exact Stretch.takes_of_quiet rfl rfl nofun
  · simp only [accept, clearFailure, h]
    by_cases hk : key' = key
    · subst hk
      have hg : (desk.guards.clear key').2.get? key' = none := by rw [Guards.get?_clear, if_pos rfl]
      simpa [Stretch.Takes, Stretch.standing, hg, h] using Standing.Step.forgotten reason n
    · have hg : (desk.guards.clear key').2.get? key = desk.guards.get? key := by rw [Guards.get?_clear, if_neg hk]
      exact Stretch.takes_of_quiet hg rfl (by simpa [Event.subject?] using hk)

theorem accept_takes (g : Gateway) (demand : Demand) (desk : Desk σ) (key : ResourceKey) (n : Nat) :
    (g.accept demand desk : Stretch σ φ).Takes key n ⟨desk.guards.get? key, n⟩ := by
  cases demand with
  | dispatch request =>
    cases h : g.enter request desk.fleet with
    | error result =>
      simp only [accept, h]
      exact Stretch.takes_of_quiet rfl rfl nofun
    | ok machine =>
      simp only [accept, h]
      exact Stretch.takes_of_quiet rfl rfl nofun
  | create request =>
    by_cases h : Fleet.supports desk.fleet request.backend request.operation.name = true
    · simp only [accept, create, h, if_true]
      exact Stretch.takes_of_quiet rfl rfl nofun
    · simp only [accept, create, h]
      exact Stretch.takes_of_quiet rfl rfl nofun
  | converge key' payload => exact g.converge_takes key' payload desk key n
  | currentState key' | availableActions key' =>
    cases h : desk.guards.overlay key' with
    | some state =>
      simp only [accept, h]
      exact Stretch.takes_of_quiet rfl rfl nofun
    | none =>
      simp only [accept, h]
      exact Stretch.takes_of_quiet rfl rfl nofun
  | clearFailure key' => exact g.clearFailure_takes key' desk key n

/-- A request for a new resource turns into its convergence, in the place where it waited. -/
theorem creating_takes (g : Gateway) (request : CreateRequest) (flight : Option φ) (desk : Desk σ)
    (key : ResourceKey) (n : Nat) :
    (g.resume (.creating request flight) desk).Takes key n ⟨desk.guards.get? key, n⟩ := by
  have hg := g.guards_finishCreate request flight desk key
  have hm := g.made_finishCreate request flight desk
  rcases h : g.finishCreate request flight desk with ⟨provisioning, later⟩
  simp only [h] at hg hm
  simp only [resume, h]
  by_cases made : provisioning.made? request = some key
  · rw [if_pos made] at hg
    obtain ⟨c, hc, rfl⟩ := Option.map_eq_some_iff.mp (hm.symm.trans made)
    simpa [Stretch.Takes, Stretch.standing, hg, hc, Job.isOn, Phase.convergence] using
      Standing.Step.provisioned ⟨desk.guards.get? c.key, n⟩ request provisioning made
  · rw [if_neg made] at hg
    refine Stretch.takes_of_quiet hg ?_ made
    rw [hm] at made
    cases hc : provisioning.started with
    | none => rfl
    | some c =>
      have hk : c.key ≠ key := by simpa [hc] using made
      simp [Job.isOn, Phase.convergence, hk]

theorem converging_takes (g : Gateway) (phase : Phase φ) (desk : Desk σ) (key : ResourceKey) (n : Nat) :
    (g.resume (.converging phase) desk).Takes key n
      ⟨desk.guards.get? key, n + [Job.converging phase].countP (Job.isOn key)⟩ := by
  have hl := g.leaves_advance phase desk
  rcases h : g.advance phase desk with ⟨outcome | ⟨rest, time⟩, later⟩
  · rw [h] at hl
    simp only [resume, h]
    by_cases hk : phase.convergence.key = key
    · have hg : later.guards.get? key = outcome.leftover := (hl key).trans (if_pos hk)
      subst hk
      simpa [Stretch.Takes, Stretch.standing, hg, Job.isOn] using
        Standing.Step.ended (desk.guards.get? phase.convergence.key) n outcome
    · have hg : later.guards.get? key = desk.guards.get? key := (hl key).trans (if_neg hk)
      refine Stretch.takes_of_quiet hg ?_ ?_
      · simp [Job.isOn, hk]
      · simpa [Event.subject?] using hk
  · rw [h] at hl
    obtain ⟨same, untouched⟩ := hl
    simp only [resume, h]
    refine Stretch.takes_of_quiet (congrArg (·.get? key) untouched) ?_ nofun
    simp [Job.isOn, same]

theorem resume_takes (g : Gateway) (job : Job φ) (desk : Desk σ) (key : ResourceKey) (n : Nat) :
    (g.resume job desk).Takes key n ⟨desk.guards.get? key, n + [job].countP (Job.isOn key)⟩ := by
  cases job with
  | looking request machine =>
    have hg := g.guards_judge request machine desk
    rcases h : g.judge request machine desk with ⟨result | ⟨flight, time⟩, later⟩
    · simp only [h] at hg
      simp only [resume, h]
      exact Stretch.takes_of_quiet (congrArg (·.get? key) hg) rfl nofun
    · simp only [h] at hg
      simp only [resume, h]
      exact Stretch.takes_of_quiet (congrArg (·.get? key) hg) rfl nofun
  | acting request flight =>
    exact Stretch.takes_of_quiet (congrArg (·.get? key) (g.guards_finishAction request flight desk)) rfl nofun
  | creating request flight => exact g.creating_takes request flight desk key n
  | converging phase => exact g.converging_takes phase desk key n
  | asking key' => exact Stretch.takes_of_quiet rfl rfl nofun
  | listing key' => exact Stretch.takes_of_quiet rfl rfl nofun

end Gateway

/-! ## One move -/

namespace Traffic

theorem jobs_eq {t : Traffic σ φ} {place : Nat} {job : Job φ} (h : t.jobs[place]? = some job) :
    t.jobs = t.jobs.take place ++ ([job] ++ t.jobs.drop (place + 1)) := by
  obtain ⟨hp, rfl⟩ := List.getElem?_eq_some_iff.mp h
  rw [List.singleton_append, List.getElem_cons_drop, List.take_append_drop]

/-- The convergences of a resource after one job has made way for what is left of it. -/
theorem inFlight_replace (jobs next : List (Job φ)) (place : Nat) (key : ResourceKey) :
    (jobs.take place ++ (next ++ jobs.drop (place + 1))).countP (Job.isOn key) =
      (jobs.eraseIdx place).countP (Job.isOn key) + next.countP (Job.isOn key) := by
  rw [List.eraseIdx_eq_take_drop_succ]
  simp only [List.countP_append]
  omega

/-- The convergences of a resource, those of one job apart from the others. -/
theorem inFlight_eq {t : Traffic σ φ} {place : Nat} {job : Job φ} (h : t.jobs[place]? = some job)
    (key : ResourceKey) :
    t.inFlight key =
      (t.jobs.eraseIdx place).countP (Job.isOn key) + [job].countP (Job.isOn key) := by
  have hc : t.inFlight key = _ := congrArg (List.countP (Job.isOn key)) (jobs_eq h)
  rw [hc, inFlight_replace]

variable [Fleet σ φ]

/-- Every move changes the standing of every resource in one of the five ways, and its event tells which. -/
theorem step_standing (g : Gateway) (move : Move σ) (t : Traffic σ φ) (key : ResourceKey) :
    Standing.Step key (t.standing key) (step g move t).1 ((step g move t).2.standing key) := by
  cases move with
  | demand demand =>
    have h : (g.accept demand t.desk : Stretch σ φ).Takes key (t.inFlight key) (t.standing key) :=
      g.accept_takes demand t.desk key (t.inFlight key)
    simpa [Stretch.Takes, Stretch.standing, step, standing, inFlight] using h
  | resume place =>
    rcases hj : t.jobs[place]? with _ | job
    · simp only [step, hj]
      exact .quiet _ _ nofun
    · have h := g.resume_takes job t.desk key ((t.jobs.eraseIdx place).countP (Job.isOn key))
      rw [← inFlight_eq hj key] at h
      simp only [step, hj, standing, inFlight, inFlight_replace]
      exact h
  | abandon place =>
    rcases hj : t.jobs[place]? with _ | job
    · simp only [step, hj]
      exact .quiet _ _ nofun
    · have hc := inFlight_eq hj key
      cases job with
      | converging phase =>
        simp only [step, hj]
        exact .quiet _ _ nofun
      | looking _ _ | acting _ _ | creating _ _ | asking _ | listing _ =>
        have hs : ((step g (.abandon place) t).2).standing key = t.standing key := by
          simp only [step, hj, standing, hc]
          rfl
        rw [hs]
        simp only [step, hj]
        exact .quiet _ _ nofun
  | drift fleet => exact .quiet _ _ nofun

end Traffic

/-! ## A whole run -/

namespace Standing

/-- What the events of a run do to the standing of a resource, one after the other. -/
inductive Run (key : ResourceKey) : Standing → List Event → Standing → Prop where
  | nil (s : Standing) : Run key s [] s
  | cons {s s' s'' : Standing} {event : Event} {events : List Event} (step : Step key s (some event) s')
      (rest : Run key s' events s'') : Run key s (event :: events) s''

end Standing

/-- The events of a run account for the standing of every resource at its end. -/
theorem Traffic.run_standing [Fleet σ φ] (g : Gateway) (moves : List (Move σ)) (t : Traffic σ φ)
    (key : ResourceKey) :
    Standing.Run key (t.standing key) (run g moves t).1 ((run g moves t).2.standing key) := by
  induction moves generalizing t with
  | nil => exact .nil _
  | cons move moves ih =>
    have hs := step_standing g move t key
    have hr := ih (step g move t).2
    rw [run]
    cases he : (step g move t).1 with
    | none =>
      rw [he] at hs
      rw [hs.silent] at hr
      exact hr
    | some event =>
      rw [he] at hs
      exact .cons hs hr

end CloudLifecycle
