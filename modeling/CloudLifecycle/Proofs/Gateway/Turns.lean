import CloudLifecycle.Proofs.Backend.Corners
import CloudLifecycle.Proofs.Gateway.Lockstep
import CloudLifecycle.Proofs.Gateway.Parks
import Mathlib.Data.List.Basic

/-!
# Turns

Work for many resources before one park of simulated backends, cut into turns. With a turn, something is done about one
resource: a demand about it is taken up, a job about it goes on, or its status is read off its backend. Besides, failures
are planned, which concern an operation of a backend and so the resources of that kind all together.

1. Turns keep the park what it is (`Sound.act`, `Sound.alike_act`).
2. A turn about one resource leaves all others as they are: their guards, their corners of the park and the jobs about
   them (`agreeOn_act`).
3. A turn about a resource goes by these three alone, and by the failure that a call meets which lands with it
   (`AgreeOn.act`).
4. What becomes of a planned failure is what the turns do that touch it: it is planned anew, or met by a call
   (`failure?_act`).
-/

namespace CloudLifecycle

/-- Whether a job is about the resource. -/
def Job.isAbout {φ : Type} (key : ResourceKey) (job : Job φ) : Bool := job.key? = some key

/-- The jobs about a resource, in their order. -/
def Traffic.about {σ φ : Type} (t : Traffic σ φ) (key : ResourceKey) : List (Job φ) := t.jobs.filter (Job.isAbout key)

/-- A turn at the desk. -/
inductive Turn where
  /-- Someone comes with a demand about the resource. -/
  | demand (key : ResourceKey) (demand : Demand) (about : demand.key? = some key)
  /-- A job about the resource goes on, the one at a place among all about it. -/
  | resume (key : ResourceKey) (place : Nat)
  /-- The status of the resource is read off its backend. -/
  | inspect (key : ResourceKey)
  /-- A failure is planned for the next call of an operation to a backend. -/
  | plan (backend operation : String) (e : BackendError)

/-- What a turn lets others see. -/
inductive Shown where
  | event (event : Event)
  | status (raw : Option String)

/-- What touches a planned failure: another one takes its place, or a call about a resource lands. -/
inductive Touch where
  | planned (e : BackendError)
  | called (key : ResourceKey)
  deriving DecidableEq

namespace Turn

/-- The resource that a turn is about. -/
def key? : Turn → Option ResourceKey
  | demand key _ _ | resume key _ | inspect key => some key
  | plan _ _ _ => none

/-- Whether a turn is about the resource. -/
def isAbout (key : ResourceKey) (turn : Turn) : Bool := turn.key? = some key

/-- How a turn touches the failure that a backend has planned for an operation, if it does. -/
def touch? (backend operation : String) (t : Traffic Park Flight) : Turn → Option Touch
  | plan id name e => if id = backend ∧ name = operation then some (.planned e) else none
  | resume key place =>
    ((t.about key)[place]?.bind Job.flight?).bind fun flight =>
      if flight.call.backend = backend ∧ flight.call.operation.name = operation then some (.called key) else none
  | demand _ _ _ | inspect _ => none

end Turn

/-- What a touch leaves of a planned failure, if there is such a backend. -/
def Touch.leaves (there : Bool) (cell : Option BackendError) : Touch → Option BackendError
  | planned e => if there then some e else cell
  | called _ => none

namespace Traffic

/-- A turn, and what it lets others see. -/
def act (g : Gateway) (turn : Turn) (t : Traffic Park Flight) : Option Shown × Traffic Park Flight :=
  match turn with
  | .demand _ demand _ =>
    let after := step g (.demand demand) t
    (after.1.map .event, after.2)
  | .resume key place =>
    let after := step g (.resume (t.jobs.findIdxNth (Job.isAbout key) place)) t
    (after.1.map .event, after.2)
  | .inspect key => (some (.status (t.desk.fleet.rawStatus? key)), t)
  | .plan backend operation e => (none, (step g (.drift (t.desk.fleet.plan backend operation e)) t).2)

/-- Traffic before a park of simulated backends, where what is on its way for a job is its call. -/
structure Sound (t : Traffic Park Flight) : Prop where
  simulated : t.desk.fleet.Simulated
  its_own : ∀ job ∈ t.jobs, ∀ flight, job.flight? = some flight → job.call? = some flight.call

/-- Two desks and the work at them are the same as far as one resource goes. -/
structure AgreeOn (key : ResourceKey) (t t' : Traffic Park Flight) : Prop where
  guard : t.desk.guards.get? key = t'.desk.guards.get? key
  corner : t.desk.fleet.corner key = t'.desk.fleet.corner key
  jobs : t.about key = t'.about key

theorem AgreeOn.refl (key : ResourceKey) (t : Traffic Park Flight) : AgreeOn key t t := ⟨rfl, rfl, rfl⟩

theorem AgreeOn.symm {key : ResourceKey} {t t' : Traffic Park Flight} (h : AgreeOn key t t') : AgreeOn key t' t :=
  ⟨h.guard.symm, h.corner.symm, h.jobs.symm⟩

theorem AgreeOn.trans {key : ResourceKey} {t t' t'' : Traffic Park Flight} (h : AgreeOn key t t')
    (h' : AgreeOn key t' t'') : AgreeOn key t t'' :=
  ⟨h.guard.trans h'.guard, h.corner.trans h'.corner, h.jobs.trans h'.jobs⟩

/-! ## Jobs in their places -/

/-- The elements with a property around the one at a place among them. -/
theorem filter_at_findIdxNth {α : Type} (p : α → Bool) (xs : List α) (n : Nat) :
    xs[xs.findIdxNth p n]? = (xs.filter p)[n]? ∧
      (xs.take (xs.findIdxNth p n)).filter p = (xs.filter p).take n ∧
      (xs.drop (xs.findIdxNth p n + 1)).filter p = (xs.filter p).drop (n + 1) := by
  induction xs generalizing n with
  | nil => simp
  | cons x xs ih =>
    by_cases hx : p x = true
    · cases n with
      | zero => simp [hx]
      | succ n => simpa [List.findIdxNth_cons, hx] using ih n
    · cases n with
      | zero => simpa [List.findIdxNth_cons, hx] using ih 0
      | succ n => simpa [List.findIdxNth_cons, hx] using ih (n + 1)

section

variable {g : Gateway} {t : Traffic Park Flight} {key : ResourceKey} {place : Nat} {job : Job Flight}

theorem mem_of_about (h : (t.about key)[place]? = some job) : job ∈ t.jobs ∧ job.key? = some key := by
  obtain ⟨mem, about⟩ := List.mem_filter.mp (List.mem_of_getElem? h)
  exact ⟨mem, of_decide_eq_true about⟩

/-- A job that goes on is replaced by what is left of it. -/
theorem act_resume (h : (t.about key)[place]? = some job) :
    act g (.resume key place) t = ((g.resume job t.desk).event.map .event, ⟨(g.resume job t.desk).desk,
      t.jobs.take (t.jobs.findIdxNth (Job.isAbout key) place) ++ ((g.resume job t.desk).next.toList ++
        t.jobs.drop (t.jobs.findIdxNth (Job.isAbout key) place + 1))⟩) := by
  have there : t.jobs[t.jobs.findIdxNth (Job.isAbout key) place]? = some job :=
    (filter_at_findIdxNth _ _ _).1.trans h
  simp only [act, step, there]

theorem act_resume_of_absent (h : (t.about key)[place]? = none) : act g (.resume key place) t = (none, t) := by
  have absent : t.jobs[t.jobs.findIdxNth (Job.isAbout key) place]? = none := (filter_at_findIdxNth _ _ _).1.trans h
  simp only [act, step, absent]
  rfl

theorem fleet_act_demand {demand : Demand} (about : demand.key? = some key) :
    (act g (.demand key demand about) t).2.desk.fleet = t.desk.fleet :=
  Gateway.fleet_accept_of_key about

/-- What is left of jobs about a resource is about it, and about no other. -/
theorem filter_next {next : Option (Job Flight)} (about : ∀ job, next = some job → job.key? = some key)
    (other : ResourceKey) : next.toList.filter (Job.isAbout other) = if key = other then next.toList else [] := by
  cases next with
  | none => simp
  | some job =>
    have same : job.isAbout other = decide (key = other) := by
      rw [Job.isAbout, about job rfl]
      simp
    simp only [Option.toList_some, List.filter_cons, same, List.filter_nil, decide_eq_true_eq]

end

/-! ## What becomes of the park -/

section

variable {g : Gateway} {turn : Turn} {t : Traffic Park Flight}

/-- What looks at its resource keep, and what holds once the call on its way has landed, holds of a park of simulated
backends when the job has gone on. -/
theorem park_resume {desk : Desk Park} (h : desk.fleet.Simulated) {job : Job Flight} {P : Park → Prop}
    (finds : ∀ p key, p.Simulated → job.key? = some key → P p → P (p.find key).2)
    (lands : ∀ flight, job.flight? = some flight → P (desk.fleet.land flight).2)
    (still : job.flight? = none → P desk.fleet) : P (g.resume job desk).desk.fleet := by
  have both : (g.resume job desk).desk.fleet.Simulated ∧ P (g.resume job desk).desk.fleet := by
    refine Gateway.fleet_resume (P := fun p => p.Simulated ∧ P p) ?_ ?_ ?_ fun none => ⟨h, still none⟩
    · rintro p key about ⟨simulated, holds⟩
      exact ⟨(simulated.alike_find key).simulated, finds p key simulated about holds⟩
    · rintro p call ⟨simulated, holds⟩
      rw [show (Fleet.launch p call).2 = p from simulated.launch call]
      exact ⟨simulated, holds⟩
    · intro flight on_its_way
      exact ⟨(h.alike_land flight).simulated, lands flight on_its_way⟩
  exact both.2

namespace Sound

/-- Whatever move comes, as long as the backends stay simulated. -/
theorem step (h : t.Sound) {move : Move Park} (drifts : ∀ fleet, move = .drift fleet → fleet.Simulated) :
    (Traffic.step g move t).2.Sound where
  its_own := own_step Park.call_launch h.its_own
  simulated := by
    cases drift : move.isDrift with
    | false =>
      refine fleet_step (P := Park.Simulated) drift ?_ ?_ ?_ h.simulated
      · intro p key simulated
        exact (simulated.alike_find key).simulated
      · intro p call simulated
        rw [show (Fleet.launch p call).2 = p from simulated.launch call]
        exact simulated
      · intro job _ _ flight _
        exact (h.simulated.alike_land flight).simulated
    | true =>
      cases move with
      | drift fleet => exact drifts fleet rfl
      | demand | resume | abandon => cases drift

/-- A turn leaves the park what it is, up to its resources. -/
theorem alike_act (h : t.Sound) (g : Gateway) (turn : Turn) :
    t.desk.fleet.Alike (act g turn t).2.desk.fleet := by
  cases turn with
  | demand key demand about =>
    rw [fleet_act_demand about]
    exact h.simulated.alike
  | resume key place =>
    rcases there : (t.about key)[place]? with _ | job
    · rw [act_resume_of_absent there]
      exact h.simulated.alike
    · rw [act_resume there]
      refine park_resume (P := fun p => t.desk.fleet.Alike p) h.simulated ?_ ?_ fun _ => h.simulated.alike
      · intro p key simulated _ alike
        exact alike.trans (simulated.alike_find key)
      · intro flight _
        exact h.simulated.alike_land flight
  | inspect key => exact h.simulated.alike
  | plan backend operation e => exact h.simulated.alike_plan

theorem act (h : t.Sound) (g : Gateway) (turn : Turn) : (Traffic.act g turn t).2.Sound where
  simulated := (h.alike_act g turn).simulated
  its_own := by
    cases turn with
    | demand | resume | plan => exact own_step Park.call_launch h.its_own
    | inspect => exact h.its_own

/-- What is on its way for a job about a resource is a call about that resource. -/
theorem key_flight (h : t.Sound) {key : ResourceKey} {place : Nat} {job : Job Flight}
    (there : (t.about key)[place]? = some job) {flight : Flight} (on_its_way : job.flight? = some flight) :
    flight.call.key? = some key := by
  obtain ⟨mem, about⟩ := mem_of_about there
  exact job.key_call about (h.its_own job mem flight on_its_way)

/-- No turn uses an id up. -/
theorem ids_act (h : t.Sound) (g : Gateway) (turn : Turn) :
    (Traffic.act g turn t).2.desk.fleet.ids = t.desk.fleet.ids := by
  cases turn with
  | demand key demand about =>
    rw [fleet_act_demand about]
  | resume key place =>
    rcases there : (t.about key)[place]? with _ | job
    · rw [act_resume_of_absent there]
    · rw [act_resume there]
      refine park_resume (P := fun p => p.ids = t.desk.fleet.ids) h.simulated ?_ ?_ fun _ => rfl
      · intro p key simulated _ same
        exact (Park.ids_find simulated key).trans same
      · intro flight on_its_way
        exact Park.ids_land h.simulated (h.key_flight there on_its_way)
  | inspect key => rfl
  | plan backend operation e => exact Park.ids_plan h.simulated

end Sound

/-! ## What turns leave alone -/

/-- A turn about one resource leaves all others as they are, and so does one about none. -/
theorem agreeOn_act (h : t.Sound) (g : Gateway) {other : ResourceKey} (ne : turn.key? ≠ some other) :
    AgreeOn other (act g turn t).2 t := by
  cases turn with
  | demand key demand about =>
    have apart : key ≠ other := fun same => ne (congrArg some same)
    refine ⟨Gateway.guard_accept about apart, ?_, ?_⟩
    · rw [fleet_act_demand about]
    · have left := filter_next (fun _ next => Gateway.key_accept (g := g) (d := t.desk) about next) other
      show (t.jobs ++ (g.accept demand t.desk).next.toList).filter (Job.isAbout other) = t.about other
      rw [List.filter_append, left, if_neg apart, List.append_nil]
      rfl
  | resume key place =>
    have apart : key ≠ other := fun same => ne (congrArg some same)
    rcases there : (t.about key)[place]? with _ | job
    · rw [act_resume_of_absent there]
      exact .refl other t
    · obtain ⟨mem, about⟩ := mem_of_about there
      rw [act_resume there]
      refine ⟨Gateway.guard_resume about apart, ?_, ?_⟩
      · refine park_resume (P := fun p => p.corner other = t.desk.fleet.corner other) h.simulated ?_ ?_ fun _ => rfl
        · intro p looked simulated about' same
          obtain rfl : key = looked := Option.some.inj (about.symm.trans about')
          exact (Park.corner_find simulated apart.symm).trans same
        · intro flight on_its_way
          exact Park.corner_land h.simulated (h.key_flight there on_its_way) apart.symm
      · have left := filter_next (fun _ next => Gateway.key_resume (g := g) (d := t.desk) about next) other
        have gone := jobs_eq ((filter_at_findIdxNth (Job.isAbout key) t.jobs place).1.trans there)
        have other_job : job.isAbout other = false := by
          rw [Job.isAbout, about]
          simpa using apart
        have before := congrArg (List.filter (Job.isAbout other)) gone
        rw [List.filter_append, List.filter_append, List.filter_singleton, other_job] at before
        unfold Traffic.about
        rw [List.filter_append, List.filter_append, left, if_neg apart, before]
        rfl
  | inspect key => exact .refl other t
  | plan backend operation e => exact ⟨rfl, Park.corner_plan h.simulated other, rfl⟩

/-! ## What turns go by -/

/-- Two parks of simulated backends with the same corner for a resource are the same for work about it, but for the
failures that its calls meet. -/
theorem blind_corner (key : ResourceKey) :
    Blind key fun p p' : Park => p.Simulated ∧ p'.Simulated ∧ p.corner key = p'.corner key where
  declared := fun ⟨h, h', same⟩ => Park.capabilities_corner h h' same
  finds := fun ⟨h, h', same⟩ => by
    obtain ⟨answer, after⟩ := Park.find_corner h h' same
    exact ⟨answer, (h.alike_find key).simulated, (h'.alike_find key).simulated, after⟩
  launches := by
    rintro p p' ⟨h, h', same⟩ call about
    obtain ⟨id, named, rfl⟩ := Option.map_eq_some_iff.mp about
    refine ⟨Park.launch_corner h h' same rfl, ?_⟩
    rw [show (Fleet.launch p call).2 = p from h.launch call, show (Fleet.launch p' call).2 = p' from h'.launch call]
    exact ⟨h, h', same⟩

end

section

variable {g : Gateway} {turn : Turn} {t t' : Traffic Park Flight} {key : ResourceKey}

/-- A turn about a resource shows the same and leaves the same where everything about the resource is the same, and the
failure that a call of it meets. -/
theorem AgreeOn.act (agree : AgreeOn key t t') (sound : t.Sound) (sound' : t'.Sound) (g : Gateway)
    (about : turn.key? = some key)
    (meets : ∀ operation, turn.touch? key.backend operation t = some (.called key) →
      t.desk.fleet.failure? key.backend operation = t'.desk.fleet.failure? key.backend operation) :
    (Traffic.act g turn t).1 = (Traffic.act g turn t').1 ∧
      AgreeOn key (Traffic.act g turn t).2 (Traffic.act g turn t').2 := by
  have desks : t.desk.Agree key (fun p p' => p.Simulated ∧ p'.Simulated ∧ p.corner key = p'.corner key) t'.desk :=
    ⟨agree.guard, sound.simulated, sound'.simulated, agree.corner⟩
  cases turn with
  | demand own demand its_own =>
    obtain rfl : own = key := Option.some.inj about
    have after := Gateway.accept_lockstep (g := g) (blind_corner own) desks its_own
    refine ⟨congrArg (Option.map Shown.event) after.event, after.desk.guard, after.desk.fleet.2.2, ?_⟩
    show (t.jobs ++ (g.accept demand t.desk).next.toList).filter (Job.isAbout own) =
      (t'.jobs ++ (g.accept demand t'.desk).next.toList).filter (Job.isAbout own)
    rw [List.filter_append, List.filter_append, after.next]
    exact congrArg (· ++ _) agree.jobs
  | resume own place =>
    obtain rfl : own = key := Option.some.inj about
    rcases there : (t.about own)[place]? with _ | job
    · have there' : (t'.about own)[place]? = none := agree.jobs ▸ there
      rw [act_resume_of_absent there, act_resume_of_absent there']
      exact ⟨rfl, agree⟩
    · have there' : (t'.about own)[place]? = some job := agree.jobs ▸ there
      have lands (flight : Flight) (on_its_way : job.flight? = some flight) :
          LandsAlike (fun p p' : Park => p.Simulated ∧ p'.Simulated ∧ p.corner own = p'.corner own) t.desk.fleet
            t'.desk.fleet flight := by
        have named := sound.key_flight there on_its_way
        have touched : (Turn.resume own place).touch? own.backend flight.call.operation.name t = some (.called own) := by
          obtain ⟨id, _, rfl⟩ := Option.map_eq_some_iff.mp named
          simp only [Turn.touch?, there, Option.bind_some, on_its_way, and_self, if_true]
        obtain ⟨answer, after⟩ :=
          Park.land_corner sound.simulated sound'.simulated agree.corner named (meets _ touched)
        exact ⟨answer, (sound.simulated.alike_land flight).simulated, (sound'.simulated.alike_land flight).simulated,
          after⟩
      have after := Gateway.resume_lockstep (g := g) (blind_corner own) desks (mem_of_about there).2 lands
      rw [act_resume there, act_resume there']
      refine ⟨congrArg (Option.map Shown.event) after.event, after.desk.guard, after.desk.fleet.2.2, ?_⟩
      obtain ⟨_, before, behind⟩ := filter_at_findIdxNth (Job.isAbout own) t.jobs place
      obtain ⟨_, before', behind'⟩ := filter_at_findIdxNth (Job.isAbout own) t'.jobs place
      have jobs : t.jobs.filter (Job.isAbout own) = t'.jobs.filter (Job.isAbout own) := agree.jobs
      unfold Traffic.about
      simp only [List.filter_append, before, behind, before', behind', after.next, jobs]
  | inspect own =>
    obtain rfl : own = key := Option.some.inj about
    refine ⟨?_, agree⟩
    show some (Shown.status (t.desk.fleet.rawStatus? own)) = some (Shown.status (t'.desk.fleet.rawStatus? own))
    rw [Park.rawStatus?_corner sound.simulated sound'.simulated agree.corner]
  | plan backend operation e => cases about

/-- How a turn touches a planned failure is read off the jobs about its resource. -/
theorem AgreeOn.touch? (agree : AgreeOn key t t') (about : turn.key? = some key) (backend operation : String) :
    turn.touch? backend operation t = turn.touch? backend operation t' := by
  cases turn with
  | demand | inspect => rfl
  | resume own place =>
    obtain rfl : own = key := Option.some.inj about
    simp only [Turn.touch?, agree.jobs]
  | plan backend operation e => cases about

/-! ## Planned failures -/

/-- What a turn makes of a planned failure is what it does that touches it. -/
theorem failure?_act (h : t.Sound) (g : Gateway) (turn : Turn) (backend operation : String) :
    (act g turn t).2.desk.fleet.failure? backend operation =
      ((turn.touch? backend operation t).map
        (Touch.leaves (t.desk.fleet.profile? backend).isSome (t.desk.fleet.failure? backend operation))).getD
        (t.desk.fleet.failure? backend operation) := by
  cases turn with
  | demand key demand about =>
    rw [fleet_act_demand about]
    rfl
  | resume key place =>
    rcases there : (t.about key)[place]? with _ | job
    · rw [act_resume_of_absent there]
      simp only [Turn.touch?, there, Option.bind_none, Option.map_none, Option.getD_none]
    · rw [act_resume there]
      refine park_resume (P := fun p => p.failure? backend operation = _) h.simulated ?_ ?_ ?_
      · intro p looked simulated _ same
        rw [Park.failure?_find simulated]
        exact same
      · intro flight on_its_way
        have named := h.key_flight there on_its_way
        rw [Park.failure?_land h.simulated named]
        obtain ⟨id, _, rfl⟩ := Option.map_eq_some_iff.mp named
        simp only [Turn.touch?, there, Option.bind_some, on_its_way]
        split <;> rfl
      · intro none
        simp only [Turn.touch?, there, Option.bind_some, none, Option.bind_none, Option.map_none, Option.getD_none]
  | inspect key => rfl
  | plan id name e =>
    show (t.desk.fleet.plan id name e).failure? backend operation = _
    rw [Park.failure?_plan h.simulated]
    by_cases own : id = backend ∧ name = operation
    · obtain ⟨rfl, rfl⟩ := own
      simp only [Turn.touch?, true_and, and_self, if_true, Option.map_some, Option.getD_some, Touch.leaves]
    · rw [if_neg fun both => own ⟨both.1, both.2.1⟩]
      simp only [Turn.touch?, if_neg own, Option.map_none, Option.getD_none]

end

end Traffic

end CloudLifecycle
