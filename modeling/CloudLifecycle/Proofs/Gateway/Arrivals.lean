import CloudLifecycle.Proofs.Backend.Mounted
import CloudLifecycle.Proofs.Backend.Placed
import CloudLifecycle.Proofs.Gateway.Interleavings
import CloudLifecycle.Proofs.Gateway.Lives
import Mathlib.Data.Nat.Find

/-!
# New resources of a profile

How a new resource comes up before a simulated backend follows from the profile of the backend. The resource is made under
some status and moves on with each look at it, whatever cycles that may lead through (`Profile.statusAt`), and its
convergence ends with the first look at which the status means a state that is terminal or settled for the kind, or when
the attempts are used up (`Profile.Course`).

The convergence is the only one to look. Questions for the state of the resource, and for the actions that it allows, are
answered from its guard, and turns about other resources leave it alone: as long as it is on its way, the resource has
moved on once for each of its turns (`Arriving`, `Stage`).
-/

namespace CloudLifecycle

/-! ## What a profile says -/

namespace Profile

/-- The status of a new resource of a kind after some looks at it. -/
def statusAt (profile : Profile) (kind : ResourceKind) : Nat → String
  | 0 => profile.createdStatus kind
  | n + 1 => profile.following (profile.statusAt kind n)

/-- What that status means. -/
def stateAt (profile : Profile) (kind : ResourceKind) (n : Nat) : LifecycleState :=
  profile.statusTable.resolve (profile.statusAt kind n)

/-- The state that the last look has shown, after some looks at a new resource. -/
def seenAt (profile : Profile) (kind : ResourceKind) : Nat → Option LifecycleState
  | 0 => none
  | n + 1 => some (profile.stateAt kind n)

/-- A look at a new resource shows it in a state that is neither terminal nor settled. -/
def Undecided (profile : Profile) (machine : Option Machine) (kind : ResourceKind) (n : Nat) : Prop :=
  ¬ Terminal machine (profile.stateAt kind n) ∧ ¬ Settled machine (profile.stateAt kind n)

/-- How a new resource comes up, by its profile: the number of looks at it, whether a call finishes it then, the outcome,
and the status that it is left under. -/
inductive Course (profile : Profile) (machine : Option Machine) (kind : ResourceKind) (attempts : Nat) :
    Nat → Bool → Outcome → String → Prop where
  | removed (n : Nat) (more : n < attempts) (before : ∀ k < n, profile.Undecided machine kind k)
      (terminal : Terminal machine (profile.stateAt kind n)) :
      Course profile machine kind attempts (n + 1) false (.removed (some (profile.stateAt kind n)))
        (profile.statusAt kind (n + 1))
  | cameUp (n : Nat) (more : n < attempts) (before : ∀ k < n, profile.Undecided machine kind k)
      (moves : ¬ Terminal machine (profile.stateAt kind n)) (settled : Settled machine (profile.stateAt kind n))
      (undeclared : profile.capabilities.contains (Operation.postCreate kind).name = false) :
      Course profile machine kind attempts (n + 1) false (.converged (profile.stateAt kind n))
        (profile.statusAt kind (n + 1))
  | finished (n : Nat) (more : n < attempts) (before : ∀ k < n, profile.Undecided machine kind k)
      (moves : ¬ Terminal machine (profile.stateAt kind n)) (settled : Settled machine (profile.stateAt kind n))
      (declared : profile.capabilities.contains (Operation.postCreate kind).name = true) :
      Course profile machine kind attempts (n + 1) true (.converged (profile.stateAt kind n))
        ((profile.reportedStatus? (Operation.postCreate kind).action).getD (profile.statusAt kind (n + 1)))
  | exhausted (n : Nat) (last : n + 1 = attempts) (before : ∀ k < attempts, profile.Undecided machine kind k) :
      Course profile machine kind attempts attempts false (.exhausted attempts (some (profile.stateAt kind n)))
        (profile.statusAt kind attempts)

section

variable {profile : Profile} {machine : Option Machine} {kind : ResourceKind} {attempts : Nat}

theorem exists_course (profile : Profile) (machine : Option Machine) (kind : ResourceKind) (pos : 0 < attempts) :
    ∃ looks finishes outcome left, profile.Course machine kind attempts looks finishes outcome left := by
  classical
  by_cases h : ∃ n, n < attempts ∧ ¬ profile.Undecided machine kind n
  · obtain ⟨more, decides⟩ := Nat.find_spec h
    have before : ∀ k < Nat.find h, profile.Undecided machine kind k := fun k hk =>
      not_not.mp fun decides' => Nat.find_min h hk ⟨Nat.lt_trans hk more, decides'⟩
    generalize Nat.find h = n at more decides before
    by_cases terminal : Terminal machine (profile.stateAt kind n)
    · exact ⟨_, _, _, _, .removed n more before terminal⟩
    · have settled : Settled machine (profile.stateAt kind n) := not_not.mp fun restless => decides ⟨terminal, restless⟩
      cases declared : profile.capabilities.contains (Operation.postCreate kind).name with
      | false => exact ⟨_, _, _, _, .cameUp n more before terminal settled declared⟩
      | true => exact ⟨_, _, _, _, .finished n more before terminal settled declared⟩
  · have before : ∀ k < attempts, profile.Undecided machine kind k := fun k hk =>
      not_not.mp fun decides => h ⟨k, hk, decides⟩
    obtain ⟨n, rfl⟩ := Nat.exists_eq_add_one.mpr pos
    exact ⟨_, _, _, _, .exhausted n rfl before⟩

variable {looks : Nat} {finishes : Bool} {outcome : Outcome} {left : String}

theorem Course.looks_pos (h : profile.Course machine kind attempts looks finishes outcome left) (pos : 0 < attempts) :
    0 < looks := by
  cases h with
  | removed | cameUp | finished => exact Nat.succ_pos _
  | exhausted => exact pos

/-- No look decides but the last. -/
theorem Course.undecided (h : profile.Course machine kind attempts looks finishes outcome left) {n : Nat}
    (more : n + 1 < looks) : n + 1 < attempts ∧ profile.Undecided machine kind n := by
  cases h with
  | exhausted k last before => exact ⟨more, before n (Nat.lt_of_succ_lt more)⟩
  | removed k lt before | cameUp k lt before | finished k lt before =>
    have earlier : n < k := Nat.lt_of_succ_lt_succ more
    exact ⟨Nat.lt_of_le_of_lt earlier lt, before n earlier⟩

end

end Profile

/-! ## Turns while a resource comes up -/

theorem Job.key_of_sought {φ : Type} (job : Job φ) {key : ResourceKey} (h : job.sought? = some key) :
    job.key? = some key := by
  cases job with
  | converging phase =>
    cases phase with
    | polling c => exact h
    | finishing c s flight => cases h
  | looking | asking | listing => exact h
  | acting | creating => cases h

namespace Turn

/-- A turn that asks for nothing about the resource but its state and the actions that it allows, and plans no failure for
the call that finishes it. Its convergence may go on with the turn, and anything may happen to other resources. -/
def Respects (key : ResourceKey) : Turn → Prop
  | demand own asked _ => own = key → asked = .currentState key ∨ asked = .availableActions key
  | plan backend operation _ => ¬ (backend = key.backend ∧ operation = (Operation.postCreate key.kind).name)
  | resume _ _ | inspect _ => True

/-- Whether the turn goes to the first job about the resource. -/
def takesUp (key : ResourceKey) : Turn → Bool
  | resume own place => own = key ∧ place = 0
  | demand _ _ _ | inspect _ | plan _ _ _ => false

theorem eq_of_takesUp {key : ResourceKey} {turn : Turn} (h : turn.takesUp key = true) : turn = .resume key 0 := by
  cases turn with
  | resume own place =>
    obtain ⟨rfl, rfl⟩ := of_decide_eq_true h
    rfl
  | demand | inspect | plan => cases h

/-- What the turn finds the resource under, if it looks it up. -/
def sight? (key : ResourceKey) (turn : Turn) (t : Traffic Park Flight) : Option (BackendResult (Option String)) :=
  match turn with
  | resume own place =>
    if (t.about own)[place]?.bind Job.sought? = some key then
      some ((t.desk.fleet.find key).1.map (Option.map Resource.rawStatus))
    else none
  | demand _ _ _ | inspect _ | plan _ _ _ => none

end Turn

/-- A call to a backend that answers in time is waited for until it lands, and sending it off changes nothing. -/
theorem Gateway.call_in_time {g : Gateway} {desk : Desk Park} {b : SimulatedBackend} (call : Call)
    (simulated : desk.fleet.Simulated) (there : desk.fleet.registry.get? call.backend = some (.simulated b))
    (quick : b.latency ≤ g.timeout) :
    ∃ flight, g.call call desk = ((some flight, b.latency), desk) ∧ flight.call = call := by
  have time : (desk.fleet.launch call).1.1 = b.latency := by
    simp only [Park.launch, Park.atBackend, there, Backend.launch, Option.getD_some]
  have still : (desk.fleet.launch call).2 = desk.fleet := simulated.launch call
  refine ⟨(desk.fleet.launch call).1.2, ?_, desk.fleet.call_launch call⟩
  show ((if (desk.fleet.launch call).1.1 ≤ g.timeout then (some (desk.fleet.launch call).1.2, (desk.fleet.launch call).1.1)
    else (none, g.timeout)), { desk with fleet := (desk.fleet.launch call).2 }) = _
  rw [time, if_pos quick, still]

/-- A request to make a resource, to a backend that declares that and answers in time, sends off a call that changes nothing
yet. When it lands, the park keeps the resource under the status that the profile says, and the resource is under guard. -/
theorem Gateway.creates {g : Gateway} {desk : Desk Park} (request : CreateRequest) {b : SimulatedBackend}
    (simulated : desk.fleet.Simulated) (there : desk.fleet.registry.get? request.backend = some (.simulated b))
    (routed : desk.fleet.router.target? request.backend = some request.backend)
    (declared : b.profile.capabilities.contains request.operation.name = true) (quick : b.latency ≤ g.timeout)
    (unmet : ∀ name, desk.fleet.failure? request.backend name = none) :
    let key : ResourceKey := ⟨request.backend, request.kind, desk.fleet.ids.next.1⟩
    ∃ flight made, g.create request desk = (.waiting (some flight) b.latency, desk) ∧
      g.finishCreate request (some flight) desk =
        (⟨.accepted key.id .pending, some (.begin key request.payload)⟩, made) ∧
      made.guards.get? key = some .converging ∧
      made.fleet.Keeps key b.profile b.latency (b.profile.createdStatus request.kind) := by
  intro key
  obtain ⟨flight, sent, call⟩ := call_in_time (createCall request) simulated there quick
  have declares : Fleet.supports desk.fleet request.backend request.operation.name = true := by
    have set : Fleet.capabilities desk.fleet request.backend = some b.profile.capabilities :=
      congrArg (Option.map Backend.capabilities) there
    rw [Fleet.supports, set]
    exact declared
  obtain ⟨answered, ⟨resource, status, placed⟩, planned⟩ := Park.land_create (p := desk.fleet) flight
    (by rw [call]; rfl) (by rw [call]; exact there) (by rw [call]; exact routed) (by rw [call]; exact unmet _)
  rw [call] at answered status placed
  refine ⟨flight, ⟨(desk.guards.begin key).2, (desk.fleet.land flight).2⟩, ?_, ?_, ?_, ?_⟩
  · simp only [create, declares, if_true, sent]
  · have answered : (Fleet.land desk.fleet flight).1 = _ := answered
    simp only [finishCreate, answered]
    rfl
  · rw [Guards.get?_begin, if_pos rfl]
  · exact ⟨(simulated.alike_land flight).simulated, ⟨resource, placed, status⟩, fun name =>
      (planned _ name).trans (unmet name)⟩

namespace Traffic

/-- All that the turns find the resource under, look by look. -/
def sights (g : Gateway) (key : ResourceKey) : List Turn → Traffic Park Flight → List (BackendResult (Option String)) :=
  notes g (Turn.sight? key)

/-- A resource comes up: it is under guard, and what there is to do about it is the phase of its convergence alone. Its
backend has it under a status, and plans no failure for the call that finishes it. -/
structure Arriving (key : ResourceKey) (profile : Profile) (latency : Duration) (phase : Phase Flight) (raw : String)
    (t : Traffic Park Flight) : Prop where
  sound : t.Sound
  guarded : t.desk.guards.get? key = some .converging
  alone : t.about key = [.converging phase]
  placed : ∃ resource, t.desk.fleet.Holds key profile latency resource ∧ resource.rawStatus = raw
  unmet : t.desk.fleet.failure? key.backend (Operation.postCreate key.kind).name = none

/-- A resource has come up, or has failed to: of its convergence only a guard may be left. -/
structure Arrived (key : ResourceKey) (outcome : Outcome) (raw : String) (t : Traffic Park Flight) : Prop where
  guard : t.desk.guards.get? key = outcome.leftover
  alone : t.about key = []
  held : t.desk.fleet.rawStatus? key = some raw

section

variable {g : Gateway} {key : ResourceKey} {profile : Profile} {latency : Duration} {phase : Phase Flight} {raw : String}
  {t : Traffic Park Flight} {turn : Turn}

theorem Arriving.absent (h : Arriving key profile latency phase raw t) {place : Nat}
    (other : (Turn.resume key place).takesUp key = false) : (t.about key)[place]? = none := by
  have later : place ≠ 0 := by simpa [Turn.takesUp] using other
  rw [h.alone, List.getElem?_eq_none_iff]
  exact Nat.one_le_iff_ne_zero.mpr later

/-- Questions about a resource that comes up are answered from its guard. -/
theorem Arriving.act_of_about (h : Arriving key profile latency phase raw t) (g : Gateway)
    (respects : turn.Respects key) (other : turn.takesUp key = false) (about : turn.key? = some key) :
    (Traffic.act g turn t).2 = t := by
  have overlay : t.desk.guards.overlay key = some .pending := Guards.overlay_of_guard h.guarded
  have unchanged {demand : Demand} (still : (g.accept demand t.desk : Stretch Park Flight).desk = t.desk)
      (done : (g.accept demand t.desk : Stretch Park Flight).next = none) : (step g (.demand demand) t).2 = t := by
    simp only [step, still, done, Option.toList_none, List.append_nil]
  cases turn with
  | demand own demand its_own =>
    obtain rfl : own = key := Option.some.inj about
    rcases respects rfl with rfl | rfl
    · exact unchanged (by simp only [Gateway.accept, overlay]) (by simp only [Gateway.accept, overlay])
    · exact unchanged (by simp only [Gateway.accept, overlay]) (by simp only [Gateway.accept, overlay])
  | resume own place =>
    obtain rfl : own = key := Option.some.inj about
    rw [act_resume_of_absent (h.absent other)]
  | inspect own => rfl
  | plan backend operation e => cases about

/-- Turns about other resources leave it alone. -/
theorem Arriving.act (h : Arriving key profile latency phase raw t) (g : Gateway) (respects : turn.Respects key)
    (other : turn.takesUp key = false) : Arriving key profile latency phase raw (Traffic.act g turn t).2 := by
  by_cases about : turn.key? = some key
  · rw [h.act_of_about g respects other about]
    exact h
  · have agree := agreeOn_act h.sound g about
    obtain ⟨resource, placed, status⟩ := h.placed
    have unplanned (e : BackendError) : .plan key.backend (Operation.postCreate key.kind).name e ∉ [turn] := by
      intro mem
      cases List.mem_singleton.mp mem
      exact respects ⟨rfl, rfl⟩
    exact ⟨h.sound.act g turn, agree.guard.trans h.guarded, agree.jobs.trans h.alone,
      ⟨resource, agree.corner.trans placed, status⟩, (Traffic.unmet h.sound g [turn] h.unmet unplanned).1⟩

theorem Arriving.sight?_eq_none (h : Arriving key profile latency phase raw t) (other : turn.takesUp key = false) :
    turn.sight? key t = none := by
  cases turn with
  | demand | inspect | plan => rfl
  | resume own place =>
    refine if_neg fun seeks => ?_
    obtain ⟨job, there, sought⟩ := Option.bind_eq_some_iff.mp seeks
    obtain rfl : own = key := Option.some.inj ((mem_of_about there).2.symm.trans (job.key_of_sought sought))
    rw [h.absent other] at there
    cases there

/-! ### Turns of its convergence -/

/-- The first job about a resource goes on, and what is left of it about the resource takes its place. -/
theorem act_first {job : Job Flight} (first : t.about key = [job]) :
    act g (.resume key 0) t = ((g.resume job t.desk).event.map .event, (act g (.resume key 0) t).2) ∧
      (act g (.resume key 0) t).2.desk = (g.resume job t.desk).desk ∧
      (act g (.resume key 0) t).2.about key = (g.resume job t.desk).next.toList.filter (Job.isAbout key) := by
  have there : (t.about key)[0]? = some job := by rw [first]; rfl
  have whole : t.jobs.filter (Job.isAbout key) = [job] := first
  obtain ⟨_, before, behind⟩ := filter_at_findIdxNth (Job.isAbout key) t.jobs 0
  rw [act_resume there]
  refine ⟨rfl, rfl, ?_⟩
  unfold Traffic.about
  simp only [List.filter_append, before, behind, whole, List.take_zero, List.drop_succ_cons, List.drop_zero,
    List.nil_append, List.append_nil]

/-- A convergence that goes on to wait leaves its resource under guard. -/
theorem Arriving.waits (h : Arriving key profile latency phase raw t) {rest : Phase Flight} {time : Duration}
    {later : Desk Park} (turn : g.advance phase t.desk = (.waiting rest time, later)) {raw' : String}
    (on : phase.convergence.key = key)
    (placed : ∃ resource, later.fleet.Holds key profile latency resource ∧ resource.rawStatus = raw')
    (unmet : later.fleet.failure? key.backend (Operation.postCreate key.kind).name = none) :
    Arriving key profile latency rest raw' (Traffic.act g (.resume key 0) t).2 ∧
      (Traffic.act g (.resume key 0) t).1 = none := by
  have leaves := g.leaves_advance phase t.desk
  rw [turn] at leaves
  obtain ⟨same, guards⟩ := leaves
  obtain ⟨shown, desk, left⟩ := act_first (g := g) h.alone
  simp only [Gateway.resume, turn, Option.map_none] at shown desk left
  have about : Job.isAbout key (.converging rest) = true := decide_eq_true (congrArg some (same.trans on))
  refine ⟨⟨h.sound.act g _, ?_, ?_, ?_, ?_⟩, congrArg Prod.fst shown⟩
  · rw [desk, guards]
    exact h.guarded
  · rw [left, Option.toList_some, List.filter_singleton, about]
    rfl
  · rw [desk]
    exact placed
  · rw [desk]
    exact unmet

/-- A convergence that ends leaves of its resource what the outcome says. -/
theorem Arriving.ends (h : Arriving key profile latency phase raw t) {outcome : Outcome} {later : Desk Park}
    (turn : g.advance phase t.desk = (.done outcome, later)) {raw' : String} (on : phase.convergence.key = key)
    (held : later.fleet.rawStatus? key = some raw') :
    Arrived key outcome raw' (Traffic.act g (.resume key 0) t).2 ∧
      (Traffic.act g (.resume key 0) t).1 = some (.event (.ended key outcome)) := by
  have leaves := g.leaves_advance phase t.desk
  rw [turn] at leaves
  obtain ⟨shown, desk, left⟩ := act_first (g := g) h.alone
  simp only [Gateway.resume, turn, on, Option.map_some] at shown desk left
  refine ⟨⟨?_, left, ?_⟩, congrArg Prod.fst shown⟩
  · rw [desk]
    exact (leaves key).trans (if_pos on)
  · rw [desk]
    exact held

/-- A look at a resource that comes up shows what its status means, and moves it on. -/
theorem Arriving.looked (h : Arriving key profile latency phase raw t)
    (reads : ∀ raw, g.normalizer.normalize key.backend raw = profile.statusTable.resolve raw) :
    g.seen? key (Fleet.find t.desk.fleet key).1 = some (profile.statusTable.resolve raw) ∧
      (t.desk.fleet.find key).1.map (Option.map Resource.rawStatus) = .ok (some raw) ∧
      (g.observe key t.desk).2.fleet.Simulated ∧
      (∃ resource, (g.observe key t.desk).2.fleet.Holds key profile latency resource ∧
        resource.rawStatus = profile.following raw) ∧
      (g.observe key t.desk).2.fleet.failure? key.backend (Operation.postCreate key.kind).name = none := by
  obtain ⟨resource, placed, rfl⟩ := h.placed
  obtain ⟨shown, after⟩ := placed.find h.sound.simulated
  have found : (Fleet.find t.desk.fleet key).1 = .ok (some resource) := shown
  refine ⟨?_, ?_, (h.sound.simulated.alike_find key).simulated, ⟨_, after, rfl⟩, ?_⟩
  · rw [found]
    exact congrArg some (reads resource.rawStatus)
  · rw [shown]
    rfl
  · exact (Park.failure?_find h.sound.simulated key _ _).trans h.unmet

end

/-! ### The whole way -/

/-- The convergence of a new resource after some looks at it. -/
def comingUp (profile : Profile) (key : ResourceKey) (payload : Payload) (n : Nat) : Convergence :=
  ⟨key, payload, n, profile.seenAt key.kind n⟩

/-- How far a new resource has come after some turns of its convergence, which makes so many looks in all. -/
inductive Stage (key : ResourceKey) (profile : Profile) (latency : Duration) (payload : Payload) (looks : Nat) :
    Nat → Traffic Park Flight → Prop where
  | looking (n : Nat) (t : Traffic Park Flight) (more : n < looks)
      (arriving : Arriving key profile latency (.polling (comingUp profile key payload n))
        (profile.statusAt key.kind n) t) : Stage key profile latency payload looks n t
  | finishing (n : Nat) (t : Traffic Park Flight) (flight : Flight) (last : n + 1 = looks)
      (arriving : Arriving key profile latency
        (.finishing (comingUp profile key payload (n + 1)) (profile.stateAt key.kind n) (some flight))
        (profile.statusAt key.kind (n + 1)) t) : Stage key profile latency payload looks (n + 1) t

section

variable {g : Gateway} {key : ResourceKey} {profile : Profile} {latency : Duration} {payload : Payload}
  {t : Traffic Park Flight} {n looks : Nat} {finishes : Bool} {outcome : Outcome} {left : String}

/-- A look that does not decide moves the resource on. -/
theorem step_undecided
    (arriving : Arriving key profile latency (.polling (comingUp profile key payload n)) (profile.statusAt key.kind n) t)
    (reads : ∀ raw, g.normalizer.normalize key.backend raw = profile.statusTable.resolve raw)
    (undecided : profile.Undecided (g.catalog.get? key.kind) key.kind n) :
    let after := act g (.resume key 0) t
    (n + 1 < g.plan.maxAttempts →
      Arriving key profile latency (.polling (comingUp profile key payload (n + 1))) (profile.statusAt key.kind (n + 1))
        after.2 ∧ after.1 = none) ∧
    (n + 1 = g.plan.maxAttempts →
      Arrived key (.exhausted g.plan.maxAttempts (some (profile.stateAt key.kind n))) (profile.statusAt key.kind (n + 1))
        after.2 ∧
      after.1 = some (.event (.ended key (.exhausted g.plan.maxAttempts (some (profile.stateAt key.kind n)))))) := by
  obtain ⟨seen, _, _, ⟨resource, placed, status⟩, unmet⟩ := arriving.looked reads
  let c : Convergence := comingUp profile key payload n
  have seen : g.seen? c.key (Fleet.find t.desk.fleet c.key).1 = some (profile.stateAt key.kind n) := seen
  have unsettled (s : LifecycleState) (shown : g.seen? c.key (Fleet.find t.desk.fleet c.key).1 = some s) :
      ¬ Terminal (g.catalog.get? c.key.kind) s ∧ ¬ Settled (g.catalog.get? c.key.kind) s := by
    obtain rfl := Option.some.inj (seen.symm.trans shown)
    exact undecided
  have there (absent : (Fleet.find t.desk.fleet c.key).1 = .ok none) : c.lastSeen = none := by
    rw [absent] at seen
    cases seen
  have turn : g.advance (.polling c) t.desk = _ := Gateway.poll_of_undecided unsettled there
  have kept : g.keepOn c (Fleet.find t.desk.fleet c.key).1 = comingUp profile key payload (n + 1) := by
    rw [Gateway.keepOn, seen]
    rfl
  simp only [kept] at turn
  refine ⟨fun more => ?_, fun last => ?_⟩
  · rw [if_pos (show c.attempts + 1 < g.plan.maxAttempts from more)] at turn
    exact arriving.waits turn rfl ⟨resource, placed, status⟩ unmet
  · rw [if_neg (show ¬ c.attempts + 1 < g.plan.maxAttempts from Nat.not_lt.mpr (Nat.le_of_eq last.symm))] at turn
    refine arriving.ends turn rfl ?_
    show (g.observe key t.desk).2.fleet.rawStatus? key = _
    rw [placed.rawStatus?, status]
    rfl

theorem step_terminal
    (arriving : Arriving key profile latency (.polling (comingUp profile key payload n)) (profile.statusAt key.kind n) t)
    (reads : ∀ raw, g.normalizer.normalize key.backend raw = profile.statusTable.resolve raw)
    (terminal : Terminal (g.catalog.get? key.kind) (profile.stateAt key.kind n)) :
    let after := act g (.resume key 0) t
    Arrived key (.removed (some (profile.stateAt key.kind n))) (profile.statusAt key.kind (n + 1)) after.2 ∧
      after.1 = some (.event (.ended key (.removed (some (profile.stateAt key.kind n))))) := by
  obtain ⟨seen, _, _, ⟨resource, placed, status⟩, _⟩ := arriving.looked reads
  have turn : g.advance (.polling (comingUp profile key payload n)) t.desk = _ :=
    Gateway.poll_of_terminal seen terminal
  refine arriving.ends turn rfl ?_
  show (g.observe key t.desk).2.fleet.rawStatus? key = _
  rw [placed.rawStatus?, status]
  rfl

/-- A resource that has come up is finished if its profile declares that. -/
theorem step_settled
    (arriving : Arriving key profile latency (.polling (comingUp profile key payload n)) (profile.statusAt key.kind n) t)
    (reads : ∀ raw, g.normalizer.normalize key.backend raw = profile.statusTable.resolve raw)
    (quick : latency ≤ g.timeout) (moves : ¬ Terminal (g.catalog.get? key.kind) (profile.stateAt key.kind n))
    (settled : Settled (g.catalog.get? key.kind) (profile.stateAt key.kind n)) :
    let after := act g (.resume key 0) t
    (profile.capabilities.contains (Operation.postCreate key.kind).name = false →
      Arrived key (.converged (profile.stateAt key.kind n)) (profile.statusAt key.kind (n + 1)) after.2 ∧
        after.1 = some (.event (.ended key (.converged (profile.stateAt key.kind n))))) ∧
    (profile.capabilities.contains (Operation.postCreate key.kind).name = true →
      (∃ flight, Arriving key profile latency
        (.finishing (comingUp profile key payload (n + 1)) (profile.stateAt key.kind n) (some flight))
        (profile.statusAt key.kind (n + 1)) after.2) ∧ after.1 = none) := by
  obtain ⟨seen, _, simulated, ⟨resource, placed, status⟩, unmet⟩ := arriving.looked reads
  have turn : g.advance (.polling (comingUp profile key payload n)) t.desk =
      g.settle (comingUp profile key payload (n + 1)) (profile.stateAt key.kind n) (g.observe key t.desk).2 :=
    Gateway.poll_of_settled seen moves settled
  have declares := placed.supports (Operation.postCreate key.kind).name
  refine ⟨fun undeclared => ?_, fun declared => ?_⟩
  · have done : g.settle (comingUp profile key payload (n + 1)) (profile.stateAt key.kind n) (g.observe key t.desk).2 =
        Gateway.ended (Gateway.lift (comingUp profile key payload (n + 1)) (.converged (profile.stateAt key.kind n))
          (g.observe key t.desk).2) := if_neg (ne_true_of_eq_false (declares.trans undeclared))
    refine arriving.ends (turn.trans done) rfl ?_
    show (g.observe key t.desk).2.fleet.rawStatus? key = _
    rw [placed.rawStatus?, status]
    rfl
  · let c : Convergence := comingUp profile key payload (n + 1)
    obtain ⟨b, there, _, _, rfl, _⟩ := Park.holds_iff.mp placed
    obtain ⟨flight, sent, _⟩ := Gateway.call_in_time (Gateway.postCreateCall c) simulated there quick
    have waits : g.settle c (profile.stateAt key.kind n) (g.observe key t.desk).2 = _ := if_pos (declares.trans declared)
    rw [sent] at waits
    obtain ⟨arrives, silent⟩ := arriving.waits (turn.trans waits) rfl ⟨resource, placed, status⟩ unmet
    exact ⟨⟨flight, arrives⟩, silent⟩

theorem step_finishing {flight : Flight}
    (arriving : Arriving key profile latency
      (.finishing (comingUp profile key payload (n + 1)) (profile.stateAt key.kind n) (some flight))
      (profile.statusAt key.kind (n + 1)) t) :
    let after := act g (.resume key 0) t
    Arrived key (.converged (profile.stateAt key.kind n))
        ((profile.reportedStatus? (Operation.postCreate key.kind).action).getD (profile.statusAt key.kind (n + 1)))
        after.2 ∧
      after.1 = some (.event (.ended key (.converged (profile.stateAt key.kind n)))) := by
  let c : Convergence := comingUp profile key payload (n + 1)
  have first : (t.about key)[0]? = some (.converging (.finishing c (profile.stateAt key.kind n) (some flight))) := by
    rw [arriving.alone]
    rfl
  have call : Gateway.postCreateCall c = flight.call :=
    Option.some.inj (arriving.sound.its_own _ (mem_of_about first).1 flight rfl)
  have about : flight.call.key? = some key := by
    rw [← call]
    rfl
  have named : flight.call.operation = .postCreate key.kind := by
    rw [← call]
    rfl
  obtain ⟨resource, placed, status⟩ := arriving.placed
  obtain ⟨⟨receipt, answered⟩, after⟩ := placed.land about (by rw [named]; exact arriving.unmet)
  have turn : g.advance (.finishing c (profile.stateAt key.kind n) (some flight)) t.desk =
      Gateway.ended (Gateway.lift c (.converged (profile.stateAt key.kind n))
        { t.desk with fleet := (t.desk.fleet.land flight).2 }) := by
    have landed : (Fleet.land t.desk.fleet flight).1 = .ok receipt := answered
    simp only [Gateway.advance, Gateway.finishConvergence, landed]
    rfl
  refine arriving.ends turn rfl ?_
  rw [named, status] at after
  exact after.rawStatus?

/-- What a turn of the convergence shows of its resource, and where it leaves it. -/
theorem Stage.step (h : Stage key profile latency payload looks n t)
    (reads : ∀ raw, g.normalizer.normalize key.backend raw = profile.statusTable.resolve raw)
    (quick : latency ≤ g.timeout)
    (course : profile.Course (g.catalog.get? key.kind) key.kind g.plan.maxAttempts looks finishes outcome left) :
    let after := act g (.resume key 0) t
    (n + 1 < looks + finishes.toNat → Stage key profile latency payload looks (n + 1) after.2 ∧ after.1 = none) ∧
    (n + 1 = looks + finishes.toNat →
      Arrived key outcome left after.2 ∧ after.1 = some (.event (.ended key outcome))) := by
  cases h with
  | looking _ _ more arriving =>
    by_cases further : n + 1 < looks
    · obtain ⟨within, undecided⟩ := course.undecided further
      obtain ⟨goes, silent⟩ := (step_undecided arriving reads undecided).1 within
      exact ⟨fun _ => ⟨.looking _ _ further goes, silent⟩, fun last => by omega⟩
    · obtain rfl : looks = n + 1 := by omega
      generalize plan : g.plan.maxAttempts = attempts at course
      cases course with
      | removed _ _ _ terminal => exact ⟨fun lt => absurd lt (by simp), fun _ => step_terminal arriving reads terminal⟩
      | cameUp _ _ _ moves settled undeclared =>
        exact ⟨fun lt => absurd lt (by simp), fun _ => (step_settled arriving reads quick moves settled).1 undeclared⟩
      | finished _ _ _ moves settled declared =>
        obtain ⟨⟨flight, goes⟩, silent⟩ := (step_settled arriving reads quick moves settled).2 declared
        exact ⟨fun _ => ⟨.finishing n _ flight rfl goes, silent⟩, fun last => absurd last (by simp)⟩
      | exhausted k last before =>
        obtain rfl : n = k := Nat.succ.inj last.symm
        have exhausted := (step_undecided arriving reads (before n (Nat.lt_succ_self n))).2 plan.symm
        rw [plan] at exhausted
        exact ⟨fun lt => absurd lt (by simp), fun _ => exhausted⟩
  | finishing m _ flight last arriving =>
    subst last
    generalize g.plan.maxAttempts = attempts at course
    cases course with
    | finished => exact ⟨fun lt => absurd lt (by simp), fun _ => step_finishing arriving⟩
    | removed | cameUp | exhausted => exact ⟨fun lt => absurd lt (by simp), fun last => absurd last (by simp)⟩

theorem Stage.sight? (h : Stage key profile latency payload looks n t)
    (reads : ∀ raw, g.normalizer.normalize key.backend raw = profile.statusTable.resolve raw) :
    (Turn.resume key 0).sight? key t =
      if n < looks then some (.ok (some (profile.statusAt key.kind n))) else none := by
  cases h with
  | looking _ _ more arriving =>
    obtain ⟨_, shown, _⟩ := arriving.looked reads
    rw [if_pos more, Turn.sight?, arriving.alone, shown]
    exact if_pos rfl
  | finishing m _ flight last arriving =>
    rw [if_neg (by omega), Turn.sight?, arriving.alone]
    rfl

theorem Stage.arriving (h : Stage key profile latency payload looks n t) :
    ∃ phase, Arriving key profile latency phase (profile.statusAt key.kind n) t := by
  cases h with
  | looking _ _ _ arriving | finishing _ _ _ _ arriving => exact ⟨_, arriving⟩

theorem Stage.act (h : Stage key profile latency payload looks n t) (g : Gateway) {turn : Turn}
    (respects : turn.Respects key) (other : turn.takesUp key = false) :
    Stage key profile latency payload looks n (Traffic.act g turn t).2 ∧ turn.sight? key t = none := by
  cases h with
  | looking _ _ more arriving =>
    exact ⟨.looking _ _ more (arriving.act g respects other), arriving.sight?_eq_none other⟩
  | finishing m _ flight last arriving =>
    exact ⟨.finishing m _ flight last (arriving.act g respects other), arriving.sight?_eq_none other⟩

/-- Where a new resource stands after some turns, before the last of its convergence. -/
theorem Stage.play (h : Stage key profile latency payload looks n t)
    (reads : ∀ raw, g.normalizer.normalize key.backend raw = profile.statusTable.resolve raw)
    (quick : latency ≤ g.timeout)
    (course : profile.Course (g.catalog.get? key.kind) key.kind g.plan.maxAttempts looks finishes outcome left)
    {turns : List Turn} (respects : ∀ turn ∈ turns, turn.Respects key)
    (before : n + turns.countP (Turn.takesUp key) < looks + finishes.toNat) :
    Stage key profile latency payload looks (n + turns.countP (Turn.takesUp key)) (play g turns t) ∧
      sights g key turns t =
        (List.range' n (turns.countP (Turn.takesUp key))).map fun k => .ok (some (profile.statusAt key.kind k)) := by
  induction turns generalizing n t with
  | nil => exact ⟨h, rfl⟩
  | cons turn turns ih =>
    rw [List.forall_mem_cons] at respects
    rw [List.countP_cons] at before ⊢
    cases up : turn.takesUp key with
    | true =>
      obtain rfl := Turn.eq_of_takesUp up
      simp only [up, if_true] at before ⊢
      obtain ⟨goes, _⟩ := (h.step reads quick course).1 (by omega)
      have looking : n < looks := by
        have := finishes.toNat_le
        omega
      obtain ⟨last, seen⟩ := ih goes respects.2 (by omega)
      rw [show n + (turns.countP (Turn.takesUp key) + 1) = n + 1 + turns.countP (Turn.takesUp key) by omega]
      refine ⟨last, ?_⟩
      unfold sights at seen ⊢
      rw [notes, h.sight? reads, if_pos looking, seen, List.range'_succ]
      rfl
    | false =>
      simp only [up, Bool.false_eq_true, if_false, Nat.add_zero] at before ⊢
      obtain ⟨stays, unseen⟩ := h.act g respects.1 up
      obtain ⟨last, seen⟩ := ih stays respects.2 before
      refine ⟨last, ?_⟩
      unfold sights at seen ⊢
      rw [notes, unseen, seen]
      rfl

end

/-- A new resource is on its way once its backend has made it. -/
theorem created {g : Gateway} {t : Traffic Park Flight} (sound : t.Sound) {request : CreateRequest} {b : SimulatedBackend}
    (there : t.desk.fleet.registry.get? request.backend = some (.simulated b))
    (routed : t.desk.fleet.router.target? request.backend = some request.backend)
    (declared : b.profile.capabilities.contains request.operation.name = true) (quick : b.latency ≤ g.timeout)
    (unmet : ∀ name, t.desk.fleet.failure? request.backend name = none)
    (unused : t.about ⟨request.backend, request.kind, t.desk.fleet.ids.next.1⟩ = []) :
    let key : ResourceKey := ⟨request.backend, request.kind, t.desk.fleet.ids.next.1⟩
    ∃ made, run g [.demand (.create request), .resume t.jobs.length] t =
        ([.provisioned request ⟨.accepted key.id .pending, some (.begin key request.payload)⟩], made) ∧
      Arriving key b.profile b.latency (.polling (.begin key request.payload)) (b.profile.createdStatus request.kind)
        made := by
  intro key
  obtain ⟨flight, later, goes, comes, guarded, keeps⟩ :=
    Gateway.creates request sound.simulated there routed declared quick unmet
  have taken : (g.accept (.create request) t.desk : Stretch Park Flight) =
      ⟨none, some (.creating request (some flight)), t.desk⟩ := by
    simp only [Gateway.accept, goes]
  have gone : g.resume (.creating request (some flight)) t.desk =
      ⟨some (.provisioned request ⟨.accepted key.id .pending, some (.begin key request.payload)⟩),
        some (.converging (.polling (.begin key request.payload))), later⟩ := by
    simp only [Gateway.resume, comes]
    rfl
  have first : step g (.demand (.create request)) t = (none, ⟨t.desk, t.jobs ++ [.creating request (some flight)]⟩) := by
    rw [step_demand, taken]
    rfl
  have second := resume_last (g := g) t.desk t.jobs (.creating request (some flight))
  rw [gone] at second
  have asked : (step g (.demand (.create request)) t).2.Sound := sound.step (by simp)
  rw [first] at asked
  have served : (step g (.resume t.jobs.length) _).2.Sound := asked.step (by simp)
  rw [second] at served
  refine ⟨_, by rw [run, first, run, second]; rfl, served, guarded, ?_, keeps.placed, keeps.unplanned _⟩
  have about : Job.isAbout key (.converging (.polling (.begin key request.payload)) : Job Flight) = true :=
    decide_eq_true rfl
  have others : t.jobs.filter (Job.isAbout key) = [] := unused
  unfold Traffic.about
  rw [List.filter_append, others, Option.toList_some, List.filter_singleton, about]
  rfl

/-- **Profiles drive convergence.** A gateway has come to some desk before simulated backends, with whatever jobs that wait
to go on. A backend among them, to which lookups are routed and whose calls take no longer than the gateway allows, plays
a profile that declares making resources of a kind. No failure is planned for it, and nobody has asked for anything about
the resource that is made next. Then:

1. that resource is made, and its convergence is all there is to do about it;
2. its profile says how that goes, whatever it is: there is a course of so many looks, and one turn more if a call
   finishes the resource;
3. turns follow in any order, as long as those about the resource are its convergence's, ask for its state or for the
   actions that it allows, or read its status off the backend. Until the convergence has had all its turns, it has looked
   at the resource with each of them, nobody else has, and the statuses that it has found it under are those of the
   profile in their order;
4. the last of its turns ends it with the outcome of the course, and leaves the resource under the status of the course,
   after exactly so many looks. -/
theorem convergence_follows_profile (g : Gateway) (t : Traffic Park Flight) (reached : Reached g t)
    (fitted : g.normalizer = t.desk.fleet.normalizer) (request : CreateRequest) (b : SimulatedBackend)
    (there : t.desk.fleet.registry.get? request.backend = some (.simulated b))
    (routed : t.desk.fleet.router.target? request.backend = some request.backend)
    (declared : b.profile.capabilities.contains request.operation.name = true) (quick : b.latency ≤ g.timeout)
    (unplanned : ∀ name, t.desk.fleet.failure? request.backend name = none)
    (unused : t.about ⟨request.backend, request.kind, t.desk.fleet.ids.next.1⟩ = []) :
    let key : ResourceKey := ⟨request.backend, request.kind, t.desk.fleet.ids.next.1⟩
    let Course := b.profile.Course (g.catalog.get? request.kind) request.kind g.plan.maxAttempts
    ∃ made, run g [.demand (.create request), .resume t.jobs.length] t =
        ([.provisioned request ⟨.accepted key.id .pending, some (.begin key request.payload)⟩], made) ∧
      (∃ looks finishes outcome left, Course looks finishes outcome left) ∧
      ∀ looks finishes outcome left, Course looks finishes outcome left →
        ∀ turns : List Turn, (∀ turn ∈ turns, turn.Respects key) →
          (turns.countP (Turn.takesUp key) < looks + finishes.toNat →
            (∃ phase, Arriving key b.profile b.latency phase
              (b.profile.statusAt request.kind (turns.countP (Turn.takesUp key))) (play g turns made)) ∧
            sights g key turns made = (List.range (turns.countP (Turn.takesUp key))).map fun k =>
              .ok (some (b.profile.statusAt request.kind k))) ∧
          ∀ earlier, turns = earlier ++ [.resume key 0] → turns.countP (Turn.takesUp key) = looks + finishes.toNat →
            Arrived key outcome left (play g turns made) ∧
            (act g (.resume key 0) (play g earlier made)).1 = some (.event (.ended key outcome)) ∧
            sights g key turns made = (List.range looks).map fun k => .ok (some (b.profile.statusAt request.kind k)) := by
  intro key Course
  obtain ⟨made, ran, arriving⟩ := created reached.sound there routed declared quick unplanned unused
  refine ⟨made, ran, Profile.exists_course b.profile _ request.kind g.attempts_pos, ?_⟩
  intro looks finishes outcome left course turns respects
  have reads (raw : String) : g.normalizer.normalize key.backend raw = b.profile.statusTable.resolve raw := by
    have table : g.normalizer.table? key.backend = some b.profile.statusTable := by
      rw [fitted, Park.table?_normalizer, there]
      rfl
    rw [Normalizer.normalize, table]
  have start : Stage key b.profile b.latency request.payload looks 0 made :=
    .looking 0 made (course.looks_pos g.attempts_pos) arriving
  refine ⟨fun before => ?_, ?_⟩
  · have stands := start.play reads quick course respects
    rw [Nat.zero_add] at stands
    obtain ⟨stage, seen⟩ := stands before
    rw [List.range_eq_range']
    exact ⟨stage.arriving, seen⟩
  · rintro earlier rfl all
    have up : (Turn.resume key 0).takesUp key = true := decide_eq_true ⟨rfl, rfl⟩
    rw [List.countP_append, List.countP_singleton, up, if_pos rfl] at all
    have stands := start.play reads quick course fun turn mem => respects turn (List.mem_append_left _ mem)
    rw [Nat.zero_add] at stands
    obtain ⟨stage, seen⟩ := stands (by omega)
    obtain ⟨arrived, shown⟩ := (stage.step reads quick course).2 all
    refine ⟨by rw [play_append]; exact arrived, shown, ?_⟩
    have last := stage.sight? reads
    unfold sights at seen ⊢
    rw [notes_append, notes, notes, seen, last, List.append_nil, ← List.range_eq_range']
    cases finishes with
    | false =>
      rw [if_pos (by simp at all; omega), ← show _ = looks from all, List.range_succ, List.map_append]
      rfl
    | true =>
      have same : earlier.countP (Turn.takesUp key) = looks := Nat.succ.inj all
      rw [if_neg (by omega), same]
      exact List.append_nil _

end Traffic

namespace Solo

open Traffic

/-- The plain backend, before anything is in it. -/
def plain : SimulatedBackend := .new .mock

/-- Before the plain backend, nobody has asked for anything yet. -/
def dawn : Traffic Park Flight := .begin ⟨.empty, park plain⟩

/-- While its server comes up, someone asks for its state and for the actions that it allows. -/
def watched : List Turn :=
  [.demand (server plain) (.currentState (server plain)) rfl, .resume (server plain) 0,
    .demand (server plain) (.availableActions (server plain)) rfl, .resume (server plain) 0, .resume (server plain) 0]

theorem course_plain :
    Profile.mock.Course ((gateway plain).catalog.get? .server) .server (gateway plain).plan.maxAttempts 2 true
      (.converged .stopped) "stopped" := by
  refine .finished 1 (by decide) ?_ ?_ ?_ (by decide +kernel)
  · intro k hk
    obtain rfl : k = 0 := by omega
    exact ⟨(isTerminalFor_iff _ _).not.mp (by decide +kernel), (isSettledFor_iff _ _).not.mp (by decide +kernel)⟩
  · exact (isTerminalFor_iff _ _).not.mp (by decide +kernel)
  · exact (isSettledFor_iff _ _).mp (by decide +kernel)

/-- The server is found being created, then stopped, and is finished then. -/
theorem server_comes_up :
    ∃ made, run (gateway plain) [.demand (.create ⟨"mock", .server, .none, .null⟩), .resume 0] dawn =
        ([.provisioned ⟨"mock", .server, .none, .null⟩
          ⟨.accepted (server plain).id .pending, some (.begin (server plain) ⟨.none, .null⟩)⟩], made) ∧
      Arrived (server plain) (.converged .stopped) "stopped" (play (gateway plain) watched made) ∧
      sights (gateway plain) (server plain) watched made = [.ok (some "creating"), .ok (some "stopped")] := by
  have reached : Reached (gateway plain) dawn := ⟨⟨.empty, park plain⟩, [], simulated_park plain, nofun, rfl⟩
  have there : (park plain).registry.get? "mock" = some (.simulated plain) :=
    (Registry.empty.get?_set _ _ _).trans (if_pos rfl)
  have unplanned (name : String) : (park plain).failure? "mock" name = none :=
    Park.failure?_of_new (Registry.new_empty.set .mock) "mock" name
  obtain ⟨made, ran, _, follows⟩ := convergence_follows_profile (gateway plain) dawn reached rfl
    ⟨"mock", .server, .none, .null⟩ plain there (by decide +kernel) (by decide +kernel) (by decide) unplanned rfl
  have respects : ∀ turn ∈ watched, turn.Respects (server plain) := by
    simp [watched, Turn.Respects]
  obtain ⟨arrived, _, seen⟩ := (follows 2 true _ _ course_plain watched respects).2 (watched.take 4) rfl rfl
  exact ⟨made, ran, arrived, seen⟩

end Solo

end CloudLifecycle
