import CloudLifecycle.Backend.Builtin
import CloudLifecycle.Proofs.Gateway.Payloads
import CloudLifecycle.Proofs.Gateway.Turns

/-!
# Discretion

What a request carries besides its operation, the credentials of its caller and a body, is for the backend alone.

1. Before simulated backends, two runs whose requests differ in their payloads alone show the same results, outcomes and
   answers, and leave the same guards; the parks that they leave are the same but for the attributes of the resources that
   were made from different bodies (`Traffic.run_alike`). If the bodies are the same, so are the parks.
2. Before any fleet, every call carries the payload of the request that it is made for: work that a demand has brought
   about sends no other, however long it goes on (`Demand.Serves`, `Demand.Sends`).

`payloads_pass` puts these together.
-/

namespace CloudLifecycle

/-! ## Two runs before simulated backends -/

/-- Two calls on their way that differ in their payloads alone, to simulated backends. -/
structure Flight.Alike (W : Payload → Payload → Prop) (flight flight' : Flight) : Prop where
  call : flight.call.Alike W flight'.call
  unscripted : flight.reply = none
  unscripted' : flight'.reply = none

namespace Park

/-- Simulated backends do not look at payloads, but for the bodies from which they make resources. -/
theorem oblivious_sameBut (W : Payload → Payload → Prop) (K : Set ResourceKey) :
    Oblivious W (SameBut K) (Flight.Alike W) where
  declared := SameBut.capabilities
  finds := SameBut.find
  launches := by
    intro p p' h call call' same
    obtain ⟨time, flight, flight', after⟩ := h.launch same.backend
    refine ⟨time, ?_, after⟩
    show Flight.Alike W (p.launch call).1.2 (p'.launch call').1.2
    rw [flight, flight']
    exact ⟨same, rfl, rfl⟩
  lands := by
    rintro p p' h ⟨call, _⟩ ⟨call', _⟩ ⟨same, rfl, rfl⟩
    have anything := h.mono (Set.subset_univ K)
    exact (anything.land same.backend same.operation same.resource fun _ _ _ _ => Set.mem_univ _).1

end Park

theorem Desk.Alike.eq {desk desk' : Desk Park} (h : desk.Alike (Park.SameBut ∅) desk') : desk = desk' := by
  obtain ⟨guards, fleet⟩ := desk
  obtain ⟨guards', fleet'⟩ := desk'
  obtain ⟨rfl, same⟩ := h
  rw [show fleet = fleet' from same.eq]

/-- Two events show that a resource was made from different bodies. -/
def Event.MadeApart (key : ResourceKey) (event event' : Event) : Prop :=
  ∃ (request request' : CreateRequest) (provisioning provisioning' : Provisioning),
    event = .provisioned request provisioning ∧ event' = .provisioned request' provisioning' ∧
      request.body ≠ request'.body ∧ provisioning.made? request = some key

namespace Traffic

/-- The resources that are made from different bodies in two runs side by side. -/
def apart (events events' : List Event) : Set ResourceKey :=
  {key | ∃ (n : Nat) (event event' : Event), events[n]? = some event ∧ events'[n]? = some event' ∧ event.MadeApart key event'}

section

variable {W : Payload → Payload → Prop} {K : Set ResourceKey} {g : Gateway} {t t' : Traffic Park Flight}

theorem apart_subset {event event' : Option Event} (shown : Option.Rel (Event.Alike W) event event')
    (events events' : List Event) : apart events events' ⊆ apart (event.toList ++ events) (event'.toList ++ events') := by
  cases shown with
  | none => exact Set.Subset.rfl
  | some _ =>
    rintro key ⟨n, apart⟩
    exact ⟨n + 1, apart⟩

/-- Runs that are alike with the same bodies make no resource from different ones. -/
theorem apart_of_same_bodies {events events' : List Event}
    (alike : List.Forall₂ (Event.Alike fun payload payload' => payload.body = payload'.body) events events') :
    apart events events' = ∅ := by
  rw [Set.eq_empty_iff_forall_notMem]
  rintro key ⟨n, _, _, at_n, at_n', request, request', _, _, rfl, rfl, ne, _⟩
  have same := rel_getElem? alike n
  rw [at_n, at_n'] at same
  cases same with
  | some same =>
    cases same with
    | provisioned same _ _ => exact ne same.payload

theorem Job.Alike.flights {job job' : Job Flight} (same : job.Alike W (Flight.Alike W) job') :
    Option.Rel (Flight.Alike W) job.flight? job'.flight? := by
  cases same with
  | acting _ flights | creating _ flights => exact flights
  | converging same =>
    cases same with
    | polling _ => exact .none
    | finishing _ _ flights => exact flights
  | looking _ _ | asking _ | listing _ => exact .none

/-- Moves that are alike show what is alike and leave what is alike, if the resources that are made there from different
bodies are among those whose attributes do not count. -/
theorem step_alike (h : t.Alike W (Park.SameBut K) (Flight.Alike W) t')
    (own : ∀ job ∈ t.jobs, ∀ flight, job.flight? = some flight → job.call? = some flight.call)
    (own' : ∀ job ∈ t'.jobs, ∀ flight, job.flight? = some flight → job.call? = some flight.call)
    {move move' : Move Park} (same : move.Alike W (Park.SameBut K) move')
    (within : ∀ event event' key, (step g move t).1 = some event → (step g move' t').1 = some event' →
      event.MadeApart key event' → key ∈ K) :
    Option.Rel (Event.Alike W) (step g move t).1 (step g move' t').1 ∧
      (step g move t).2.Alike W (Park.SameBut K) (Flight.Alike W) (step g move' t').2 := by
  refine h.step (Park.oblivious_sameBut W K) same ?_
  rintro place job job' ⟨call, reply⟩ ⟨call', reply'⟩ rfl there there' on_its_way on_its_way'
  cases same
  have jobs := rel_getElem? h.jobs place
  rw [there, there'] at jobs
  cases jobs with
  | some alike =>
    have flights := Job.Alike.flights alike
    rw [on_its_way, on_its_way'] at flights
    cases flights with
    | some flights =>
      obtain ⟨sameCall, rfl, rfl⟩ := flights
      refine (h.desk.fleet.land sameCall.backend sameCall.operation sameCall.resource ?_).2
      intro unnamed ne receipt answered
      have its_own := own job (List.mem_of_getElem? there) _ on_its_way
      have its_own' := own' job' (List.mem_of_getElem? there') _ on_its_way'
      cases alike with
      | creating same _ =>
        cases on_its_way
        cases on_its_way'
        cases its_own
        cases its_own'
        exact within _ _ _ (event_resume there) (event_resume there')
          ⟨_, _, _, _, rfl, rfl, ne, Gateway.made_of_landed (g := g) answered⟩
      | acting _ _ =>
        cases its_own
        cases unnamed
      | converging same =>
        cases same with
        | polling _ => cases on_its_way
        | finishing _ _ _ =>
          cases its_own
          cases unnamed
      | looking _ _ | asking _ | listing _ => cases on_its_way

/-- Runs that are alike show what is alike and leave what is alike, if the resources that are made there from different
bodies are among those whose attributes do not count. -/
theorem run_alike (h : t.Alike W (Park.SameBut K) (Flight.Alike W) t')
    (own : ∀ job ∈ t.jobs, ∀ flight, job.flight? = some flight → job.call? = some flight.call)
    (own' : ∀ job ∈ t'.jobs, ∀ flight, job.flight? = some flight → job.call? = some flight.call)
    {moves moves' : List (Move Park)} (same : List.Forall₂ (Move.Alike W (Park.SameBut K)) moves moves')
    (within : apart (run g moves t).1 (run g moves' t').1 ⊆ K) :
    List.Forall₂ (Event.Alike W) (run g moves t).1 (run g moves' t').1 ∧
      (run g moves t).2.Alike W (Park.SameBut K) (Flight.Alike W) (run g moves' t').2 := by
  induction same generalizing t t' with
  | nil => exact ⟨.nil, h⟩
  | @cons move move' moves moves' first _ ih =>
    have stepped := step_alike (g := g) h own own' first ?_
    · obtain ⟨event, after⟩ := stepped
      have rest := ih after (own_step Park.call_launch own) (own_step Park.call_launch own') ?_
      · exact ⟨List.rel_append (forall₂_toList event) rest.1, rest.2⟩
      · exact (apart_subset event _ _).trans within
    · intro event event' key shown shown' made
      refine within ⟨0, event, event', ?_, ?_, made⟩
      · simp only [run, shown, Option.toList_some, List.singleton_append, List.getElem?_cons_zero]
      · simp only [run, shown', Option.toList_some, List.singleton_append, List.getElem?_cons_zero]

/-- Runs from one desk. -/
theorem run_alike_begin {desk : Desk Park} (simulated : desk.fleet.Simulated) {moves moves' : List (Move Park)}
    (same : List.Forall₂ (Move.Alike W (Park.SameBut K)) moves moves')
    (within : apart (run g moves (begin desk)).1 (run g moves' (begin desk)).1 ⊆ K) :
    List.Forall₂ (Event.Alike W) (run g moves (begin desk)).1 (run g moves' (begin desk)).1 ∧
      (run g moves (begin desk)).2.desk.Alike (Park.SameBut K) (run g moves' (begin desk)).2.desk := by
  have own : ∀ job ∈ (begin desk : Traffic Park Flight).jobs, ∀ flight, job.flight? = some flight →
      job.call? = some flight.call := List.forall_mem_nil _
  have begins : (begin desk : Traffic Park Flight).Alike W (Park.SameBut K) (Flight.Alike W) (begin desk) :=
    ⟨⟨rfl, simulated.sameBut K⟩, .nil⟩
  obtain ⟨events, after⟩ := run_alike begins own own same within
  exact ⟨events, after.desk⟩

/-- Runs whose requests have the same bodies leave the same. -/
theorem run_of_same_bodies {desk : Desk Park} (simulated : desk.fleet.Simulated) {moves moves' : List (Move Park)}
    (same : List.Forall₂ (Move.Alike (fun payload payload' => payload.body = payload'.body) (Park.SameBut ∅))
      moves moves') :
    List.Forall₂ (Event.Alike fun payload payload' => payload.body = payload'.body)
        (run g moves (begin desk)).1 (run g moves' (begin desk)).1 ∧
      (run g moves (begin desk)).2.desk = (run g moves' (begin desk)).2.desk := by
  -- Whatever is made from different bodies may differ at first. Once the events are known to be alike, that is nothing.
  have wider : List.Forall₂ (Move.Alike (fun payload payload' => payload.body = payload'.body)
      (Park.SameBut (apart (run g moves (begin desk)).1 (run g moves' (begin desk)).1))) moves moves' := by
    refine same.imp fun move move' same => ?_
    cases same with
    | demand same => exact .demand same
    | resume place => exact .resume place
    | abandon place => exact .abandon place
    | drift same => exact .drift (same.mono (Set.empty_subset _))
  obtain ⟨events, desks⟩ := run_alike_begin simulated wider Set.Subset.rfl
  rw [apart_of_same_bodies events] at desks
  exact ⟨events, desks.eq⟩

end

end Traffic

/-! ## The calls of a demand -/

/-- The calls that a demand may lead to, each with the credentials and the body of the request that is demanded. -/
inductive Demand.Sends : Demand → Call → Prop where
  | invoke (request : ActionRequest) :
      Sends (.dispatch request)
        ⟨request.backend, ⟨request.kind, request.action⟩, some request.resourceId, ⟨request.credentials, request.body⟩⟩
  | create (request : CreateRequest) :
      Sends (.create request) ⟨request.backend, .create request.kind, none, ⟨request.credentials, request.body⟩⟩
  | finish (request : CreateRequest) (id : String) :
      Sends (.create request)
        ⟨request.backend, .postCreate request.kind, some id, ⟨request.credentials, request.body⟩⟩
  | bringUp (key : ResourceKey) (payload : Payload) :
      Sends (.converge key payload) ⟨key.backend, .postCreate key.kind, some key.id, payload⟩

/-- A job is what is left to do for a demand. -/
inductive Demand.Serves {φ : Type} : Demand → Job φ → Prop where
  | looking (request : ActionRequest) (machine : Machine) : Serves (.dispatch request) (.looking request machine)
  | acting (request : ActionRequest) (flight : Option φ) : Serves (.dispatch request) (.acting request flight)
  | creating (request : CreateRequest) (flight : Option φ) : Serves (.create request) (.creating request flight)
  | made (request : CreateRequest) (phase : Phase φ) (id : String)
      (key : phase.convergence.key = ⟨request.backend, request.kind, id⟩)
      (payload : phase.convergence.payload = request.payload) : Serves (.create request) (.converging phase)
  | bringingUp (phase : Phase φ) :
      Serves (.converge phase.convergence.key phase.convergence.payload) (.converging phase)
  | asking (key : ResourceKey) : Serves (.currentState key) (.asking key)
  | listing (key : ResourceKey) : Serves (.availableActions key) (.listing key)

theorem Demand.Serves.sends {φ : Type} {demand : Demand} {job : Job φ} (serves : demand.Serves job) {call : Call}
    (waits : job.call? = some call) : demand.Sends call := by
  cases serves with
  | acting request flight =>
    cases waits
    exact .invoke request
  | creating request flight =>
    cases waits
    exact .create request
  | made request phase id key payload =>
    cases phase with
    | polling c => cases waits
    | finishing c s flight =>
      have key : c.key = ⟨request.backend, request.kind, id⟩ := key
      have payload : c.payload = ⟨request.credentials, request.body⟩ := payload
      obtain rfl : Gateway.postCreateCall c = call := Option.some.inj waits
      rw [Gateway.postCreateCall, key, payload]
      exact .finish request id
  | bringingUp phase =>
    cases phase with
    | polling c => cases waits
    | finishing c s flight =>
      cases waits
      exact .bringUp c.key c.payload
  | looking _ _ | asking _ | listing _ => cases waits

namespace Gateway

variable {σ φ : Type} [Fleet σ φ]

/-- A convergence keeps its resource and its payload as long as it goes on. -/
theorem keeps_advance {g : Gateway} {phase rest : Phase φ} {desk : Desk σ} {time : Duration} {later : Desk σ}
    (turn : g.advance phase desk = (.waiting rest time, later)) :
    rest.convergence.key = phase.convergence.key ∧ rest.convergence.payload = phase.convergence.payload := by
  cases phase with
  | finishing c s flight => cases turn
  | polling c =>
    unfold advance poll settle at turn
    dsimp only at turn
    split at turn
    · cases turn
    · split at turn
      · cases turn
        exact ⟨rfl, rfl⟩
      · cases turn
    · split at turn
      · cases turn
        exact ⟨rfl, rfl⟩
      · cases turn

theorem serves_accept {g : Gateway} {demand : Demand} {desk : Desk σ} {job : Job φ}
    (next : (g.accept demand desk : Stretch σ φ).next = some job) : demand.Serves job := by
  have taken := g.accepted (φ := φ) demand desk
  generalize (g.accept demand desk : Stretch σ φ) = s at taken next
  cases taken with
  | entered request machine _ =>
    cases next
    exact .looking request machine
  | sent request _ =>
    cases next
    exact .creating request _
  | claimed key payload _ =>
    cases next
    exact .bringingUp (.polling (.begin key payload))
  | asking key _ =>
    cases next
    exact .asking key
  | listing key _ =>
    cases next
    exact .listing key
  | _ => cases next

/-- What is left of a job serves the same demand. -/
theorem serves_resume {g : Gateway} {demand : Demand} {job rest : Job φ} (serves : demand.Serves job) {desk : Desk σ}
    (next : (g.resume job desk).next = some rest) : demand.Serves rest := by
  have gone := g.resumed job desk
  generalize g.resume job desk = s at gone next
  cases gone with
  | reached request machine _ =>
    cases serves
    cases next
    exact .acting request _
  | provisioned request flight =>
    cases serves
    obtain ⟨c, started, rfl⟩ := Option.map_eq_some_iff.mp next
    obtain ⟨id, rfl⟩ := started_finishCreate started
    exact .made request _ id rfl rfl
  | going phase rest time later turn =>
    cases next
    obtain ⟨key, payload⟩ := keeps_advance turn
    cases serves with
    | made request _ id key' payload' => exact .made request rest id (key.trans key') (payload.trans payload')
    | bringingUp _ =>
      rw [← key, ← payload]
      exact .bringingUp rest
  | _ => cases next

/-- The convergence of a new resource is of the one that its caller is told of, and has the payload of the request. -/
theorem next_creating {g : Gateway} {request : CreateRequest} {flight : Option φ} {desk : Desk σ} {rest : Job φ}
    (next : (g.resume (.creating request flight) desk).next = some rest) :
    ∃ provisioning key, (g.resume (.creating request flight) desk).event = some (.provisioned request provisioning) ∧
      provisioning.made? request = some key ∧ rest = .converging (.polling (.begin key request.payload)) := by
  have made := g.made_finishCreate request flight desk
  obtain ⟨c, started, rfl⟩ : ∃ c, (g.finishCreate request flight desk).1.started = some c ∧
      Job.converging (.polling c) = rest := Option.map_eq_some_iff.mp next
  rw [started] at made
  obtain ⟨id, rfl⟩ := started_finishCreate started
  exact ⟨_, _, rfl, made, rfl⟩

end Gateway

/-- A stretch of work sends no calls but those of a demand, and what it leaves to do serves that. -/
def Stretch.KeepsTo {σ φ : Type} (s : Stretch (Recorded σ) φ) (demand : Demand) (before : Desk (Recorded σ)) : Prop :=
  (∃ asked, s.desk.fleet.record = before.fleet.record ++ asked ∧ ∀ call, .call call ∈ asked → demand.Sends call) ∧
    ∀ job, s.next = some job → demand.Serves job

namespace Gateway

variable {σ φ : Type} [Fleet σ φ]

omit [Fleet σ φ] in
theorem keepsTo_of_asks {s : Stretch (Recorded σ) φ} {before : Desk (Recorded σ)} {demand : Demand} (asks : s.Asks before)
    (serves : ∀ job, s.next = some job → demand.Serves job) : s.KeepsTo demand before := by
  obtain ⟨asked, recorded, calls⟩ := asks
  refine ⟨⟨asked, recorded, fun call mem => ?_⟩, serves⟩
  have sent : call ∈ asked.filterMap Ask.call? := List.mem_filterMap.mpr ⟨_, mem, rfl⟩
  rw [calls, Option.mem_toList] at sent
  obtain ⟨job, next, waits⟩ := Option.bind_eq_some_iff.mp sent
  exact (serves job next).sends waits

theorem keepsTo_accept (g : Gateway) (demand : Demand) (desk : Desk (Recorded σ)) :
    (g.accept demand desk : Stretch (Recorded σ) φ).KeepsTo demand desk :=
  keepsTo_of_asks (g.asks_accept demand desk) fun _ => serves_accept

theorem keepsTo_resume (g : Gateway) {demand : Demand} {job : Job φ} (serves : demand.Serves job)
    (desk : Desk (Recorded σ)) : (g.resume job desk).KeepsTo demand desk :=
  keepsTo_of_asks (g.asks_resume job desk) fun _ => serves_resume serves

end Gateway

namespace Traffic

variable {σ φ : Type} [Fleet σ φ]

/-- A job after a move was there before, or is what is left of one that was, or of the demand that has come. -/
theorem origin_step {g : Gateway} {move : Move σ} {t : Traffic σ φ} {job : Job φ} (mem : job ∈ (step g move t).2.jobs) :
    job ∈ t.jobs ∨ (∃ old ∈ t.jobs, (g.resume old t.desk).next = some job) ∨
      ∃ demand, move = .demand demand ∧ (g.accept demand t.desk : Stretch σ φ).next = some job := by
  cases move with
  | demand demand =>
    rcases List.mem_append.mp mem with old | new
    · exact .inl old
    · exact .inr (.inr ⟨demand, rfl, Option.mem_toList.mp new⟩)
  | resume place =>
    rcases there : t.jobs[place]? with _ | work
    · simp only [step, there] at mem
      exact .inl mem
    · simp only [step, there, List.mem_append] at mem
      rcases mem with old | new | old
      · exact .inl (List.mem_of_mem_take old)
      · exact .inr (.inl ⟨work, List.mem_of_getElem? there, Option.mem_toList.mp new⟩)
      · exact .inl (List.mem_of_mem_drop old)
  | abandon place =>
    unfold step at mem
    dsimp only at mem
    split at mem
    · exact .inl mem
    · exact .inl mem
    · exact .inl (List.mem_of_mem_eraseIdx mem)
  | drift fleet => exact .inl mem

/-- Every job of a run serves a demand that has come. -/
theorem exists_demand (g : Gateway) (moves : List (Move σ)) (desk : Desk σ) :
    ∀ job ∈ (run g moves (begin desk : Traffic σ φ)).2.jobs, ∃ demand, .demand demand ∈ moves ∧ demand.Serves job := by
  induction moves using List.reverseRecOn with
  | nil => exact List.forall_mem_nil _
  | append_singleton moves move ih =>
    rw [run_concat]
    intro job mem
    obtain old | ⟨before, old, next⟩ | ⟨demand, rfl, next⟩ := origin_step mem
    · obtain ⟨demand, came, serves⟩ := ih job old
      exact ⟨demand, List.mem_append_left _ came, serves⟩
    · obtain ⟨demand, came, serves⟩ := ih before old
      exact ⟨demand, List.mem_append_left _ came, Gateway.serves_resume serves next⟩
    · exact ⟨demand, List.mem_append_right _ (List.mem_singleton_self _), Gateway.serves_accept next⟩

/-- Every call of a run is one that a demand leads to which has come. -/
theorem exists_sends (g : Gateway) (moves : List (Move (Recorded σ))) (desk : Desk (Recorded σ))
    (calm : ∀ move ∈ moves, move.isDrift = false) {call : Call}
    (sent : .call call ∈ (run g moves (begin desk : Traffic (Recorded σ) φ)).2.desk.fleet.record) :
    .call call ∈ desk.fleet.record ∨ ∃ demand, .demand demand ∈ moves ∧ demand.Sends call := by
  induction moves using List.reverseRecOn with
  | nil => exact .inl sent
  | append_singleton moves move ih =>
    have served := exists_demand (φ := φ) g (moves ++ [move]) desk
    rw [run_concat] at sent served
    rw [List.forall_mem_append] at calm
    obtain ⟨asked, recorded, waits⟩ :=
      asked_step (g := g) (calm.2 move (List.mem_singleton_self _)) (run g moves (begin desk : Traffic (Recorded σ) φ)).2
    rw [recorded, List.mem_append] at sent
    rcases sent with before | now
    · rcases ih calm.1 before with first | ⟨demand, came, sends⟩
      · exact .inl first
      · exact .inr ⟨demand, List.mem_append_left _ came, sends⟩
    · obtain ⟨job, mem, its_own⟩ := waits call (List.mem_filterMap.mpr ⟨_, now, rfl⟩)
      obtain ⟨demand, came, serves⟩ := served job mem
      exact .inr ⟨demand, came, serves.sends its_own⟩

end Traffic

/-- **Payloads are handed on.** For any gateway:

1. Two runs before the same simulated backends whose requests have the same bodies, and differ in their credentials
   alone, show the same results, outcomes and answers, and leave the same guards and the same backends.
2. If the bodies differ as well, they still show the same and leave the same guards, and the backends that they leave are
   the same but for the attributes of the resources that were made from different bodies. What backends do by themselves
   may differ in these too.
3. Before any fleet, a demand that is taken up sends no calls but its own, with the credentials and the body of its
   request, and neither does what is left of it, however often it goes on. A new resource is finished with the payload
   of the request that has brought it. So every call of a run is one of a demand that has come. -/
theorem Gateway.payloads_pass (g : Gateway) :
    (∀ (desk : Desk Park) (moves moves' : List (Move Park)), desk.fleet.Simulated →
      let ran := Traffic.run g moves (.begin desk)
      let ran' := Traffic.run g moves' (.begin desk)
      let sameBody (payload payload' : Payload) := payload.body = payload'.body
      let any (_ _ : Payload) := True
      (List.Forall₂ (Move.Alike sameBody (Park.SameBut ∅)) moves moves' →
        List.Forall₂ (Event.Alike sameBody) ran.1 ran'.1 ∧ ran.2.desk = ran'.2.desk) ∧
      ∀ K, Traffic.apart ran.1 ran'.1 ⊆ K → List.Forall₂ (Move.Alike any (Park.SameBut K)) moves moves' →
        List.Forall₂ (Event.Alike any) ran.1 ran'.1 ∧ ran.2.desk.guards = ran'.2.desk.guards ∧
          ran.2.desk.fleet.SameBut K ran'.2.desk.fleet) ∧
    ∀ (σ φ : Type) [Fleet σ φ],
      (∀ demand (desk : Desk (Recorded σ)), (g.accept demand desk : Stretch (Recorded σ) φ).KeepsTo demand desk) ∧
      (∀ demand (job : Job φ) (desk : Desk (Recorded σ)), demand.Serves job → (g.resume job desk).KeepsTo demand desk) ∧
      (∀ request flight (desk : Desk σ) (rest : Job φ), (g.resume (.creating request flight) desk).next = some rest →
        ∃ provisioning key,
          (g.resume (.creating request flight) desk).event = some (.provisioned request provisioning) ∧
            provisioning.made? request = some key ∧ rest = .converging (.polling (.begin key request.payload))) ∧
      ∀ (desk : Desk (Recorded σ)) (moves : List (Move (Recorded σ))), (∀ move ∈ moves, move.isDrift = false) →
        let ran := Traffic.run g moves (.begin desk)
        (∀ job ∈ ran.2.jobs, ∃ demand, .demand demand ∈ moves ∧ demand.Serves job) ∧
        ∀ call, .call call ∈ ran.2.desk.fleet.record →
          .call call ∈ desk.fleet.record ∨ ∃ demand, .demand demand ∈ moves ∧ demand.Sends call := by
  refine ⟨fun desk moves moves' simulated => ?_, fun σ φ _ => ⟨?_, ?_, ?_, ?_⟩⟩
  · refine ⟨Traffic.run_of_same_bodies simulated, fun K within same => ?_⟩
    obtain ⟨events, guards, fleets⟩ := Traffic.run_alike_begin simulated same within
    exact ⟨events, guards, fleets⟩
  · exact fun demand desk => g.keepsTo_accept demand desk
  · exact fun demand job desk serves => g.keepsTo_resume serves desk
  · exact fun request flight desk rest next => next_creating next
  · exact fun desk moves calm => ⟨Traffic.exists_demand g moves desk, fun call => Traffic.exists_sends g moves desk calm⟩

/-! ## Callers of one server -/

namespace Callers

open Solo

/-- A backend that finishes new servers. -/
def backend : SimulatedBackend := .new .mock

/-- A server is asked for. It is made and comes up with the second look, it is finished, and then it is started. -/
def moves {σ : Type} (payload : Payload) : List (Move σ) :=
  [.demand (.create ⟨"mock", .server, payload.credentials, payload.body⟩), .resume 0, .resume 0, .resume 0, .resume 0,
    .demand (.dispatch ⟨"mock", .server, uuidText 0, "start", payload.credentials, payload.body⟩), .resume 0, .resume 0]

theorem alike_moves {σ : Type} {W : Payload → Payload → Prop} {R : σ → σ → Prop} {payload payload' : Payload}
    (same : W payload payload') : List.Forall₂ (Move.Alike W R) (moves payload) (moves payload') :=
  .cons (.demand (.create ⟨rfl, rfl, same⟩)) <| .cons (.resume 0) <| .cons (.resume 0) <| .cons (.resume 0) <|
    .cons (.resume 0) <| .cons (.demand (.dispatch ⟨rfl, rfl, rfl, rfl, same⟩)) <| .cons (.resume 0) <|
    .cons (.resume 0) .nil

/-- What a caller sends who asks for a small server. -/
def alice : Payload := ⟨⟨"alice", "rabbit"⟩, .obj [("size", .int 1)]⟩

/-- What another caller sends who asks for the same. -/
def bob : Payload := ⟨⟨"bob", "ladder"⟩, .obj [("size", .int 1)]⟩

/-- What another caller sends who asks for more. -/
def carol : Payload := ⟨⟨"carol", "lantern"⟩, .obj [("size", .int 9)]⟩

/-- Two callers who ask for the same get the same server and see the same of it. With another body all is the same but the
attributes of the server. The backend is told each time who asks, and for what, also when it finishes the server. -/
theorem callers_unseen :
    let ran (payload : Payload) := Traffic.run (gateway backend) (moves payload) (.begin ⟨.empty, park backend⟩)
    let told := Traffic.run (gateway backend) (moves alice) (.begin (desk backend))
    let calls := told.2.desk.fleet.record.filterMap Ask.call?
    (alice.credentials ≠ bob.credentials ∧
      List.Forall₂ (Event.Alike fun payload payload' => payload.body = payload'.body) (ran alice).1 (ran bob).1 ∧
      (ran alice).2.desk = (ran bob).2.desk ∧
      (ran alice).2.desk.fleet.rawStatus? (server backend) = some "running") ∧
    (List.Forall₂ (Event.Alike fun _ _ => True) (ran alice).1 (ran carol).1 ∧
      (ran alice).2.desk.guards = (ran carol).2.desk.guards ∧
      (ran alice).2.desk.fleet.SameBut (Traffic.apart (ran alice).1 (ran carol).1) (ran carol).2.desk.fleet) ∧
    calls.map (·.operation.name) = ["create_instance", "post_create_instance", "start_instance"] ∧
      ∀ call ∈ calls, call.payload = alice := by
  dsimp only
  obtain ⟨unseen, carried⟩ := Gateway.payloads_pass (gateway backend)
  obtain ⟨_, _, _, runs⟩ := carried Park Flight
  refine ⟨⟨by decide, ?_⟩, ?_, by decide +kernel, fun call mem => ?_⟩
  · obtain ⟨same, _⟩ := unseen ⟨.empty, park backend⟩ (moves alice) (moves bob) (simulated_park backend)
    obtain ⟨events, desks⟩ := same (alike_moves rfl)
    exact ⟨events, desks, by decide +kernel⟩
  · obtain ⟨_, differ⟩ := unseen ⟨.empty, park backend⟩ (moves alice) (moves carol) (simulated_park backend)
    exact differ _ Set.Subset.rfl (alike_moves trivial)
  · obtain ⟨ask, asked, is_call⟩ := List.mem_filterMap.mp mem
    obtain rfl : ask = .call call := by
      cases ask <;> cases is_call
      rfl
    rcases (runs (desk backend) (moves alice) (by decide)).2 call asked with before | ⟨demand, came, sends⟩
    · cases before
    · -- only two demands have come, both with this payload
      simp only [moves, List.mem_cons, Move.demand.injEq, reduceCtorEq, List.not_mem_nil, or_false, false_or] at came
      rcases came with rfl | rfl <;> cases sends <;> rfl

end Callers

end CloudLifecycle
