import CloudLifecycle.Backend.Park

/-!
# What simulated backends hold

The status of a resource in a park of simulated backends, and what lookups and calls make of it. Only two things move
it: a look at the resource, along the progressions of its profile, and a call that goes well and is about the resource,
whose receipt then has the new status.

What never changes is the kind of park it is (`Park.Simulated`), the profiles that its backends play, and where lookups
go (`Park.Alike`).
-/

namespace CloudLifecycle

theorem Resource.rawStatus_withBody (resource : Resource) (body : Json) :
    (resource.withBody body).rawStatus = resource.rawStatus := by
  cases body with
  | obj members =>
    unfold withBody
    induction members generalizing resource with
    | nil => rfl
    | cons m members ih => exact ih (resource.withAttribute m.1 m.2)
  | _ => rfl

/-! ## One backend -/

namespace SimulatedBackend

/-- The backend with a resource put in its place. -/
theorem rawStatus?_put (b : SimulatedBackend) (ref k : ResourceRef) (resource : Resource) :
    ({ b with resources := b.resources.insert ref resource } : SimulatedBackend).rawStatus? k =
      if ref = k then some resource.rawStatus else b.rawStatus? k := by
  simp only [rawStatus?, Std.ExtTreeMap.getElem?_insert, Std.LawfulEqCmp.compare_eq_iff_eq]
  split <;> rfl

/-! ### Looks -/

theorem profile_find (b : SimulatedBackend) (backend : String) (ref : ResourceRef) :
    (b.find backend ref).2.profile = b.profile := by
  unfold find
  split
  · split
    · rfl
    · split <;> rfl
  · rfl

/-- A look shows the status that the backend holds, if it is the one that was meant. -/
theorem rawStatus_found (b : SimulatedBackend) (backend : String) (ref : ResourceRef) :
    (b.find backend ref).1.map (·.rawStatus) = if backend = b.profile.id then b.rawStatus? ref else none := by
  unfold find rawStatus?
  split
  · split
    · next absent => rw [absent]
    · next found =>
      rw [found]
      split <;> rfl
  · rfl

/-- A look moves the resource on as its profile says, and no other. -/
theorem rawStatus?_find (b : SimulatedBackend) (backend : String) (ref k : ResourceRef) :
    (b.find backend ref).2.rawStatus? k =
      if backend = b.profile.id ∧ ref = k then (b.rawStatus? k).map fun raw => (b.profile.nextStatus? raw).getD raw
      else b.rawStatus? k := by
  by_cases own : backend = b.profile.id
  · rcases held : b.resources[ref]? with _ | resource
    · have same : (b.find backend ref).2 = b := by simp only [find, own, held, if_true]
      rw [same]
      split
      · next h =>
        obtain ⟨_, rfl⟩ := h
        simp [rawStatus?, held]
      · rfl
    · have status : b.rawStatus? ref = some resource.rawStatus := by rw [rawStatus?, held]; rfl
      rcases next : b.profile.nextStatus? resource.rawStatus with _ | raw
      · have same : (b.find backend ref).2 = b := by simp only [find, own, held, next, if_true]
        rw [same]
        split
        · next h =>
          obtain ⟨_, rfl⟩ := h
          simp [status, next]
        · rfl
      · have put : (b.find backend ref).2 =
            { b with resources := b.resources.insert ref (resource.withStatus raw) } := by
          simp only [find, own, held, next, if_true]
        rw [put, rawStatus?_put]
        by_cases hk : ref = k
        · subst hk
          simp [own, status, next, Resource.withStatus]
        · simp [hk]
  · have same : (b.find backend ref).2 = b := by simp only [find, own, if_false]
    simp [same, own]

/-! ### Calls -/

/-- The ways in which a call may land. -/
inductive Lands (b : SimulatedBackend) (call : Call) : BackendResult Receipt → SimulatedBackend → Prop where
  | failed (e : BackendError) (failures : Std.ExtTreeMap String BackendError) :
      Lands b call (.error e) { b with failures := failures }
  | kept (id : String) (resource : Resource) (named : call.resource = some id)
      (held : b.resources[(⟨call.operation.kind, id⟩ : ResourceRef)]? = some resource)
      (silent : b.profile.reportedStatus? call.operation.action = none) :
      Lands b call (.ok ⟨id, resource.rawStatus⟩) b
  | moved (id : String) (resource : Resource) (raw : String) (named : call.resource = some id)
      (held : b.resources[(⟨call.operation.kind, id⟩ : ResourceRef)]? = some resource)
      (reported : b.profile.reportedStatus? call.operation.action = some raw) :
      Lands b call (.ok ⟨id, raw⟩)
        { b with resources := b.resources.insert ⟨call.operation.kind, id⟩ (resource.withStatus raw) }
  | made (id : String) (resource : Resource) (unnamed : call.resource = none) :
      Lands b call (.ok ⟨id, resource.rawStatus⟩)
        { b with resources := b.resources.insert ⟨call.operation.kind, id⟩ resource }

theorem lands (b : SimulatedBackend) (call : Call) (ids : IdSource) :
    Lands b call (b.land call ids).1 (b.land call ids).2.1 := by
  unfold land
  split
  · next e _ => exact .failed e _
  · split
    · next id named =>
      unfold invoke
      dsimp only
      split
      · next absent => exact .failed _ b.failures
      · next resource held =>
        split
        · next silent => exact .kept id resource named held silent
        · next raw reported => exact .moved id resource raw named held reported
    · next unnamed =>
      unfold create
      dsimp only
      have status := Resource.rawStatus_withBody (.plain b.profile.id call.operation.kind ids.next.1
        (b.profile.createdStatus call.operation.kind)) call.payload.body
      have made := Lands.made (b := b) ids.next.1 ((Resource.plain b.profile.id call.operation.kind ids.next.1
        (b.profile.createdStatus call.operation.kind)).withBody call.payload.body) unnamed
      rw [status] at made
      exact made

theorem profile_land (b : SimulatedBackend) (call : Call) (ids : IdSource) :
    (b.land call ids).2.1.profile = b.profile := by
  have lands := b.lands call ids
  generalize (b.land call ids).1 = answer, (b.land call ids).2.1 = b' at lands ⊢
  cases lands <;> rfl

theorem latency_land (b : SimulatedBackend) (call : Call) (ids : IdSource) :
    (b.land call ids).2.1.latency = b.latency := by
  have lands := b.lands call ids
  generalize (b.land call ids).1 = answer, (b.land call ids).2.1 = b' at lands ⊢
  cases lands <;> rfl

/-- A call that goes wrong changes no resource. -/
theorem rawStatus?_of_error {b b' : SimulatedBackend} {call : Call} {e : BackendError}
    (h : Lands b call (.error e) b') (k : ResourceRef) : b'.rawStatus? k = b.rawStatus? k := by
  cases h
  rfl

/-- A call that goes well leaves the status of its receipt with the resource of its receipt, and touches no other. -/
theorem rawStatus?_of_ok {b b' : SimulatedBackend} {call : Call} {receipt : Receipt}
    (h : Lands b call (.ok receipt) b') (k : ResourceRef) :
    b'.rawStatus? k =
      if (⟨call.operation.kind, receipt.id⟩ : ResourceRef) = k then some receipt.rawStatus else b.rawStatus? k := by
  cases h with
  | kept id resource named held silent =>
    split
    · next same =>
      subst same
      simp [rawStatus?, held]
    · rfl
  | moved id resource raw named held reported =>
    rw [rawStatus?_put]
    rfl
  | made id resource unnamed => rw [rawStatus?_put]

/-- A call that names a resource is about that one, and leaves it in the status that the profile reports, if any. -/
theorem receipt_of_named {b b' : SimulatedBackend} {call : Call} {receipt : Receipt} {id : String}
    (h : Lands b call (.ok receipt) b') (named : call.resource = some id) :
    receipt.id = id ∧ ∀ raw, b.profile.reportedStatus? call.operation.action = some raw → receipt.rawStatus = raw := by
  cases h with
  | kept id' resource named' held silent =>
    obtain rfl : id' = id := Option.some.inj (named'.symm.trans named)
    exact ⟨rfl, fun raw reported => by rw [silent] at reported; cases reported⟩
  | moved id' resource raw named' held reported =>
    obtain rfl : id' = id := Option.some.inj (named'.symm.trans named)
    exact ⟨rfl, fun raw' reported' => Option.some.inj (reported.symm.trans reported')⟩
  | made id' resource unnamed =>
    rw [unnamed] at named
    cases named

end SimulatedBackend

/-! ## A park -/

namespace Registry

theorem get?_set (r : Registry) (id k : String) (b : Backend) :
    (r.set id b).get? k = if id = k then some b else r.get? k := by
  simp [set, get?, Std.ExtTreeMap.getElem?_insert]

theorem set_self {r : Registry} {id : String} {b : Backend} (h : r.get? id = some b) : r.set id b = r := by
  have same : (r.set id b).backends = r.backends := by
    apply Std.ExtTreeMap.ext_getElem?
    intro k
    have put := r.get?_set id k b
    split at put
    · next here =>
      subst here
      exact put.trans h.symm
    · exact put
  cases r
  exact congrArg mk same

/-- All backends are simulated, each under the id of its profile. -/
def Simulated (r : Registry) : Prop :=
  ∀ id b, r.get? id = some b → ∃ s : SimulatedBackend, b = .simulated s ∧ s.profile.id = id

theorem simulated_empty : empty.Simulated := by
  intro id b there
  simp [empty, get?] at there

theorem Simulated.set {r : Registry} (h : r.Simulated) {id : String} {b : SimulatedBackend} (own : b.profile.id = id) :
    (r.set id (.simulated b)).Simulated := by
  intro k backend there
  rw [get?_set] at there
  split at there
  · next here =>
    cases there
    exact ⟨b, rfl, own.trans here⟩
  · exact h k backend there

/-- All backends are simulated and have nothing in them yet, each under the id of its profile. -/
def New (r : Registry) : Prop :=
  ∀ id b, r.get? id = some b → ∃ profile : Profile, b = .simulated (.new profile) ∧ profile.id = id

theorem new_empty : empty.New := by
  intro id b there
  simp [empty, get?] at there

theorem New.set {r : Registry} (h : r.New) (profile : Profile) :
    (r.set profile.id (.simulated (.new profile))).New := by
  intro k b there
  rw [get?_set] at there
  split at there
  · next here =>
    cases there
    exact ⟨profile, rfl, here⟩
  · exact h k b there

theorem New.register {r r' : Registry} (h : r.New) {profile : Profile}
    (registered : r.register (.simulated (.new profile)) = .ok r') : r'.New := by
  unfold Registry.register at registered
  split at registered
  · cases registered
  · cases registered
    exact h.set profile

theorem New.simulated {r : Registry} (h : r.New) : r.Simulated := by
  intro id b there
  obtain ⟨profile, rfl, own⟩ := h id b there
  exact ⟨.new profile, rfl, own⟩

end Registry

namespace Park

/-- All backends are simulated, each under the id of its profile. -/
def Simulated (p : Park) : Prop := p.registry.Simulated

/-- The profile that the backend of an id plays. -/
def profile? (p : Park) (id : String) : Option Profile :=
  match p.registry.get? id with
  | some (.simulated b) => some b.profile
  | some (.scripted _) | none => none

/-- The status that the park holds for a resource, without a look that would move it on. -/
def rawStatus? (p : Park) (key : ResourceKey) : Option String :=
  (p.registry.get? key.backend).bind fun b => b.rawStatus? key.ref

/-- The park with a simulated backend put in the place of an id. -/
def put (p : Park) (id : String) (b : SimulatedBackend) : Park :=
  { p with registry := p.registry.set id (.simulated b) }

section

variable {p : Park} {id : String} {b b' : SimulatedBackend}

theorem get?_put (p : Park) (id k : String) (b : SimulatedBackend) :
    (p.put id b).registry.get? k = if id = k then some (.simulated b) else p.registry.get? k :=
  p.registry.get?_set id k (.simulated b)

theorem profile?_put (there : p.registry.get? id = some (.simulated b)) (same : b'.profile = b.profile) (k : String) :
    (p.put id b').profile? k = p.profile? k := by
  unfold profile?
  rw [get?_put]
  by_cases here : id = k
  · subst here
    rw [if_pos rfl, there]
    exact congrArg some same
  · rw [if_neg here]

/-- A park stays what it is, up to its resources. -/
structure Alike (p p' : Park) : Prop where
  simulated : p'.Simulated
  profile? : ∀ id, p'.profile? id = p.profile? id
  router : p'.router = p.router

theorem Simulated.alike (h : p.Simulated) : p.Alike p := ⟨h, fun _ => rfl, rfl⟩

theorem Simulated.alike_put (h : p.Simulated) (there : p.registry.get? id = some (.simulated b))
    (same : b'.profile = b.profile) : p.Alike (p.put id b') := by
  obtain ⟨s, held, own⟩ := h id _ there
  cases held
  exact ⟨h.set ((congrArg Profile.id same).trans own), profile?_put there same, rfl⟩

theorem rawStatus?_put (p : Park) (id : String) (b : SimulatedBackend) (key : ResourceKey) :
    (p.put id b).rawStatus? key = if id = key.backend then b.rawStatus? key.ref else p.rawStatus? key := by
  unfold rawStatus?
  rw [get?_put]
  split <;> rfl

theorem rawStatus?_of_get? (there : p.registry.get? id = some (.simulated b)) {key : ResourceKey}
    (own : id = key.backend) : p.rawStatus? key = b.rawStatus? key.ref := by
  subst own
  rw [rawStatus?, there]
  rfl

end

/-! ### Lookups -/

/-- The ways in which a lookup may go. -/
inductive Finds (p : Park) (key : ResourceKey) : BackendResult (Option Resource) → Park → Prop where
  | elsewhere (away : p.router.target? key.backend = some key.backend → p.registry.get? key.backend = none) :
      Finds p key (.ok none) p
  | looked (b : SimulatedBackend) (there : p.registry.get? key.backend = some (.simulated b))
      (own : b.profile.id = key.backend) (routed : p.router.target? key.backend = some key.backend) :
      Finds p key (.ok (b.find key.backend key.ref).1) (p.put key.backend (b.find key.backend key.ref).2)

theorem Simulated.finds {p : Park} (h : p.Simulated) (key : ResourceKey) : p.Finds key (p.find key).1 (p.find key).2 := by
  rcases routed : p.router.target? key.backend with _ | target
  · simp only [find, routed]
    refine .elsewhere fun here => ?_
    rw [routed] at here
    cases here
  · rcases there : p.registry.get? target with _ | backend
    · simp only [find, routed, atBackend, there]
      refine .elsewhere fun here => ?_
      rw [routed] at here
      cases here
      exact there
    · obtain ⟨b, rfl, own⟩ := h target backend there
      simp only [find, routed, atBackend, there]
      by_cases here : target = key.backend
      · subst here
        exact .looked b there own routed
      · have other : b.find key.backend key.ref = (none, b) := if_neg fun same => here (own.symm.trans same.symm)
        simp only [Backend.find, other, Registry.set_self there]
        refine .elsewhere fun here' => ?_
        rw [routed] at here'
        exact absurd (Option.some.inj here') here

section

variable {p p' : Park} {key : ResourceKey} {answer : BackendResult (Option Resource)}

/-- What a lookup shows is what the park holds, and then lookups go to the backend of the resource. -/
theorem Finds.held {resource : Resource} (h : p.Finds key (.ok (some resource)) p') :
    p.rawStatus? key = some resource.rawStatus ∧ p.router.target? key.backend = some key.backend := by
  generalize shown : (.ok (some resource) : BackendResult (Option Resource)) = answer at h
  cases h with
  | elsewhere => cases shown
  | looked b there own routed =>
    have found := b.rawStatus_found key.backend key.ref
    rw [← Except.ok.inj shown, if_pos own.symm] at found
    exact ⟨(rawStatus?_of_get? there rfl).trans found.symm, routed⟩

/-- Where lookups go to the backend of a resource, they show what the park holds. -/
theorem Finds.shown (h : p.Finds key answer p') (routed : p.router.target? key.backend = some key.backend) {raw : String}
    (held : p.rawStatus? key = some raw) : ∃ resource, answer = .ok (some resource) ∧ resource.rawStatus = raw := by
  cases h with
  | elsewhere away =>
    rw [rawStatus?, away routed] at held
    cases held
  | looked b there own _ =>
    have found := b.rawStatus_found key.backend key.ref
    rw [if_pos own.symm, ← rawStatus?_of_get? there rfl, held] at found
    obtain ⟨resource, shown, same⟩ := Option.map_eq_some_iff.mp found
    exact ⟨resource, congrArg _ shown, same⟩

theorem Finds.ne_error (h : p.Finds key answer p') (e : BackendError) : answer ≠ .error e := by
  cases h <;> exact nofun

/-- A look moves a resource on as its profile says, if it shows the resource at all. -/
theorem Finds.rawStatus? (h : p.Finds key answer p') (k : ResourceKey) :
    p'.rawStatus? k = p.rawStatus? k ∨
      ∃ profile raw, p.profile? k.backend = some profile ∧ p.rawStatus? k = some raw ∧
        p'.rawStatus? k = some ((profile.nextStatus? raw).getD raw) := by
  cases h with
  | elsewhere => exact .inl rfl
  | looked b there own routed =>
    rw [rawStatus?_put]
    split
    · next same =>
      rw [SimulatedBackend.rawStatus?_find, ← rawStatus?_of_get? there same]
      split
      · next here =>
        rcases held : p.rawStatus? k with _ | raw
        · exact .inl rfl
        · have plays : p.profile? k.backend = some b.profile := by rw [← same, profile?, there]
          exact .inr ⟨b.profile, raw, plays, rfl, rfl⟩
      · exact .inl rfl
    · exact .inl rfl

/-- A status from which the profile does not move on stays. -/
theorem Finds.kept (h : p.Finds key answer p') {k : ResourceKey} {profile : Profile} {raw : String}
    (plays : p.profile? k.backend = some profile) (still : profile.nextStatus? raw = none)
    (held : p.rawStatus? k = some raw) : p'.rawStatus? k = some raw := by
  rcases h.rawStatus? k with same | ⟨profile', raw', plays', held', moved⟩
  · exact same.trans held
  · obtain rfl : profile = profile' := Option.some.inj (plays.symm.trans plays')
    obtain rfl : raw = raw' := Option.some.inj (held.symm.trans held')
    rw [moved, still, Option.getD_none]

theorem Finds.alike (h : p.Finds key answer p') (simulated : p.Simulated) : p.Alike p' := by
  cases h with
  | elsewhere => exact simulated.alike
  | looked b there own routed => exact simulated.alike_put there (b.profile_find key.backend key.ref)

end

theorem Simulated.alike_find {p : Park} (h : p.Simulated) (key : ResourceKey) : p.Alike (p.find key).2 :=
  (h.finds key).alike h

/-! ### Calls -/

/-- A call on its way is the one that was sent off. -/
theorem call_launch (p : Park) (call : Call) : (p.launch call).1.2.call = call := by
  rcases there : p.registry.get? call.backend with _ | b
  · simp only [launch, atBackend, there, Option.getD_none]
  · cases b <;> simp only [launch, atBackend, there, Backend.launch, Option.getD_some]

/-- Sending a call off changes nothing yet. -/
theorem Simulated.launch {p : Park} (h : p.Simulated) (call : Call) : (p.launch call).2 = p := by
  rcases there : p.registry.get? call.backend with _ | backend
  · simp only [Park.launch, atBackend, there]
  · obtain ⟨b, rfl, _⟩ := h call.backend backend there
    simp only [Park.launch, atBackend, there, Backend.launch, Registry.set_self there]

/-- The ways in which a call may land. -/
inductive Lands (p : Park) (call : Call) : BackendResult Receipt → Park → Prop where
  | nobody (e : BackendError) : Lands p call (.error e) p
  | landed (b b' : SimulatedBackend) (answer : BackendResult Receipt) (ids : IdSource)
      (there : p.registry.get? call.backend = some (.simulated b)) (lands : b.Lands call answer b')
      (same : b'.profile = b.profile) : Lands p call answer { p.put call.backend b' with ids := ids }

theorem Simulated.lands {p : Park} (h : p.Simulated) (flight : Flight) :
    p.Lands flight.call (p.land flight).1 (p.land flight).2 := by
  rcases there : p.registry.get? flight.call.backend with _ | backend
  · simp only [land, there]
    exact .nobody _
  · obtain ⟨b, rfl, _⟩ := h flight.call.backend backend there
    simp only [land, there, Backend.land]
    exact .landed b _ _ _ there (b.lands flight.call p.ids) (b.profile_land flight.call p.ids)

section

variable {p p' : Park} {call : Call} {answer : BackendResult Receipt}

theorem Lands.alike (h : p.Lands call answer p') (simulated : p.Simulated) : p.Alike p' := by
  cases h with
  | nobody e => exact simulated.alike
  | landed b b' _ ids there lands same =>
    have alike := simulated.alike_put there same
    exact ⟨alike.simulated, alike.profile?, alike.router⟩

theorem Simulated.alike_land {p : Park} (h : p.Simulated) (flight : Flight) : p.Alike (p.land flight).2 :=
  (h.lands flight).alike h

/-- A call touches no resource but that of its receipt. -/
theorem Lands.untouched (h : p.Lands call answer p') {key : ResourceKey}
    (other : ∀ receipt, answer = .ok receipt → (⟨call.backend, call.operation.kind, receipt.id⟩ : ResourceKey) ≠ key) :
    p'.rawStatus? key = p.rawStatus? key := by
  cases h with
  | nobody e => rfl
  | landed b b' answer ids there lands same =>
    show (p.put call.backend b').rawStatus? key = p.rawStatus? key
    rw [rawStatus?_put]
    split
    · next here =>
      rw [rawStatus?_of_get? there here]
      cases answer with
      | error e => exact SimulatedBackend.rawStatus?_of_error lands key.ref
      | ok receipt =>
        rw [SimulatedBackend.rawStatus?_of_ok lands, if_neg]
        intro ref
        refine other receipt rfl ?_
        obtain ⟨_, kind, id⟩ := key
        cases here
        cases ref
        rfl
    · rfl

/-- A call that goes well leaves the status of its receipt with the resource of its receipt. -/
theorem Lands.rawStatus? {receipt : Receipt} (h : p.Lands call (.ok receipt) p') :
    p'.rawStatus? ⟨call.backend, call.operation.kind, receipt.id⟩ = some receipt.rawStatus := by
  generalize answered : (.ok receipt : BackendResult Receipt) = answer at h
  cases h with
  | nobody e => cases answered
  | landed b b' _ ids there lands same =>
    subst answered
    show (p.put call.backend b').rawStatus? _ = _
    rw [rawStatus?_put, if_pos rfl, SimulatedBackend.rawStatus?_of_ok lands]
    exact if_pos rfl

/-- A call that names a resource is about that one, and leaves it in the status that the profile reports, if any. -/
theorem Lands.receipt {receipt : Receipt} {id : String} (h : p.Lands call (.ok receipt) p')
    (named : call.resource = some id) :
    receipt.id = id ∧ ∀ profile raw, p.profile? call.backend = some profile →
      profile.reportedStatus? call.operation.action = some raw → receipt.rawStatus = raw := by
  generalize answered : (.ok receipt : BackendResult Receipt) = answer at h
  cases h with
  | nobody e => cases answered
  | landed b b' _ ids there lands same =>
    subst answered
    obtain ⟨same_id, reports⟩ := SimulatedBackend.receipt_of_named lands named
    refine ⟨same_id, fun profile raw plays reported => ?_⟩
    rw [profile?, there] at plays
    cases plays
    exact reports raw reported

end

/-! ### Parks that are mounted -/

theorem new_of_foldlM {profiles : List Profile} {r r' : Registry} (h : r.New)
    (registered : (profiles.map fun profile => Backend.simulated (.new profile)).foldlM Registry.register r = .ok r') :
    r'.New := by
  induction profiles generalizing r with
  | nil =>
    cases registered
    exact h
  | cons profile profiles ih =>
    rw [List.map_cons, List.foldlM_cons] at registered
    rcases first : r.register (.simulated (.new profile)) with e | r₁
    · rw [first] at registered
      cases registered
    · rw [first] at registered
      exact ih (h.register first) registered

/-- A park that is mounted has nothing but simulated backends, and nothing in them yet. -/
theorem new_of_mount {profiles : List Profile} {seed : Nat} {p : Park} (h : mount profiles seed = .ok p) :
    p.registry.New := by
  unfold mount ofBackends at h
  rcases registered : (profiles.map fun profile => Backend.simulated (.new profile)).foldlM Registry.register
    Registry.empty with e | registry
  · rw [registered] at h
    cases h
  · rw [registered] at h
    cases h
    exact new_of_foldlM Registry.new_empty registered

end Park

end CloudLifecycle
