import CloudLifecycle.Proofs.Backend.Stored

/-!
# Corners of a park

What a park of simulated backends has to do with one resource is its `Corner`: where lookups for its backend go, what
that backend is, and the resource itself. Besides the corners a park has planned failures, each under a backend and the
name of an operation, which belong to no resource.

1. A look at a resource is answered from its corner, and leaves the other corners and the failures alone (`find_corner`,
   `corner_find`, `failure?_find`).
2. A call about a resource is answered from its corner and the failure that it meets. It leaves the other corners alone,
   and no failure where it has met one (`land_corner`, `corner_land`, `failure?_land`).
3. A planned failure is in nobody's corner (`corner_plan`).
4. Parks with the same corners and failures are the same (`Park.eq_of_corners`).
-/

namespace CloudLifecycle

/-! ## One backend -/

namespace SimulatedBackend

theorem getElem?_insert_of_ne {resources : Std.ExtTreeMap ResourceRef Resource} {ref k : ResourceRef} (h : k ≠ ref)
    (resource : Resource) : (resources.insert ref resource)[k]? = resources[k]? := by
  rw [Std.ExtTreeMap.getElem?_insert, if_neg]
  rw [Std.LawfulEqCmp.compare_eq_iff_eq]
  exact Ne.symm h

theorem find_changes (b : SimulatedBackend) (backend : String) (ref : ResourceRef) :
    ∃ resources, (b.find backend ref).2 = { b with resources := resources } ∧
      ∀ k : ResourceRef, k ≠ ref → resources[k]? = b.resources[k]? := by
  unfold find
  split
  · split
    · exact ⟨b.resources, rfl, fun _ _ => rfl⟩
    · split
      · exact ⟨b.resources, rfl, fun _ _ => rfl⟩
      · exact ⟨_, rfl, fun k other => getElem?_insert_of_ne other _⟩
  · exact ⟨b.resources, rfl, fun _ _ => rfl⟩

theorem find_congr {b b' : SimulatedBackend} (backend : String) {ref : ResourceRef} (profile : b.profile = b'.profile)
    (held : b.resources[ref]? = b'.resources[ref]?) :
    (b.find backend ref).1 = (b'.find backend ref).1 ∧
      (b.find backend ref).2.resources[ref]? = (b'.find backend ref).2.resources[ref]? := by
  unfold find
  rw [profile, held]
  split
  · rcases found : b'.resources[ref]? with _ | resource
    · exact ⟨rfl, held⟩
    · dsimp only
      rcases b'.profile.nextStatus? resource.rawStatus with _ | next
      · exact ⟨rfl, held⟩
      · exact ⟨rfl, by simp⟩
  · exact ⟨rfl, held⟩

theorem invoke_changes (b : SimulatedBackend) (operation : Operation) (id : String) :
    ∃ resources, (b.invoke operation id).2 = { b with resources := resources } ∧
      ∀ k : ResourceRef, k ≠ ⟨operation.kind, id⟩ → resources[k]? = b.resources[k]? := by
  unfold invoke
  split
  · exact ⟨b.resources, rfl, fun _ _ => rfl⟩
  · split
    · exact ⟨b.resources, rfl, fun _ _ => rfl⟩
    · exact ⟨_, rfl, fun k other => getElem?_insert_of_ne other _⟩

theorem invoke_congr {b b' : SimulatedBackend} {operation : Operation} {id : String} (profile : b.profile = b'.profile)
    (held : b.resources[(⟨operation.kind, id⟩ : ResourceRef)]? = b'.resources[(⟨operation.kind, id⟩ : ResourceRef)]?) :
    (b.invoke operation id).1 = (b'.invoke operation id).1 ∧
      (b.invoke operation id).2.resources[(⟨operation.kind, id⟩ : ResourceRef)]? =
        (b'.invoke operation id).2.resources[(⟨operation.kind, id⟩ : ResourceRef)]? := by
  unfold invoke
  rw [profile, held]
  rcases found : b'.resources[(⟨operation.kind, id⟩ : ResourceRef)]? with _ | resource
  · exact ⟨rfl, held⟩
  · dsimp only
    rcases b'.profile.reportedStatus? operation.action with _ | raw
    · exact ⟨rfl, held⟩
    · exact ⟨rfl, by simp⟩

section

variable {call : Call} {id : String}

/-- A call about a resource changes that resource at most, and lifts the failure that it meets. -/
theorem land_changes (b : SimulatedBackend) (ids : IdSource) (named : call.resource = some id) :
    ∃ resources failures, (b.land call ids).2 = ({ b with resources := resources, failures := failures }, ids) ∧
      (∀ k : ResourceRef, k ≠ ⟨call.operation.kind, id⟩ → resources[k]? = b.resources[k]?) ∧
      ∀ operation : String, failures[operation]? =
        if call.operation.name = operation then none else b.failures[operation]? := by
  unfold land
  split
  · refine ⟨b.resources, _, rfl, fun _ _ => rfl, fun operation => ?_⟩
    rw [Std.ExtTreeMap.getElem?_erase]
    simp only [Std.LawfulEqCmp.compare_eq_iff_eq]
  · next unmet =>
    obtain ⟨resources, after, others⟩ := b.invoke_changes call.operation id
    simp only [named, after]
    refine ⟨resources, b.failures, rfl, others, fun operation => ?_⟩
    split
    · next same => rw [← same, unmet]
    · rfl

theorem land_congr {b b' : SimulatedBackend} (ids ids' : IdSource) (named : call.resource = some id)
    (profile : b.profile = b'.profile)
    (held : b.resources[(⟨call.operation.kind, id⟩ : ResourceRef)]? =
      b'.resources[(⟨call.operation.kind, id⟩ : ResourceRef)]?)
    (meets : b.failures[call.operation.name]? = b'.failures[call.operation.name]?) :
    (b.land call ids).1 = (b'.land call ids').1 ∧
      (b.land call ids).2.1.resources[(⟨call.operation.kind, id⟩ : ResourceRef)]? =
        (b'.land call ids').2.1.resources[(⟨call.operation.kind, id⟩ : ResourceRef)]? := by
  obtain ⟨answer, after⟩ := invoke_congr profile held
  unfold land
  rw [meets]
  split
  · exact ⟨rfl, held⟩
  · simp only [named]
    exact ⟨answer, after⟩

end

end SimulatedBackend

/-! ## The corners -/

/-- What a park has to do with one resource: where lookups for its backend go, and if that backend is there, its profile
and its latency and the resource itself. -/
structure Corner where
  target : Option String
  backend : Option (Profile × Duration × Option Resource)

namespace Park

/-- The part of a backend that is in the corner of one of its resources. -/
def cornerOf (ref : ResourceRef) : Backend → Option (Profile × Duration × Option Resource)
  | .simulated b => some (b.profile, b.latency, b.resources[ref]?)
  | .scripted _ => none

/-- The corner of a resource. -/
def corner (p : Park) (key : ResourceKey) : Corner :=
  ⟨p.router.target? key.backend, (p.registry.get? key.backend).bind (cornerOf key.ref)⟩

/-- The failure that a backend has planned for an operation. -/
def failure? (p : Park) (id operation : String) : Option BackendError :=
  match p.registry.get? id with
  | some (.simulated b) => b.failures[operation]?
  | some (.scripted _) | none => none

section

variable {p p' : Park} {key : ResourceKey} {id : String} {b b' : SimulatedBackend}

theorem corner_put (p : Park) (id : String) (b : SimulatedBackend) (key : ResourceKey) :
    (p.put id b).corner key =
      if id = key.backend then ⟨p.router.target? key.backend, some (b.profile, b.latency, b.resources[key.ref]?)⟩
      else p.corner key := by
  unfold corner
  rw [get?_put]
  split <;> rfl

theorem corner_of_get? (there : p.registry.get? key.backend = some (.simulated b)) :
    p.corner key = ⟨p.router.target? key.backend, some (b.profile, b.latency, b.resources[key.ref]?)⟩ := by
  rw [corner, there]
  rfl

theorem failure?_put (p : Park) (id : String) (b : SimulatedBackend) (k operation : String) :
    (p.put id b).failure? k operation = if id = k then b.failures[operation]? else p.failure? k operation := by
  unfold failure?
  rw [get?_put]
  by_cases own : id = k
  · rw [if_pos own, if_pos own]
  · rw [if_neg own, if_neg own]

theorem failure?_of_get? (there : p.registry.get? id = some (.simulated b)) (operation : String) :
    p.failure? id operation = b.failures[operation]? := by
  rw [failure?, there]

/-- Where nothing is in the backends yet, no failure is planned. -/
theorem failure?_of_new (h : p.registry.New) (id operation : String) : p.failure? id operation = none := by
  unfold failure?
  rcases there : p.registry.get? id with _ | backend
  · rfl
  · obtain ⟨profile, rfl, _⟩ := h _ _ there
    exact Std.ExtTreeMap.getElem?_empty

/-- A backend that changes in its resources alone leaves the corners of those that it does not change. -/
theorem corner_put_resources (there : p.registry.get? id = some (.simulated b))
    {resources : Std.ExtTreeMap ResourceRef Resource} {failures : Std.ExtTreeMap String BackendError}
    (kept : id = key.backend → resources[key.ref]? = b.resources[key.ref]?) :
    (p.put id { b with resources := resources, failures := failures }).corner key = p.corner key := by
  rw [corner_put]
  split
  · next own =>
    subst own
    rw [corner_of_get? there, kept rfl]
  · rfl

/-- Two parks with the same corner of a resource both have no backend for it, or both have one, and those are the same
as far as the resource goes. -/
theorem Simulated.both (h : p.Simulated) (h' : p'.Simulated) (same : p.corner key = p'.corner key) :
    p.registry.get? key.backend = none ∧ p'.registry.get? key.backend = none ∨
      ∃ b b' : SimulatedBackend, p.registry.get? key.backend = some (.simulated b) ∧
        p'.registry.get? key.backend = some (.simulated b') ∧ b.profile = b'.profile ∧ b.latency = b'.latency ∧
        b.resources[key.ref]? = b'.resources[key.ref]? := by
  have backends := congrArg Corner.backend same
  unfold corner at backends
  rcases there : p.registry.get? key.backend with _ | backend
  · rcases there' : p'.registry.get? key.backend with _ | backend'
    · exact .inl ⟨rfl, rfl⟩
    · obtain ⟨b', rfl, _⟩ := h' _ _ there'
      rw [there, there'] at backends
      cases backends
  · obtain ⟨b, rfl, _⟩ := h _ _ there
    rcases there' : p'.registry.get? key.backend with _ | backend'
    · rw [there, there'] at backends
      cases backends
    · obtain ⟨b', rfl, _⟩ := h' _ _ there'
      rw [there, there'] at backends
      simp only [Option.bind_some, cornerOf, Option.some.injEq, Prod.mk.injEq] at backends
      exact .inr ⟨b, b', rfl, rfl, backends.1, backends.2.1, backends.2.2⟩

end

/-! ### Lookups and declarations -/

section

variable {p p' : Park} {key : ResourceKey}

theorem capabilities_corner (h : p.Simulated) (h' : p'.Simulated) (same : p.corner key = p'.corner key) :
    Fleet.capabilities p key.backend = Fleet.capabilities p' key.backend := by
  show (p.registry.get? key.backend).map Backend.capabilities = (p'.registry.get? key.backend).map Backend.capabilities
  obtain ⟨there, there'⟩ | ⟨b, b', there, there', profile, _, _⟩ := h.both h' same
  · rw [there, there']
  · rw [there, there']
    exact congrArg (fun profile => some profile.capabilities) profile

/-- A look is answered from the corner of the resource, and so is what it makes of that. -/
theorem find_corner (h : p.Simulated) (h' : p'.Simulated) (same : p.corner key = p'.corner key) :
    (p.find key).1 = (p'.find key).1 ∧ (p.find key).2.corner key = (p'.find key).2.corner key := by
  have target : p.router.target? key.backend = p'.router.target? key.backend := congrArg Corner.target same
  have finds := h.finds key
  have finds' := h'.finds key
  generalize (p.find key).1 = answer, (p.find key).2 = q at finds ⊢
  generalize (p'.find key).1 = answer', (p'.find key).2 = q' at finds' ⊢
  cases finds with
  | elsewhere away =>
    cases finds' with
    | elsewhere _ => exact ⟨rfl, same⟩
    | looked b' there' _ routed' =>
      obtain ⟨_, absent'⟩ | ⟨b, _, there, _⟩ := h.both h' same
      · rw [absent'] at there'
        cases there'
      · rw [away (target.trans routed')] at there
        cases there
  | looked b there own routed =>
    obtain ⟨absent, _⟩ | ⟨c, c', held, held', profile, latency, resource⟩ := h.both h' same
    · rw [absent] at there
      cases there
    · obtain rfl : c = b := by rw [there] at held; cases held; rfl
      cases finds' with
      | elsewhere away' =>
        rw [away' (target.symm.trans routed)] at held'
        cases held'
      | looked b' there' _ _ =>
        obtain rfl : c' = b' := by rw [there'] at held'; cases held'; rfl
        obtain ⟨shown, moved⟩ := SimulatedBackend.find_congr key.backend profile resource
        obtain ⟨_, changed, _⟩ := c.find_changes key.backend key.ref
        obtain ⟨_, changed', _⟩ := c'.find_changes key.backend key.ref
        refine ⟨congrArg _ shown, ?_⟩
        rw [corner_put, corner_put, if_pos rfl, if_pos rfl, moved, c.profile_find, c'.profile_find, target, profile]
        rw [changed, changed']
        simp only [latency]

theorem corner_find (h : p.Simulated) {other : ResourceKey} (ne : other ≠ key) :
    (p.find key).2.corner other = p.corner other := by
  have finds := h.finds key
  generalize (p.find key).1 = answer, (p.find key).2 = q at finds ⊢
  cases finds with
  | elsewhere _ => rfl
  | looked b there _ _ =>
    obtain ⟨resources, changed, others⟩ := b.find_changes key.backend key.ref
    rw [changed]
    refine corner_put_resources there fun own => others _ fun ref => ne ?_
    cases key
    cases other
    cases own
    cases ref
    rfl

theorem failure?_find (h : p.Simulated) (key : ResourceKey) (id operation : String) :
    (p.find key).2.failure? id operation = p.failure? id operation := by
  have finds := h.finds key
  generalize (p.find key).1 = answer, (p.find key).2 = q at finds ⊢
  cases finds with
  | elsewhere _ => rfl
  | looked b there _ _ =>
    obtain ⟨resources, changed, _⟩ := b.find_changes key.backend key.ref
    rw [changed, failure?_put]
    split
    · next own =>
      subst own
      exact (failure?_of_get? there operation).symm
    · rfl

theorem ids_find (h : p.Simulated) (key : ResourceKey) : (p.find key).2.ids = p.ids := by
  have finds := h.finds key
  generalize (p.find key).1 = answer, (p.find key).2 = q at finds ⊢
  cases finds <;> rfl

theorem rawStatus?_corner (h : p.Simulated) (h' : p'.Simulated) (same : p.corner key = p'.corner key) :
    p.rawStatus? key = p'.rawStatus? key := by
  obtain ⟨absent, absent'⟩ | ⟨b, b', there, there', _, _, resource⟩ := h.both h' same
  · rw [rawStatus?, rawStatus?, absent, absent']
  · rw [rawStatus?_of_get? there rfl, rawStatus?_of_get? there' rfl, SimulatedBackend.rawStatus?,
      SimulatedBackend.rawStatus?, resource]

end

/-! ### Calls -/

section

variable {p p' : Park} {key : ResourceKey} {flight : Flight}

/-- How long a call takes, and what is on its way then, depends on its backend alone. -/
theorem launch_corner (h : p.Simulated) (h' : p'.Simulated) (same : p.corner key = p'.corner key) {call : Call}
    (own : call.backend = key.backend) : (p.launch call).1 = (p'.launch call).1 := by
  obtain ⟨absent, absent'⟩ | ⟨b, b', there, there', _, latency, _⟩ := h.both h' same
  · simp only [launch, atBackend, own, absent, absent']
  · simp only [launch, atBackend, own, there, there', Backend.launch, latency]

/-- What becomes of a park when a call about a resource lands. -/
theorem land_changes (h : p.Simulated) (about : flight.call.key? = some key) :
    p.registry.get? key.backend = none ∧ (p.land flight).2 = p ∨
      ∃ (b : SimulatedBackend) (resources : Std.ExtTreeMap ResourceRef Resource)
        (failures : Std.ExtTreeMap String BackendError), p.registry.get? key.backend = some (.simulated b) ∧
        p.land flight = ((b.land flight.call p.ids).1, p.put key.backend (b.land flight.call p.ids).2.1) ∧
        (b.land flight.call p.ids).2.1 = { b with resources := resources, failures := failures } ∧
        (∀ k : ResourceRef, k ≠ key.ref → resources[k]? = b.resources[k]?) ∧
        ∀ operation : String, failures[operation]? =
          if flight.call.operation.name = operation then none else b.failures[operation]? := by
  obtain ⟨id, named, rfl⟩ := Option.map_eq_some_iff.mp about
  rcases there : p.registry.get? flight.call.backend with _ | backend
  · exact .inl ⟨rfl, by simp only [land, there]⟩
  · obtain ⟨b, rfl, _⟩ := h _ _ there
    obtain ⟨resources, failures, changed, others, lifted⟩ := b.land_changes p.ids named
    refine .inr ⟨b, resources, failures, rfl, ?_, congrArg Prod.fst changed, others, lifted⟩
    simp only [land, there, Backend.land, changed]
    rfl

/-- A call about a resource is answered from its corner and the failure that it meets, and so is what it makes of that
corner. -/
theorem land_corner (h : p.Simulated) (h' : p'.Simulated) (same : p.corner key = p'.corner key)
    (about : flight.call.key? = some key)
    (meets : p.failure? key.backend flight.call.operation.name = p'.failure? key.backend flight.call.operation.name) :
    (p.land flight).1 = (p'.land flight).1 ∧ (p.land flight).2.corner key = (p'.land flight).2.corner key := by
  have target : p.router.target? key.backend = p'.router.target? key.backend := congrArg Corner.target same
  obtain ⟨absent, absent'⟩ | ⟨b, b', there, there', profile, latency, resource⟩ := h.both h' same
  · obtain ⟨id, named, rfl⟩ := Option.map_eq_some_iff.mp about
    simp only [land, absent, absent', true_and]
    exact same
  · obtain ⟨absent, _⟩ | ⟨c, resources, failures, held, landed, changed, _⟩ := land_changes h about
    · rw [absent] at there
      cases there
    obtain ⟨absent, _⟩ | ⟨c', resources', failures', held', landed', changed', _⟩ := land_changes h' about
    · rw [absent] at there'
      cases there'
    obtain rfl : c = b := by rw [there] at held; cases held; rfl
    obtain rfl : c' = b' := by rw [there'] at held'; cases held'; rfl
    rw [failure?_of_get? there, failure?_of_get? there'] at meets
    obtain ⟨id, named, rfl⟩ := Option.map_eq_some_iff.mp about
    obtain ⟨answer, moved⟩ := SimulatedBackend.land_congr p.ids p'.ids named profile resource meets
    rw [changed, changed'] at moved
    rw [landed, landed']
    refine ⟨answer, ?_⟩
    rw [corner_put, corner_put, if_pos rfl, if_pos rfl, target, changed, changed']
    simp only [profile, latency]
    exact congrArg (fun resource => Corner.mk _ (some (_, _, resource))) moved

theorem corner_land (h : p.Simulated) (about : flight.call.key? = some key) {other : ResourceKey} (ne : other ≠ key) :
    (p.land flight).2.corner other = p.corner other := by
  obtain ⟨_, kept⟩ | ⟨b, resources, failures, there, landed, changed, others, _⟩ := land_changes h about
  · rw [kept]
  · rw [landed, changed]
    refine corner_put_resources there fun own => others _ fun ref => ne ?_
    cases key
    cases other
    cases own
    cases ref
    rfl

theorem failure?_land (h : p.Simulated) (about : flight.call.key? = some key) (id operation : String) :
    (p.land flight).2.failure? id operation =
      if key.backend = id ∧ flight.call.operation.name = operation then none else p.failure? id operation := by
  obtain ⟨absent, kept⟩ | ⟨b, resources, failures, there, landed, changed, _, lifted⟩ := land_changes h about
  · rw [kept]
    split
    · next own => rw [← own.1, failure?, absent]
    · rfl
  · rw [landed, changed, failure?_put]
    by_cases own : key.backend = id
    · subst own
      simp only [true_and, if_true, lifted, failure?_of_get? there]
    · simp only [own, false_and, if_false]

theorem ids_land (h : p.Simulated) (about : flight.call.key? = some key) : (p.land flight).2.ids = p.ids := by
  obtain ⟨_, kept⟩ | ⟨b, resources, failures, there, landed, changed, _, lifted⟩ := land_changes h about
  · rw [kept]
  · rw [landed]
    rfl

end

/-! ### Planned failures -/

/-- The park with a failure planned for the next call of an operation to a backend. -/
def plan (p : Park) (id operation : String) (e : BackendError) : Park :=
  (p.atBackend id fun b =>
    ((), match b with
      | .simulated b => .simulated (b.failNext operation e)
      | .scripted b => .scripted b)).2

section

variable {p : Park} {id operation : String} {e : BackendError}

theorem plan_of_absent (absent : p.registry.get? id = none) : p.plan id operation e = p := by
  simp only [plan, atBackend, absent]

theorem plan_of_get? {b : SimulatedBackend} (there : p.registry.get? id = some (.simulated b)) :
    p.plan id operation e = p.put id (b.failNext operation e) := by
  simp only [plan, atBackend, there]
  rfl

theorem Simulated.alike_plan (h : p.Simulated) : p.Alike (p.plan id operation e) := by
  rcases there : p.registry.get? id with _ | backend
  · rw [plan_of_absent there]
    exact h.alike
  · obtain ⟨b, rfl, _⟩ := h _ _ there
    rw [plan_of_get? there]
    exact h.alike_put there rfl

theorem corner_plan (h : p.Simulated) (key : ResourceKey) : (p.plan id operation e).corner key = p.corner key := by
  rcases there : p.registry.get? id with _ | backend
  · rw [plan_of_absent there]
  · obtain ⟨b, rfl, _⟩ := h _ _ there
    rw [plan_of_get? there]
    exact corner_put_resources there fun _ => rfl

theorem isSome_profile? (h : p.Simulated) (k : String) : (p.profile? k).isSome = (p.registry.get? k).isSome := by
  unfold profile?
  rcases there : p.registry.get? k with _ | backend
  · rfl
  · obtain ⟨b, rfl, _⟩ := h _ _ there
    rfl

/-- A failure takes the place of any that was planned before, if there is such a backend. -/
theorem failure?_plan (h : p.Simulated) (k other : String) :
    (p.plan id operation e).failure? k other =
      if id = k ∧ operation = other ∧ (p.profile? id).isSome = true then some e else p.failure? k other := by
  rw [isSome_profile? h]
  rcases there : p.registry.get? id with _ | backend
  · rw [plan_of_absent there, if_neg]
    rintro ⟨_, _, absent⟩
    cases absent
  · obtain ⟨b, rfl, _⟩ := h _ _ there
    rw [plan_of_get? there, failure?_put, SimulatedBackend.failNext]
    by_cases own : id = k
    · subst own
      simp [Std.ExtTreeMap.getElem?_insert, failure?_of_get? there]
    · simp [own]

theorem ids_plan (h : p.Simulated) : (p.plan id operation e).ids = p.ids := by
  rcases there : p.registry.get? id with _ | backend
  · rw [plan_of_absent there]
  · obtain ⟨b, rfl, _⟩ := h _ _ there
    rw [plan_of_get? there]
    rfl

end

/-! ### The whole park -/

section

variable {p p' : Park}

/-- A backend is known by the corners of its resources and its planned failures. -/
theorem get?_of_corners (h : p.Simulated) (h' : p'.Simulated) {id : String}
    (corners : ∀ key : ResourceKey, key.backend = id → p.corner key = p'.corner key)
    (failures : ∀ operation, p.failure? id operation = p'.failure? id operation) :
    p.registry.get? id = p'.registry.get? id := by
  obtain ⟨absent, absent'⟩ | ⟨b, b', there, there', profile, latency, _⟩ :=
    h.both h' (corners ⟨id, .server, ""⟩ rfl)
  · exact absent.trans absent'.symm
  · have resources : b.resources = b'.resources := by
      refine Std.ExtTreeMap.ext_getElem? fun ref => ?_
      obtain ⟨absent, _⟩ | ⟨c, c', held, held', _, _, same⟩ := h.both h' (corners ⟨id, ref.kind, ref.id⟩ rfl)
      · rw [absent] at there
        cases there
      · rw [there] at held
        rw [there'] at held'
        cases held
        cases held'
        exact same
    have planned : b.failures = b'.failures := by
      refine Std.ExtTreeMap.ext_getElem? fun operation => ?_
      rw [← failure?_of_get? there, ← failure?_of_get? there']
      exact failures operation
    have whole : b = b' := by
      cases b
      cases b'
      cases profile
      cases latency
      cases resources
      cases planned
      rfl
    exact there.trans ((congrArg (fun b => some (Backend.simulated b)) whole).trans there'.symm)

/-- A park of simulated backends is known by its corners, its planned failures and its source of ids. -/
theorem eq_of_corners (h : p.Simulated) (h' : p'.Simulated) (corners : ∀ key, p.corner key = p'.corner key)
    (failures : ∀ id operation, p.failure? id operation = p'.failure? id operation) (ids : p.ids = p'.ids) : p = p' := by
  have routes : p.router.routes = p'.router.routes := by
    refine Std.ExtTreeMap.ext_getElem? fun id => ?_
    exact congrArg Corner.target (corners ⟨id, .server, ""⟩)
  have backends : p.registry.backends = p'.registry.backends := by
    refine Std.ExtTreeMap.ext_getElem? fun id => ?_
    exact get?_of_corners h h' (fun key _ => corners key) (failures id)
  obtain ⟨⟨_⟩, ⟨_⟩, _⟩ := p
  obtain ⟨⟨_⟩, ⟨_⟩, _⟩ := p'
  cases routes
  cases backends
  cases ids
  rfl

end

end Park

end CloudLifecycle
