import CloudLifecycle.Proofs.Backend.Stored
import Mathlib.Data.Set.Basic

/-!
# What backends make of a body

Of all that a call carries, simulated backends keep the members of the body of a request for a new resource, as the
attributes of that resource. Nothing that they do depends on attributes.

Two parks are the same but for the attributes of some resources (`Park.SameBut`) as long as they answer alike and stay
so: lookups and calls keep this (`Park.SameBut.find`, `Park.SameBut.land`), where a new resource must be among those if
it is made from different bodies. If there are none, the parks are the same (`Park.SameBut.eq`).
-/

namespace CloudLifecycle

/-! ## Resources -/

namespace Resource

/-- The resource without its attributes. -/
def bare (r : Resource) : Resource := { r with attributes := ∅ }

theorem bare_withBody (r : Resource) (body : Json) : (r.withBody body).bare = r.bare := by
  cases body with
  | obj members =>
    unfold withBody
    induction members generalizing r with
    | nil => rfl
    | cons m members ih => exact ih (r.withAttribute m.1 m.2)
  | _ => rfl

theorem bare_withStatus {r r' : Resource} (same : r.bare = r'.bare) (raw : String) :
    (r.withStatus raw).bare = (r'.withStatus raw).bare :=
  congrArg (fun r : Resource => { r with rawStatus := raw }) same

theorem rawStatus_of_bare {r r' : Resource} (same : r.bare = r'.bare) : r.rawStatus = r'.rawStatus := by
  have status := congrArg Resource.rawStatus same
  exact status

end Resource

/-! ## One backend -/

namespace SimulatedBackend

/-- Two backends are the same but for the attributes of some resources. -/
structure SameBut (K : Set ResourceRef) (b b' : SimulatedBackend) : Prop where
  profile : b.profile = b'.profile
  latency : b.latency = b'.latency
  failures : b.failures = b'.failures
  bare : ∀ ref : ResourceRef, b.resources[ref]?.map Resource.bare = b'.resources[ref]?.map Resource.bare
  whole : ∀ ref : ResourceRef, ref ∉ K → b.resources[ref]? = b'.resources[ref]?

namespace SameBut

variable {K : Set ResourceRef} {b b' : SimulatedBackend}

/-- A resource is in both backends, or in neither. -/
theorem held (h : b.SameBut K b') (ref : ResourceRef) :
    b.resources[ref]? = none ∧ b'.resources[ref]? = none ∨
      ∃ r r', b.resources[ref]? = some r ∧ b'.resources[ref]? = some r' ∧ r.bare = r'.bare ∧ (ref ∉ K → r = r') := by
  have bare := h.bare ref
  have whole := h.whole ref
  rcases there : b.resources[ref]? with _ | r
  · rw [there] at bare
    exact .inl ⟨rfl, Option.map_eq_none_iff.mp bare.symm⟩
  · rw [there] at bare whole
    obtain ⟨r', there', same⟩ := Option.map_eq_some_iff.mp bare.symm
    refine .inr ⟨r, r', rfl, there', same.symm, fun outside => ?_⟩
    exact Option.some.inj ((whole outside).trans there')

theorem insert (h : b.SameBut K b') (ref : ResourceRef) {r r' : Resource} (bare : r.bare = r'.bare)
    (whole : ref ∉ K → r = r') :
    SameBut K { b with resources := b.resources.insert ref r } { b' with resources := b'.resources.insert ref r' } where
  profile := h.profile
  latency := h.latency
  failures := h.failures
  bare := by
    intro k
    simp only [Std.ExtTreeMap.getElem?_insert]
    split
    · exact congrArg some bare
    · exact h.bare k
  whole := by
    intro k outside
    simp only [Std.ExtTreeMap.getElem?_insert, Std.LawfulEqCmp.compare_eq_iff_eq]
    split
    · next here =>
      subst here
      rw [whole outside]
    · exact h.whole k outside

theorem find (h : b.SameBut K b') (backend : String) (ref : ResourceRef) :
    (b.find backend ref).1.map Resource.bare = (b'.find backend ref).1.map Resource.bare ∧
      (b.find backend ref).2.SameBut K (b'.find backend ref).2 := by
  have same_id : b'.profile.id = b.profile.id := congrArg Profile.id h.profile.symm
  have same_next (raw : String) : b'.profile.nextStatus? raw = b.profile.nextStatus? raw := by rw [h.profile]
  unfold SimulatedBackend.find
  rw [same_id]
  split
  · obtain ⟨absent, absent'⟩ | ⟨r, r', there, there', bare, whole⟩ := h.held ref
    · rw [absent, absent']
      exact ⟨rfl, h⟩
    · rw [there, there']
      dsimp only
      rw [same_next, Resource.rawStatus_of_bare bare]
      split
      · exact ⟨congrArg some bare, h⟩
      · next next _ =>
        exact ⟨congrArg some bare, h.insert ref (Resource.bare_withStatus bare next) fun outside => by rw [whole outside]⟩
  · exact ⟨rfl, h⟩

theorem invoke (h : b.SameBut K b') (operation : Operation) (id : String) :
    (b.invoke operation id).1 = (b'.invoke operation id).1 ∧
      (b.invoke operation id).2.SameBut K (b'.invoke operation id).2 := by
  have same_report : b'.profile.reportedStatus? operation.action = b.profile.reportedStatus? operation.action := by
    rw [h.profile]
  unfold SimulatedBackend.invoke
  obtain ⟨absent, absent'⟩ | ⟨r, r', there, there', bare, whole⟩ := h.held ⟨operation.kind, id⟩
  · rw [absent, absent']
    exact ⟨rfl, h⟩
  · rw [there, there']
    dsimp only
    rw [same_report, Resource.rawStatus_of_bare bare]
    split
    · exact ⟨rfl, h⟩
    · next raw _ =>
      exact ⟨rfl, h.insert _ (Resource.bare_withStatus bare raw) fun outside => by rw [whole outside]⟩

/-- A new resource has the attributes that the body says, so it may differ where the bodies do. -/
theorem create (h : b.SameBut K b') (kind : ResourceKind) (id : String) {body body' : Json}
    (differs : body ≠ body' → (⟨kind, id⟩ : ResourceRef) ∈ K) :
    (b.create kind id body).1 = (b'.create kind id body').1 ∧
      (b.create kind id body).2.SameBut K (b'.create kind id body').2 := by
  have same_raw : b'.profile.createdStatus kind = b.profile.createdStatus kind := by rw [h.profile]
  have same_id : b'.profile.id = b.profile.id := by rw [h.profile]
  unfold SimulatedBackend.create
  dsimp only
  rw [same_raw, same_id]
  refine ⟨rfl, h.insert _ ?_ fun outside => ?_⟩
  · rw [Resource.bare_withBody, Resource.bare_withBody]
  · rw [not_ne_iff.mp fun ne => outside (differs ne)]

/-- A call is answered alike whatever payload it has. -/
theorem land (h : b.SameBut K b') {call call' : Call} (operation : call.operation = call'.operation)
    (resource : call.resource = call'.resource) (ids : IdSource)
    (differs : call.resource = none → call.payload.body ≠ call'.payload.body → ∀ receipt,
      (b.land call ids).1 = .ok receipt → (⟨call.operation.kind, receipt.id⟩ : ResourceRef) ∈ K) :
    (b.land call ids).1 = (b'.land call' ids).1 ∧ (b.land call ids).2.2 = (b'.land call' ids).2.2 ∧
      (b.land call ids).2.1.SameBut K (b'.land call' ids).2.1 := by
  have same_failures : b'.failures = b.failures := h.failures.symm
  revert differs
  unfold SimulatedBackend.land
  rw [← operation, ← resource, same_failures]
  rcases b.failures[call.operation.name]? with _ | e
  · rcases call.resource with _ | id
    · rcases ids.next with ⟨id, rest⟩
      intro differs
      have fresh (ne : call.payload.body ≠ call'.payload.body) : (⟨call.operation.kind, id⟩ : ResourceRef) ∈ K :=
        differs rfl ne ⟨id, b.profile.createdStatus call.operation.kind⟩ rfl
      have created := h.create call.operation.kind id fresh
      exact ⟨congrArg Except.ok created.1, rfl, created.2⟩
    · intro _
      have invoked := h.invoke call.operation id
      exact ⟨invoked.1, rfl, invoked.2⟩
  · intro _
    exact ⟨rfl, rfl, h.profile, h.latency, rfl, h.bare, h.whole⟩

end SameBut

end SimulatedBackend

/-! ## A park -/

namespace Park

/-- Two parks of simulated backends are the same but for the attributes of some resources. -/
structure SameBut (K : Set ResourceKey) (p p' : Park) : Prop where
  ids : p.ids = p'.ids
  router : p.router = p'.router
  backends : ∀ id, p.registry.get? id = none ∧ p'.registry.get? id = none ∨
    ∃ b b', p.registry.get? id = some (.simulated b) ∧ p'.registry.get? id = some (.simulated b') ∧ b.profile.id = id ∧
      b.SameBut {ref | (⟨id, ref.kind, ref.id⟩ : ResourceKey) ∈ K} b'

theorem Simulated.sameBut {p : Park} (h : p.Simulated) (K : Set ResourceKey) : p.SameBut K p where
  ids := rfl
  router := rfl
  backends := by
    intro id
    rcases there : p.registry.get? id with _ | backend
    · exact .inl ⟨rfl, rfl⟩
    · obtain ⟨b, rfl, own⟩ := h id backend there
      exact .inr ⟨b, b, rfl, rfl, own, rfl, rfl, rfl, fun _ => rfl, fun _ _ => rfl⟩

namespace SameBut

variable {K : Set ResourceKey} {p p' : Park}

theorem simulated (h : p.SameBut K p') : p.Simulated ∧ p'.Simulated := by
  constructor
  · intro id backend there
    obtain ⟨absent, _⟩ | ⟨b, _, held, _, own, _⟩ := h.backends id
    · rw [absent] at there
      cases there
    · exact ⟨b, Option.some.inj (there.symm.trans held), own⟩
  · intro id backend there
    obtain ⟨_, absent⟩ | ⟨b, b', _, held, own, same⟩ := h.backends id
    · rw [absent] at there
      cases there
    · exact ⟨b', Option.some.inj (there.symm.trans held), same.profile ▸ own⟩

theorem mono (h : p.SameBut K p') {K' : Set ResourceKey} (sub : K ⊆ K') : p.SameBut K' p' where
  ids := h.ids
  router := h.router
  backends := by
    intro id
    obtain absent | ⟨b, b', there, there', own, same⟩ := h.backends id
    · exact .inl absent
    · refine .inr ⟨b, b', there, there', own, same.profile, same.latency, same.failures, same.bare, ?_⟩
      exact fun ref outside => same.whole ref fun inside => outside (sub inside)

/-- Parks that are the same but for the attributes of no resource are the same. -/
theorem eq (h : p.SameBut ∅ p') : p = p' := by
  have registry : p.registry.backends = p'.registry.backends := by
    apply Std.ExtTreeMap.ext_getElem?
    intro id
    obtain ⟨absent, absent'⟩ | ⟨b, b', there, there', own, same⟩ := h.backends id
    · exact absent.trans absent'.symm
    · have resources : b.resources = b'.resources := Std.ExtTreeMap.ext_getElem? fun ref => same.whole ref (Set.notMem_empty _)
      obtain ⟨profile, latency, failures, _, _⟩ := same
      cases b
      cases b'
      cases profile
      cases latency
      cases failures
      cases resources
      exact there.trans there'.symm
  obtain ⟨⟨_⟩, _, _⟩ := p
  obtain ⟨⟨_⟩, _, _⟩ := p'
  cases registry
  cases h.ids
  cases h.router
  rfl

theorem capabilities (h : p.SameBut K p') (id : String) : Fleet.capabilities p id = Fleet.capabilities p' id := by
  show (p.registry.get? id).map Backend.capabilities = (p'.registry.get? id).map Backend.capabilities
  obtain ⟨absent, absent'⟩ | ⟨b, b', there, there', own, same⟩ := h.backends id
  · rw [absent, absent']
  · rw [there, there']
    exact congrArg (fun profile : Profile => some profile.capabilities) same.profile

theorem put (h : p.SameBut K p') {id : String} {b b' : SimulatedBackend} (own : b.profile.id = id)
    (same : b.SameBut {ref | (⟨id, ref.kind, ref.id⟩ : ResourceKey) ∈ K} b') : (p.put id b).SameBut K (p'.put id b') where
  ids := h.ids
  router := h.router
  backends := by
    intro k
    rw [get?_put, get?_put]
    split
    · next here =>
      subst here
      exact .inr ⟨b, b', rfl, rfl, own, same⟩
    · exact h.backends k

theorem find (h : p.SameBut K p') (key : ResourceKey) :
    (p.find key).1.map (Option.map Resource.bare) = (p'.find key).1.map (Option.map Resource.bare) ∧
      (p.find key).2.SameBut K (p'.find key).2 := by
  unfold Park.find
  rw [← h.router]
  rcases p.router.target? key.backend with _ | target
  · exact ⟨rfl, h⟩
  · obtain ⟨absent, absent'⟩ | ⟨b, b', there, there', own, same⟩ := h.backends target
    · simp only [atBackend, absent, absent', true_and]
      exact h
    · obtain ⟨shown, after⟩ := same.find key.backend key.ref
      have kept := (congrArg Profile.id (b.profile_find key.backend key.ref)).trans own
      simp only [atBackend, there, there', Backend.find]
      exact ⟨congrArg Except.ok shown, h.put kept after⟩

/-- A call is on its way for as long, and sending it off changes nothing yet. -/
theorem launch (h : p.SameBut K p') {call call' : Call} (backend : call.backend = call'.backend) :
    (p.launch call).1.1 = (p'.launch call').1.1 ∧ (p.launch call).1.2 = ⟨call, none⟩ ∧
      (p'.launch call').1.2 = ⟨call', none⟩ ∧ (p.launch call).2.SameBut K (p'.launch call').2 := by
  unfold Park.launch
  rw [← backend]
  obtain ⟨absent, absent'⟩ | ⟨b, b', there, there', own, same⟩ := h.backends call.backend
  · simp only [atBackend, absent, absent']
    exact ⟨rfl, rfl, rfl, h⟩
  · simp only [atBackend, there, there', Backend.launch, Registry.set_self there, Registry.set_self there']
    exact ⟨same.latency, rfl, rfl, h⟩

/-- A call is answered alike whatever payload it has. -/
theorem land (h : p.SameBut K p') {call call' : Call} (backend : call.backend = call'.backend)
    (operation : call.operation = call'.operation) (resource : call.resource = call'.resource)
    (differs : call.resource = none → call.payload.body ≠ call'.payload.body → ∀ receipt,
      (p.land ⟨call, none⟩).1 = .ok receipt → (⟨call.backend, call.operation.kind, receipt.id⟩ : ResourceKey) ∈ K) :
    (p.land ⟨call, none⟩).1 = (p'.land ⟨call', none⟩).1 ∧
      (p.land ⟨call, none⟩).2.SameBut K (p'.land ⟨call', none⟩).2 := by
  revert differs
  unfold Park.land
  dsimp only
  rw [← backend]
  obtain ⟨absent, absent'⟩ | ⟨b, b', there, there', own, same⟩ := h.backends call.backend
  · intro _
    simp only [absent, absent', true_and]
    exact h
  · simp only [there, there', Backend.land, ← h.ids]
    intro differs
    obtain ⟨answer, ids, after⟩ := same.land operation resource p.ids differs
    have put := h.put ((congrArg Profile.id (b.profile_land call p.ids)).trans own) after
    exact ⟨answer, ids, put.router, put.backends⟩

end SameBut

end Park

end CloudLifecycle
