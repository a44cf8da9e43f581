import CloudLifecycle.Proofs.Backend.Corners

/-!
# What lookups and failed calls leave

Besides the status of a resource (`Stored`) a park holds its identity and its attributes, and which failures are planned.

1. A lookup moves the resource that it shows on by one step of its profile's progressions, and leaves everything else
   (`Park.Looked`).
2. A call that fails leaves every resource as it is. If a failure was planned for its operation, then that is what the
   call fails with, and the only thing that is gone (`Park.Spared`).
-/

namespace CloudLifecycle

/-- The status that follows once a status has been seen. -/
def Profile.following (profile : Profile) (raw : String) : String := (profile.nextStatus? raw).getD raw

/-- The resource after a look, which shows it as it was before. -/
def Resource.movedOn (profile : Profile) (resource : Resource) : Resource :=
  resource.withStatus (profile.following resource.rawStatus)

/-- A key is known by its backend and the rest of it. -/
theorem ResourceKey.eq_of_ref {key key' : ResourceKey} (backend : key.backend = key'.backend)
    (ref : key.ref = key'.ref) : key = key' := by
  cases key
  cases key'
  cases backend
  cases ref
  rfl

namespace SimulatedBackend

section

variable (b : SimulatedBackend) (backend : String) (ref k : ResourceRef)

/-- A look shows the resource as the backend holds it, if it is the one that was meant. -/
theorem found_find : (b.find backend ref).1 = if backend = b.profile.id then b.resources[ref]? else none := by
  unfold find
  split
  · rcases b.resources[ref]? with _ | resource
    · rfl
    · dsimp only
      cases b.profile.nextStatus? resource.rawStatus <;> rfl
  · rfl

theorem resources_find :
    (b.find backend ref).2.resources[k]? =
      if backend = b.profile.id ∧ ref = k then b.resources[k]?.map (Resource.movedOn b.profile)
      else b.resources[k]? := by
  by_cases same : ref = k
  · subst same
    by_cases own : backend = b.profile.id
    · simp only [find, own, if_true, true_and]
      rcases held : b.resources[ref]? with _ | resource
      · exact held
      · rcases next : b.profile.nextStatus? resource.rawStatus with _ | raw
        · simp only [held, Option.map_some, Resource.movedOn, Profile.following, next, Option.getD_none]
          rfl
        · simp [Resource.movedOn, Profile.following, next]
    · simp only [find, own, if_false, false_and]
  · obtain ⟨resources, changed, others⟩ := b.find_changes backend ref
    rw [changed, if_neg fun h => same h.2]
    exact others k (Ne.symm same)

end

/-- A call that fails has met the failure planned for its operation, which is lifted, or has found no resource, and then
nothing has changed. -/
theorem land_of_error {b : SimulatedBackend} {call : Call} {ids : IdSource} {e : BackendError}
    (failed : (b.land call ids).1 = .error e) :
    (b.failures[call.operation.name]? = some e ∧
        (b.land call ids).2 = ({ b with failures := b.failures.erase call.operation.name }, ids)) ∨
      b.failures[call.operation.name]? = none ∧ (b.land call ids).2 = (b, ids) := by
  unfold land at failed ⊢
  split
  · next planned met =>
    simp only [met] at failed
    exact .inl ⟨met.trans (congrArg some (Except.error.inj failed)), rfl⟩
  · next unmet =>
    refine .inr ⟨unmet, ?_⟩
    simp only [unmet] at failed
    rcases named : call.resource with _ | id
    · simp only [named] at failed
      cases failed
    · simp only [named] at failed ⊢
      unfold invoke at failed ⊢
      split
      · rfl
      · next resource held =>
        simp only [held] at failed
        split at failed <;> cases failed

end SimulatedBackend

namespace Park

/-- The resource that the park holds under a key, without a look that would move it on. -/
def resource? (p : Park) (key : ResourceKey) : Option Resource :=
  (p.registry.get? key.backend).bind fun b => b.resources[key.ref]?

section

variable {p : Park} {id : String} {b : SimulatedBackend}

theorem resource?_put (p : Park) (id : String) (b : SimulatedBackend) (key : ResourceKey) :
    (p.put id b).resource? key = if id = key.backend then b.resources[key.ref]? else p.resource? key := by
  unfold resource?
  rw [get?_put]
  split <;> rfl

theorem resource?_of_get? {key : ResourceKey} (there : p.registry.get? key.backend = some (.simulated b)) :
    p.resource? key = b.resources[key.ref]? := by
  rw [resource?, there]
  rfl

end

/-- What a lookup of `key` that shows `found` makes of a park. The resource that was shown moves on by the one step that
its profile has for its status, and keeps its identity and its attributes. -/
structure Looked (p : Park) (key : ResourceKey) (found : Option Resource) (p' : Park) : Prop where
  shown : ∀ resource, found = some resource → p.resource? key = some resource ∧
    ∃ profile, p.profile? key.backend = some profile ∧ p'.resource? key = some (resource.movedOn profile)
  unseen : found = none → p'.resource? key = p.resource? key
  others : ∀ k, k ≠ key → p'.resource? k = p.resource? k
  failures : ∀ id operation, p'.failure? id operation = p.failure? id operation
  ids : p'.ids = p.ids
  alike : p.Alike p'

/-- What a call of an operation to a backend that fails with `e` makes of a park. -/
structure Spared (p : Park) (backend operation : String) (e : BackendError) (p' : Park) : Prop where
  resources : ∀ k, p'.resource? k = p.resource? k
  met : ∀ planned, p.failure? backend operation = some planned → planned = e
  failures : ∀ id name, p'.failure? id name = if backend = id ∧ operation = name then none else p.failure? id name
  ids : p'.ids = p.ids
  alike : p.Alike p'

namespace Simulated

variable {p : Park}

theorem looked (h : p.Simulated) (key : ResourceKey) :
    ∃ found, (p.find key).1 = .ok found ∧ p.Looked key found (p.find key).2 := by
  have failures := failure?_find h key
  have ids := ids_find h key
  have alike := h.alike_find key
  have finds := h.finds key
  generalize (p.find key).1 = answer, (p.find key).2 = p' at finds failures ids alike ⊢
  cases finds with
  | elsewhere _ => exact ⟨none, rfl, nofun, fun _ => rfl, fun _ _ => rfl, failures, ids, alike⟩
  | looked b there own routed =>
    have held (k : ResourceKey) : (p.put key.backend (b.find key.backend key.ref).2).resource? k =
        if k = key then (p.resource? key).map (Resource.movedOn b.profile) else p.resource? k := by
      rw [resource?_put]
      by_cases same : k = key
      · subst same
        rw [if_pos rfl, if_pos rfl, b.resources_find, if_pos ⟨own.symm, rfl⟩, resource?_of_get? there]
      · rw [if_neg same]
        split
        · next here =>
          rw [b.resources_find, if_neg fun h => same (ResourceKey.eq_of_ref here.symm h.2.symm),
            resource?_of_get? (here ▸ there)]
        · rfl
    have shows : (b.find key.backend key.ref).1 = p.resource? key := by
      rw [b.found_find, if_pos own.symm, resource?_of_get? there]
    refine ⟨_, rfl, ?_, ?_, fun k other => (held k).trans (if_neg other), failures, ids, alike⟩
    · intro resource found
      have there' : p.resource? key = some resource := shows.symm.trans found
      refine ⟨there', b.profile, by rw [profile?, there], ?_⟩
      rw [held, if_pos rfl, there']
      rfl
    · intro unseen
      have absent : p.resource? key = none := shows.symm.trans unseen
      rw [held, if_pos rfl, absent]
      rfl

/-- Where no failure was planned, none is lifted. -/
theorem spared_self (h : p.Simulated) {backend operation : String} (e : BackendError)
    (unmet : p.failure? backend operation = none) : p.Spared backend operation e p where
  resources := fun _ => rfl
  met := fun planned met => by
    rw [unmet] at met
    cases met
  failures := fun id name => by
    split
    · next same => rw [← same.1, ← same.2, unmet]
    · rfl
  ids := rfl
  alike := h.alike

theorem spared_lifted (h : p.Simulated) {backend operation : String} {e : BackendError} {b : SimulatedBackend}
    (there : p.registry.get? backend = some (.simulated b)) (met : b.failures[operation]? = some e) :
    p.Spared backend operation e (p.put backend { b with failures := b.failures.erase operation }) where
  resources := fun k => by
    rw [resource?_put]
    split
    · next here =>
      subst here
      exact (resource?_of_get? there).symm
    · rfl
  met := fun planned met' => by
    rw [failure?_of_get? there, met] at met'
    exact (Option.some.inj met').symm
  failures := fun id name => by
    rw [failure?_put]
    by_cases here : backend = id
    · subst here
      rw [if_pos rfl, failure?_of_get? there, Std.ExtTreeMap.getElem?_erase]
      simp only [Std.LawfulEqCmp.compare_eq_iff_eq, true_and]
    · rw [if_neg here, if_neg fun same => here same.1]
  ids := rfl
  alike := h.alike_put there rfl

theorem spared (h : p.Simulated) {flight : Flight} {e : BackendError} (failed : (p.land flight).1 = .error e) :
    p.Spared flight.call.backend flight.call.operation.name e (p.land flight).2 := by
  rcases there : p.registry.get? flight.call.backend with _ | backend
  · have kept : (p.land flight).2 = p := by simp only [land, there]
    rw [kept]
    exact h.spared_self e (by rw [failure?, there])
  · obtain ⟨b, rfl, _⟩ := h _ _ there
    have landed : p.land flight = ((b.land flight.call p.ids).1,
        { p.put flight.call.backend (b.land flight.call p.ids).2.1 with ids := (b.land flight.call p.ids).2.2 }) := by
      simp only [land, there, Backend.land]
      rfl
    rw [landed] at failed ⊢
    obtain ⟨met, struck⟩ | ⟨unmet, kept⟩ := SimulatedBackend.land_of_error failed
    · rw [struck]
      exact h.spared_lifted there met
    · have same : p.put flight.call.backend b = p := by rw [put, Registry.set_self there]
      rw [kept, same]
      exact h.spared_self e ((failure?_of_get? there _).trans unmet)

end Simulated

end Park

end CloudLifecycle
