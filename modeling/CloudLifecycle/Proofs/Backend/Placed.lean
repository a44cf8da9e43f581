import CloudLifecycle.Proofs.Backend.Spared

/-!
# A resource in its place

A park holds a resource in its place if lookups find it there: at a simulated backend that plays a profile, to which its
lookups are routed (`Park.Holds`). A look, a call about the resource and the call that makes it all leave it there, under
the status that the profile says. A backend that plans no failure keeps the resource through all of that (`Park.Keeps`).
-/

namespace CloudLifecycle

/-- An action on a resource that the backend has goes well, and leaves it under the status that the profile reports, if it
reports one. -/
theorem SimulatedBackend.invoke_held {b : SimulatedBackend} {operation : Operation} {id : String} {resource : Resource}
    (held : b.resources[(⟨operation.kind, id⟩ : ResourceRef)]? = some resource) :
    ∃ receipt resources, b.invoke operation id = (.ok receipt, { b with resources := resources }) ∧
      resources[(⟨operation.kind, id⟩ : ResourceRef)]? =
        some (resource.withStatus ((b.profile.reportedStatus? operation.action).getD resource.rawStatus)) := by
  rcases reported : b.profile.reportedStatus? operation.action with _ | raw
  · exact ⟨⟨id, resource.rawStatus⟩, b.resources, by simp only [invoke, held, reported], held⟩
  · refine ⟨⟨id, raw⟩, b.resources.insert ⟨operation.kind, id⟩ (resource.withStatus raw), ?_, ?_⟩
    · simp only [invoke, held, reported]
    · exact Std.ExtTreeMap.getElem?_insert_self

namespace Park

/-- The park holds a resource where lookups find it, at a backend with a profile and a latency. -/
def Holds (p : Park) (key : ResourceKey) (profile : Profile) (latency : Duration) (resource : Resource) : Prop :=
  p.corner key = ⟨some key.backend, some (profile, latency, some resource)⟩

section

variable {p : Park} {key : ResourceKey} {profile : Profile} {latency : Duration} {resource : Resource}

theorem holds_iff :
    p.Holds key profile latency resource ↔ ∃ b : SimulatedBackend, p.registry.get? key.backend = some (.simulated b) ∧
      p.router.target? key.backend = some key.backend ∧ b.profile = profile ∧ b.latency = latency ∧
        b.resources[key.ref]? = some resource := by
  unfold Holds corner
  rw [Corner.mk.injEq]
  constructor
  · rintro ⟨routed, backend⟩
    obtain ⟨b, there, corner⟩ := Option.bind_eq_some_iff.mp backend
    cases b with
    | simulated b =>
      simp only [cornerOf, Option.some.injEq, Prod.mk.injEq] at corner
      exact ⟨b, there, routed, corner⟩
    | scripted b => cases corner
  · rintro ⟨b, there, routed, rfl, rfl, held⟩
    rw [there]
    exact ⟨routed, congrArg (fun r => some (_, _, r)) held⟩

/-- The resource of a backend that is put in the place of one to which lookups are routed. -/
theorem holds_put {b : SimulatedBackend} (routed : p.router.target? key.backend = some key.backend)
    (held : b.resources[key.ref]? = some resource) : (p.put key.backend b).Holds key b.profile b.latency resource := by
  unfold Holds
  rw [corner_put, if_pos rfl, routed, held]

namespace Holds

theorem rawStatus? (h : p.Holds key profile latency resource) : p.rawStatus? key = some resource.rawStatus := by
  obtain ⟨b, there, _, _, _, held⟩ := holds_iff.mp h
  rw [rawStatus?_of_get? there rfl, SimulatedBackend.rawStatus?, held]
  rfl

theorem supports (h : p.Holds key profile latency resource) (name : String) :
    Fleet.supports p key.backend name = profile.capabilities.contains name := by
  obtain ⟨b, there, _, rfl, _⟩ := holds_iff.mp h
  have declared : Fleet.capabilities p key.backend = some b.profile.capabilities :=
    congrArg (Option.map Backend.capabilities) there
  rw [Fleet.supports, declared]

/-- A look shows the resource, and moves it on. -/
theorem find (simulated : p.Simulated) (h : p.Holds key profile latency resource) :
    (p.find key).1 = .ok (some resource) ∧ (p.find key).2.Holds key profile latency (resource.movedOn profile) := by
  obtain ⟨b, there, routed, rfl, rfl, held⟩ := holds_iff.mp h
  have finds := simulated.finds key
  generalize (p.find key).1 = answer, (p.find key).2 = p' at finds ⊢
  cases finds with
  | elsewhere away =>
    rw [away routed] at there
    cases there
  | looked b' there' own _ =>
    rw [there'] at there
    cases there
    obtain ⟨resources, changed, _⟩ := b.find_changes key.backend key.ref
    have moved := b.resources_find key.backend key.ref key.ref
    rw [if_pos ⟨own.symm, rfl⟩, held] at moved
    rw [b.found_find, if_pos own.symm, held]
    rw [changed] at moved ⊢
    exact ⟨rfl, holds_put routed moved⟩

/-- A call about the resource that meets no failure goes well. -/
theorem land (h : p.Holds key profile latency resource) {flight : Flight} (about : flight.call.key? = some key)
    (unmet : p.failure? key.backend flight.call.operation.name = none) :
    (∃ receipt, (p.land flight).1 = .ok receipt) ∧
      (p.land flight).2.Holds key profile latency
        (resource.withStatus ((profile.reportedStatus? flight.call.operation.action).getD resource.rawStatus)) := by
  obtain ⟨b, there, routed, rfl, rfl, held⟩ := holds_iff.mp h
  obtain ⟨id, named, rfl⟩ := Option.map_eq_some_iff.mp about
  rw [failure?_of_get? there] at unmet
  have landed : p.land flight = ((b.invoke flight.call.operation id).1,
      p.put flight.call.backend (b.invoke flight.call.operation id).2) := by
    simp only [Park.land, there, Backend.land, SimulatedBackend.land, unmet, named]
    rfl
  obtain ⟨receipt, resources, answer, after⟩ := SimulatedBackend.invoke_held held
  rw [landed, answer]
  exact ⟨⟨receipt, rfl⟩, holds_put routed after⟩

end Holds

/-- A call that makes a resource, and meets no failure, goes well, and puts the resource under the next id in its place. -/
theorem land_create (flight : Flight) {b : SimulatedBackend} (unnamed : flight.call.resource = none)
    (there : p.registry.get? flight.call.backend = some (.simulated b))
    (routed : p.router.target? flight.call.backend = some flight.call.backend)
    (unmet : p.failure? flight.call.backend flight.call.operation.name = none) :
    (p.land flight).1 = .ok ⟨p.ids.next.1, b.profile.createdStatus flight.call.operation.kind⟩ ∧
      (∃ resource, resource.rawStatus = b.profile.createdStatus flight.call.operation.kind ∧
        (p.land flight).2.Holds ⟨flight.call.backend, flight.call.operation.kind, p.ids.next.1⟩ b.profile b.latency
          resource) ∧
      ∀ id name, (p.land flight).2.failure? id name = p.failure? id name := by
  rw [failure?_of_get? there] at unmet
  have landed : p.land flight = (.ok ⟨p.ids.next.1, b.profile.createdStatus flight.call.operation.kind⟩,
      { p.put flight.call.backend
          (b.create flight.call.operation.kind p.ids.next.1 flight.call.payload.body).2 with ids := p.ids.next.2 }) := by
    simp only [land, there, Backend.land, SimulatedBackend.land, unmet, unnamed]
    rfl
  rw [landed]
  refine ⟨rfl, ⟨(Resource.plain b.profile.id flight.call.operation.kind p.ids.next.1
    (b.profile.createdStatus flight.call.operation.kind)).withBody flight.call.payload.body, ?_, ?_⟩, fun id name => ?_⟩
  · rw [Resource.rawStatus_withBody]
    rfl
  · have made : (p.put flight.call.backend
        (b.create flight.call.operation.kind p.ids.next.1 flight.call.payload.body).2).Holds
        ⟨flight.call.backend, flight.call.operation.kind, p.ids.next.1⟩ b.profile b.latency _ :=
      holds_put routed Std.ExtTreeMap.getElem?_insert_self
    exact made
  · show (p.put _ _).failure? id name = p.failure? id name
    rw [failure?_put]
    split
    · next here =>
      subst here
      exact (failure?_of_get? there name).symm
    · rfl

/-- The park keeps a resource under some status, at a backend that plays a profile and has no failure planned. -/
structure Keeps (p : Park) (key : ResourceKey) (profile : Profile) (latency : Duration) (raw : String) : Prop where
  simulated : p.Simulated
  placed : ∃ resource, p.Holds key profile latency resource ∧ resource.rawStatus = raw
  unplanned : ∀ name, p.failure? key.backend name = none

namespace Keeps

variable {raw : String}

theorem rawStatus? (h : p.Keeps key profile latency raw) : p.rawStatus? key = some raw := by
  obtain ⟨resource, placed, rfl⟩ := h.placed
  exact placed.rawStatus?

theorem find (h : p.Keeps key profile latency raw) :
    ∃ resource, (p.find key).1 = .ok (some resource) ∧ resource.rawStatus = raw ∧
      (p.find key).2.Keeps key profile latency (profile.following raw) := by
  obtain ⟨resource, placed, rfl⟩ := h.placed
  obtain ⟨shown, after⟩ := placed.find h.simulated
  refine ⟨resource, shown, rfl, (h.simulated.alike_find key).simulated, ⟨_, after, rfl⟩, fun name => ?_⟩
  exact (failure?_find h.simulated key _ name).trans (h.unplanned name)

/-- A call about the resource goes well, and its receipt tells the status that it leaves. -/
theorem land (h : p.Keeps key profile latency raw) {flight : Flight} (about : flight.call.key? = some key) :
    let after := (profile.reportedStatus? flight.call.operation.action).getD raw
    ∃ receipt, (p.land flight).1 = .ok receipt ∧ receipt.rawStatus = after ∧
      (p.land flight).2.Keeps key profile latency after := by
  intro after
  obtain ⟨resource, placed, rfl⟩ := h.placed
  obtain ⟨⟨receipt, answered⟩, left⟩ := placed.land about (h.unplanned _)
  have lands := h.simulated.lands flight
  rw [answered] at lands
  obtain ⟨id, named, rfl⟩ := Option.map_eq_some_iff.mp about
  have told := lands.rawStatus?
  rw [(lands.receipt named).1, left.rawStatus?] at told
  refine ⟨receipt, answered, (Option.some.inj told).symm, (h.simulated.alike_land flight).simulated, ⟨_, left, rfl⟩,
    fun name => ?_⟩
  rw [failure?_land h.simulated about]
  split
  · rfl
  · exact h.unplanned name

end Keeps

end

end Park

end CloudLifecycle
