import CloudLifecycle.Backend.Builtin
import CloudLifecycle.Proofs.Backend.Attributes
import CloudLifecycle.Proofs.Backend.Planned
import CloudLifecycle.Proofs.Backend.Spared

/-!
# Resources keep their identity

A simulated backend keeps each resource under its kind and its id, whatever becomes of its status. A use does one of three
things to the resources (`Handled`): it leaves them alone, it gives one of them another status, or it places one under a
key, with the members of a body as its attributes (`Use.Places`).

1. What is placed under a key has the kind and the id of that key, and another status changes neither. So every resource is
   the one that its key says (`Named`).
2. Nothing takes a resource away, and there is one more exactly if one is placed where there was none (`Handled.size`).
3. A resource keeps its attributes until another is placed over it (`Handled.attributes`). As long as new resources get ids
   that are not in use (`Leads`), it takes one that is put there to do that (`Leads.attributes`).

`identity_kept` puts these together.
-/

namespace CloudLifecycle

namespace Resource

theorem key_withBody (resource : Resource) (body : Json) : (resource.withBody body).key = resource.key := by
  have bare := congrArg key (bare_withBody resource body)
  exact bare

/-- A body adds its members to the attributes, over those of the same names. -/
theorem attribute?_withBody (resource : Resource) (body : Json) (name : String) :
    (resource.withBody body).attribute? name = (body.member? name).or (resource.attribute? name) := by
  cases body with
  | obj members =>
    induction members using List.reverseRecOn with
    | nil => rfl
    | append_singleton members m ih =>
      have added : resource.withBody (.obj (members ++ [m])) =
          (resource.withBody (.obj members)).withAttribute m.1 m.2 := List.foldl_concat ..
      rw [added]
      by_cases same : m.1 = name
      · simp [attribute?, withAttribute, Json.member?, same]
      · have others : (Json.obj (members ++ [m])).member? name = (Json.obj members).member? name := by
          simp [Json.member?, same]
        rw [others, ← ih]
        simp [attribute?, withAttribute, Std.ExtTreeMap.getElem?_insert, same]
  | _ => rfl

end Resource

namespace SimulatedBackend

/-! ## What a use does to the resources -/

namespace Use

/-- A use makes a resource: it is a call that names none, and goes well. -/
inductive Makes (b : SimulatedBackend) (ids : IdSource) : Use → ResourceRef → Json → Prop where
  | created {call : Call} {receipt : Receipt} (unnamed : call.resource = none)
      (answered : (b.land call ids).1 = .ok receipt) :
      Makes b ids (.call call) ⟨call.operation.kind, receipt.id⟩ call.payload.body

/-- A use places a resource under a key: it makes one from a body, or puts one there. -/
inductive Places (b : SimulatedBackend) (ids : IdSource) : Use → ResourceRef → Json → Prop where
  | made {use : Use} {ref : ResourceRef} {body : Json} (makes : use.Makes b ids ref body) : Places b ids use ref body
  | put (ref : ResourceRef) (raw : String) : Places b ids (.insert ref raw) ref .null

/-- If a use makes a resource, that gets an id that no other of the kind has. -/
def IsFresh (b : SimulatedBackend) (ids : IdSource) (use : Use) : Prop :=
  ∀ ref body, use.Makes b ids ref body → ref ∉ b.resources

/-- A use brings one more resource: it makes one, or puts one where there was none. -/
def Adds (b : SimulatedBackend) (ids : IdSource) (use : Use) : Prop :=
  (∃ ref body, use.Makes b ids ref body) ∨ ∃ ref raw, use = .insert ref raw ∧ ref ∉ b.resources

end Use

/-- What a use may make of the resources of a backend. -/
inductive Handled (b : SimulatedBackend) (ids : IdSource) (use : Use) : Std.ExtTreeMap ResourceRef Resource → Prop where
  | left (nothing : ∀ ref body, ¬ use.Places b ids ref body) : Handled b ids use b.resources
  | moved (nothing : ∀ ref body, ¬ use.Places b ids ref body) {ref : ResourceRef} {resource : Resource}
      (held : b.resources[ref]? = some resource) (raw : String) :
      Handled b ids use (b.resources.insert ref (resource.withStatus raw))
  | placed {ref : ResourceRef} {body : Json} (places : use.Places b ids ref body) (raw : String) :
      Handled b ids use (b.resources.insert ref ((Resource.plain b.profile.id ref.kind ref.id raw).withBody body))

section

variable {b : SimulatedBackend} {ids : IdSource} {use : Use}

/-- A call places a resource only if it names none and goes well. -/
theorem Use.Places.call {call : Call} {ref : ResourceRef} {body : Json} (h : (Use.call call).Places b ids ref body) :
    call.resource = none ∧ ∃ receipt, (b.land call ids).1 = .ok receipt := by
  cases h with
  | made makes =>
    cases makes with
    | created unnamed answered => exact ⟨unnamed, _, answered⟩

/-- A call that makes a resource and meets no failure is answered with the next id. -/
theorem land_unnamed (ids : IdSource) {call : Call} (unmet : b.failures[call.operation.name]? = none)
    (unnamed : call.resource = none) :
    (b.land call ids).1 = .ok ⟨ids.next.1, b.profile.createdStatus call.operation.kind⟩ := by
  simp only [land, unmet, unnamed]
  rfl

/-- A call is fresh if it names a resource, or if the next id is not in use. -/
theorem Use.isFresh_call {call : Call}
    (absent : call.resource = none → (⟨call.operation.kind, ids.next.1⟩ : ResourceRef) ∉ b.resources) :
    (Use.call call).IsFresh b ids := by
  rintro ref body ⟨unnamed, answered⟩
  rcases met : b.failures[call.operation.name]? with _ | e
  · rw [Except.ok.inj (answered.symm.trans (land_unnamed ids met unnamed))]
    exact absent unnamed
  · rw [land_of_met met] at answered
    cases answered

/-- A use places one resource at most. -/
theorem Use.Places.unique {ref ref' : ResourceRef} {body body' : Json} (h : use.Places b ids ref body)
    (h' : use.Places b ids ref' body') : ref = ref' ∧ body = body' := by
  cases h with
  | made makes =>
    obtain ⟨_, answered⟩ := makes
    cases h' with
    | made makes' =>
      obtain ⟨_, answered'⟩ := makes'
      cases answered.symm.trans answered'
      exact ⟨rfl, rfl⟩
  | put ref raw =>
    cases h' with
    | made makes' => cases makes'
    | put => exact ⟨rfl, rfl⟩

/-- A use that places a resource brings one more exactly if there was none. -/
theorem Use.Places.adds_iff {ref : ResourceRef} {body : Json} (places : use.Places b ids ref body)
    (fresh : use.IsFresh b ids) : use.Adds b ids ↔ ref ∉ b.resources := by
  cases places with
  | made makes => exact ⟨fun _ => fresh ref body makes, fun _ => .inl ⟨ref, body, makes⟩⟩
  | put ref raw =>
    constructor
    · rintro (⟨_, _, makes⟩ | ⟨_, _, same, absent⟩)
      · cases makes
      · cases same
        exact absent
    · exact fun absent => .inr ⟨ref, raw, rfl, absent⟩

/-- A use that places nothing brings nothing. -/
theorem Use.not_adds (nothing : ∀ ref body, ¬ use.Places b ids ref body) : ¬ use.Adds b ids := by
  rintro (⟨ref, body, makes⟩ | ⟨ref, raw, rfl, _⟩)
  · exact nothing ref body (.made makes)
  · exact nothing ref .null (.put ref raw)

theorem handled_invoke (nothing : ∀ ref body, ¬ use.Places b ids ref body) (operation : Operation) (id : String) :
    Handled b ids use (b.invoke operation id).2.resources := by
  unfold invoke
  split
  · exact .left nothing
  · next resource held =>
    split
    · exact .left nothing
    · next raw _ => exact .moved nothing held raw

theorem handled_find (nothing : ∀ ref body, ¬ use.Places b ids ref body) (backend : String) (ref : ResourceRef) :
    Handled b ids use (b.find backend ref).2.resources := by
  unfold find
  split
  · split
    · exact .left nothing
    · next resource held =>
      split
      · exact .left nothing
      · next raw _ => exact .moved nothing held raw
  · exact .left nothing

theorem handled_land (b : SimulatedBackend) (ids : IdSource) (call : Call) :
    Handled b ids (.call call) (b.land call ids).2.1.resources := by
  rcases met : b.failures[call.operation.name]? with _ | e
  · rcases named : call.resource with _ | id
    · have makes := Use.Makes.created named (land_unnamed ids met named)
      simp only [land, met, named]
      exact .placed (.made makes) (b.profile.createdStatus call.operation.kind)
    · have nothing : ∀ ref body, ¬ (Use.call call).Places b ids ref body := by
        intro ref body places
        have unnamed := places.call.1
        rw [named] at unnamed
        cases unnamed
      simp only [land, met, named]
      exact handled_invoke nothing call.operation id
  · have nothing : ∀ ref body, ¬ (Use.call call).Places b ids ref body := by
      intro ref body places
      obtain ⟨_, receipt, answered⟩ := places.call
      rw [land_of_met met] at answered
      cases answered
    rw [land_of_met met]
    exact .left nothing

/-- Every use does one of the three things to the resources. -/
theorem handled_run (b : SimulatedBackend) (ids : IdSource) (use : Use) :
    Handled b ids use (use.run b ids).2.1.resources := by
  cases use with
  | failNext operation e =>
    refine .left fun ref body places => ?_
    cases places with
    | made makes => cases makes
  | call call => exact handled_land b ids call
  | find backend ref =>
    refine handled_find (fun ref body places => ?_) backend ref
    cases places with
    | made makes => cases makes
  | insert ref raw => exact .placed (.put ref raw) raw

theorem profile_run (b : SimulatedBackend) (ids : IdSource) (use : Use) : (use.run b ids).2.1.profile = b.profile := by
  cases use with
  | failNext | insert => rfl
  | call call => exact b.profile_land call ids
  | find backend ref => exact b.profile_find backend ref

/-! ## What is kept -/

/-- Every resource of the backend is the one that its key says. -/
def Named (b : SimulatedBackend) : Prop :=
  ∀ (ref : ResourceRef) resource, b.resources[ref]? = some resource → resource.key = ⟨b.profile.id, ref.kind, ref.id⟩

/-- What is put under its own key is what that key says. -/
theorem Named.key_insert (named : b.Named) {place ref : ResourceRef} {put resource : Resource}
    (own : put.key = ⟨b.profile.id, place.kind, place.id⟩)
    (there : (b.resources.insert place put)[ref]? = some resource) : resource.key = ⟨b.profile.id, ref.kind, ref.id⟩ := by
  by_cases here : ref = place
  · subst here
    rw [Std.ExtTreeMap.getElem?_insert_self] at there
    rw [← Option.some.inj there, own]
  · rw [getElem?_insert_of_ne here] at there
    exact named ref resource there

theorem named_new (profile : Profile) (latency : Duration) : ((new profile).withLatency latency).Named := by
  intro ref resource there
  have empty : ((new profile).withLatency latency).resources[ref]? = none := Std.ExtTreeMap.getElem?_empty
  rw [empty] at there
  cases there

namespace Handled

variable {resources : Std.ExtTreeMap ResourceRef Resource} {ref : ResourceRef} {resource : Resource}

theorem key (h : Handled b ids use resources) (named : b.Named) (there : resources[ref]? = some resource) :
    resource.key = ⟨b.profile.id, ref.kind, ref.id⟩ := by
  cases h with
  | left _ => exact named ref resource there
  | @moved _ place moved held raw =>
    have own : (moved.withStatus raw).key = ⟨b.profile.id, place.kind, place.id⟩ := named place moved held
    exact named.key_insert own there
  | placed _ raw => exact named.key_insert (Resource.key_withBody _ _) there

theorem mem (h : Handled b ids use resources) (there : ref ∈ b.resources) : ref ∈ resources := by
  cases h with
  | left _ => exact there
  | moved _ _ _ | placed _ _ => exact Std.ExtTreeMap.mem_insert.mpr (.inr there)

theorem size (h : Handled b ids use resources) (fresh : use.IsFresh b ids) :
    (use.Adds b ids → resources.size = b.resources.size + 1) ∧
      (¬ use.Adds b ids → resources.size = b.resources.size) := by
  cases h with
  | left nothing => exact ⟨fun adds => absurd adds (Use.not_adds nothing), fun _ => rfl⟩
  | @moved nothing ref resource held raw =>
    have there : b.resources.contains ref = true := by
      rw [← Std.ExtTreeMap.isSome_getElem?_eq_contains, held, Option.isSome_some]
    exact ⟨fun adds => absurd adds (Use.not_adds nothing), fun _ => by rw [Std.ExtTreeMap.size_insert, if_pos there]⟩
  | placed places raw =>
    rw [places.adds_iff fresh, not_not, ← Std.ExtTreeMap.contains_iff_mem, Std.ExtTreeMap.size_insert]
    exact ⟨fun absent => if_neg absent, fun there => if_pos there⟩

theorem size_le (h : Handled b ids use resources) (fresh : use.IsFresh b ids) : b.resources.size ≤ resources.size := by
  obtain ⟨more, same⟩ := h.size fresh
  by_cases adds : use.Adds b ids
  · exact (Nat.le_succ _).trans (more adds).ge
  · exact (same adds).ge

/-- A resource that is placed has the members of its body as attributes. -/
theorem members (h : Handled b ids use resources) {body : Json} (places : use.Places b ids ref body) :
    ∃ resource, resources[ref]? = some resource ∧ ∀ name, resource.attribute? name = body.member? name := by
  cases h with
  | left nothing | moved nothing _ _ => exact absurd places (nothing ref body)
  | @placed place body' places' raw =>
    obtain ⟨rfl, rfl⟩ := places.unique places'
    refine ⟨_, Std.ExtTreeMap.getElem?_insert_self, fun name => ?_⟩
    have bare : (Resource.plain b.profile.id ref.kind ref.id raw).attribute? name = none :=
      Std.ExtTreeMap.getElem?_empty
    rw [Resource.attribute?_withBody, bare, Option.or_none]

/-- A resource over which none is placed keeps its attributes. -/
theorem attributes (h : Handled b ids use resources) (apart : ∀ body, ¬ use.Places b ids ref body)
    (there : b.resources[ref]? = some resource) :
    ∃ kept, resources[ref]? = some kept ∧ kept.attributes = resource.attributes := by
  cases h with
  | left _ => exact ⟨resource, there, rfl⟩
  | @moved _ place moved held raw =>
    by_cases here : ref = place
    · subst here
      cases there.symm.trans held
      exact ⟨_, Std.ExtTreeMap.getElem?_insert_self, rfl⟩
    · exact ⟨resource, by rw [getElem?_insert_of_ne here, there], rfl⟩
  | @placed place body places raw =>
    have here : ref ≠ place := by
      rintro rfl
      exact apart body places
    exact ⟨resource, by rw [getElem?_insert_of_ne here, there], rfl⟩

end Handled

/-! ## Histories -/

/-- Uses lead from one backend to another. New resources take their ids from anywhere, as long as no other of their kind has
them. -/
inductive Leads : SimulatedBackend → List Use → SimulatedBackend → Prop where
  | nil (b : SimulatedBackend) : Leads b [] b
  | cons {b b' : SimulatedBackend} {use : Use} {later : List Use} (ids : IdSource) (fresh : use.IsFresh b ids)
      (rest : Leads (use.run b ids).2.1 later b') : Leads b (use :: later) b'

namespace Leads

variable {b' : SimulatedBackend} {history : List Use} {ref : ResourceRef} {resource : Resource}

/-- What every fresh use keeps, a whole history keeps. -/
theorem keeps {P : SimulatedBackend → Prop} (h : Leads b history b') (start : P b)
    (step : ∀ (b : SimulatedBackend) ids (use : Use), use.IsFresh b ids → P b → P (use.run b ids).2.1) : P b' := by
  induction h with
  | nil => exact start
  | @cons b _ use _ ids fresh _ ih => exact ih (step b ids use fresh start)

theorem profile (h : Leads b history b') : b'.profile = b.profile :=
  h.keeps (P := fun later => later.profile = b.profile) rfl fun b ids use _ same => (profile_run b ids use).trans same

theorem named (h : Leads b history b') (start : b.Named) : b'.Named := by
  refine h.keeps start fun b ids use _ named ref resource there => ?_
  rw [profile_run]
  exact (handled_run b ids use).key named there

theorem mem (h : Leads b history b') (there : ref ∈ b.resources) : ref ∈ b'.resources :=
  h.keeps (P := fun later => ref ∈ later.resources) there fun b ids use _ there => (handled_run b ids use).mem there

theorem size_le (h : Leads b history b') : b.size ≤ b'.size :=
  h.keeps (P := fun later => b.size ≤ later.size) le_rfl fun b ids use fresh le =>
    le.trans ((handled_run b ids use).size_le fresh)

/-- A resource keeps its attributes until another is put in its place. -/
theorem attributes (h : Leads b history b') (unput : ∀ raw, .insert ref raw ∉ history)
    (there : b.resources[ref]? = some resource) :
    ∃ kept, b'.resources[ref]? = some kept ∧ kept.attributes = resource.attributes := by
  induction h generalizing resource with
  | nil => exact ⟨resource, there, rfl⟩
  | @cons b _ use later ids fresh _ ih =>
    -- A resource that is made goes elsewhere, since the key of this one is in use.
    have apart : ∀ body, ¬ use.Places b ids ref body := by
      intro body places
      cases places with
      | made makes =>
        have used : ref ∈ b.resources := Std.ExtTreeMap.mem_iff_isSome_getElem?.mpr (by rw [there, Option.isSome_some])
        exact fresh ref body makes used
      | put ref raw => exact unput raw List.mem_cons_self
    obtain ⟨next, held, same⟩ := (handled_run b ids use).attributes apart there
    obtain ⟨kept, held', same'⟩ := ih (fun raw mem => unput raw (List.mem_cons_of_mem _ mem)) held
    exact ⟨kept, held', same'.trans same⟩

end Leads

end

/-- **Resources keep their identity.** For every backend that uses lead to from a new one:

1. each of its resources has the kind and the id of its key, and the id of the profile as its backend;
2. what a lookup shows is what it was asked for;
3. whatever uses follow, every resource is still there, and there are no fewer;
4. a use brings exactly one more if it makes a resource or puts one where there was none, and no more otherwise;
5. a resource that is made has the members of the body as its attributes and no others, one that is put there has none, and
both keep them, in the backend and in every lookup, until one is put in their place;
6. a lookup for another backend shows nothing and changes nothing. -/
theorem identity_kept {profile : Profile} {latency : Duration} {history : List Use} {b : SimulatedBackend}
    (reached : Leads ((new profile).withLatency latency) history b) :
    (∀ (ref : ResourceRef) resource, b.resources[ref]? = some resource →
      resource.kind = ref.kind ∧ resource.id = ref.id ∧ resource.backend = profile.id) ∧
    (∀ backend (ref : ResourceRef) resource, (b.find backend ref).1 = some resource →
      resource.key = ⟨backend, ref.kind, ref.id⟩) ∧
    (∀ later b', Leads b later b' → (∀ ref, ref ∈ b.resources → ref ∈ b'.resources) ∧ b.size ≤ b'.size) ∧
    (∀ (use : Use) ids, use.IsFresh b ids → let after := (use.run b ids).2.1
      (use.Adds b ids → after.size = b.size + 1) ∧ (¬ use.Adds b ids → after.size = b.size)) ∧
    (∀ (use : Use) ids ref body later b', use.Places b ids ref body → Leads (use.run b ids).2.1 later b' →
      (∀ raw, .insert ref raw ∉ later) →
        ∃ resource, b'.resources[ref]? = some resource ∧ (b'.find profile.id ref).1 = some resource ∧
          ∀ name, resource.attribute? name = body.member? name) ∧
    ∀ backend ref, backend ≠ profile.id → b.find backend ref = (none, b) := by
  have own : b.profile = profile := reached.profile
  have named : b.Named := reached.named (named_new profile latency)
  refine ⟨fun ref resource there => ?_, fun backend ref resource shown => ?_,
    fun later b' leads => ⟨fun ref => leads.mem, leads.size_le⟩, fun use ids fresh => (handled_run b ids use).size fresh,
    fun use ids ref body later b' places leads unput => ?_, fun backend ref other => ?_⟩
  · have key := named ref resource there
    rw [own] at key
    exact ⟨congrArg ResourceKey.kind key, congrArg ResourceKey.id key, congrArg ResourceKey.backend key⟩
  · rw [found_find] at shown
    split at shown
    · next here => rw [here, named ref resource shown]
    · cases shown
  · obtain ⟨resource, there, members⟩ := (handled_run b ids use).members places
    obtain ⟨kept, there', same⟩ := leads.attributes unput there
    have own' : b'.profile = profile := leads.profile.trans ((profile_run b ids use).trans own)
    refine ⟨kept, there', by rw [found_find, own', if_pos rfl, there'], fun name => ?_⟩
    rw [← members name, Resource.attribute?, Resource.attribute?, same]
  · rw [find, own, if_neg other]

end SimulatedBackend

namespace Beside

open SimulatedBackend

/-- The ids that new servers get. -/
def ids : IdSource := ⟨0, 0⟩

/-- The first of them. -/
def server : ResourceRef := ⟨.server, ids.next.1⟩

/-- The request for a server. -/
def make : Use := .call ⟨"mock", .create .server, none, ⟨.none, .obj [("name", .str "web-1")]⟩⟩

/-- The call that starts it. -/
def start : Use := .call ⟨"mock", ⟨.server, "start"⟩, some server.id, .empty⟩

/-- A backend with another server, at which the first attempt to make one has failed. -/
def troubled : SimulatedBackend :=
  let stocked := (new Profile.mock).insert ⟨.server, "spare"⟩ "stopped"
  (make.run (stocked.failNext "create_instance" (.network "down")) ids).2.1

/-- The backend after the second attempt, a look at the new server, and its start. -/
def started : SimulatedBackend := (start.run (((make.run troubled ids).2.1.find "mock" server).2) ids).2.1

theorem leads_troubled : Leads ((new Profile.mock).withLatency .zero)
    [.insert ⟨.server, "spare"⟩ "stopped", .failNext "create_instance" (.network "down"), make] troubled :=
  .cons ids (by rintro _ _ ⟨⟩) <| .cons ids (by rintro _ _ ⟨⟩) <|
    .cons ids (Use.isFresh_call fun _ => by decide +kernel) (.nil _)

theorem leads_started : Leads (make.run troubled ids).2.1 [.find "mock" server, start] started :=
  .cons ids (by rintro _ _ ⟨⟩) <| .cons ids (Use.isFresh_call fun unnamed => by cases unnamed) (.nil _)

theorem places_make : make.Places troubled ids server (.obj [("name", .str "web-1")]) :=
  .made (.created rfl (land_unnamed ids (by decide +kernel) rfl))

/-- The server has the name from the request, and keeps it while it comes up and is started. -/
theorem server_kept :
    started.size = 2 ∧ started.rawStatus? server = some "running" ∧
      ∃ resource, (started.find "mock" server).1 = some resource ∧ resource.attribute? "name" = some (.str "web-1") := by
  obtain ⟨_, _, _, _, kept, _⟩ := identity_kept leads_troubled
  obtain ⟨resource, _, shown, members⟩ := kept _ _ _ _ _ _ places_make leads_started (by simp [start])
  exact ⟨by decide +kernel, by decide +kernel, resource, shown, members "name"⟩

end Beside

end CloudLifecycle
