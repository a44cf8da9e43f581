import CloudLifecycle.Config.Deployment
import CloudLifecycle.Proofs.Backend.Mounted
import CloudLifecycle.Proofs.Config.Validity

/-!
# Valid configurations can be put to work

Validation and deployment do not look at a configuration in the same way: profiles are known by their exact names here
and found by folded ones there, ids must differ here and are registered one after the other there, and limits in
milliseconds become spans. A valid configuration passes all of that (`GatewayConfig.deploy_of_valid`).
-/

namespace CloudLifecycle

/-- The profile of a family of backends, under the id and the name that the configuration gives to one of them. -/
def BackendEntry.dress (b : BackendEntry) (family : Profile) : Profile :=
  { family with id := b.id, displayName := b.displayName.getD family.displayName }

/-! ## Profiles -/

/-- A name that is known exactly is found. -/
theorem Profile.find_of_known {name : String} (known : name ∈ builtinNames) :
    ∃ family, ofName? name = some family ∧ Profile.find name = .ok family := by
  have folded : ∀ name ∈ builtinNames, Text.lowercase (Text.trim name) = name := by decide +kernel
  have named : ∀ name ∈ builtinNames, (ofName? name).isSome := by decide
  obtain ⟨family, named⟩ := Option.isSome_iff_exists.mp (named name known)
  refine ⟨family, named, ?_⟩
  simp only [find, folded name known, named]

theorem BackendEntry.loadProfile_of_known {b : BackendEntry} (known : b.profile ∈ Profile.builtinNames) :
    ∃ family, Profile.ofName? b.profile = some family ∧ b.loadProfile = .ok (b.dress family) := by
  obtain ⟨family, named, found⟩ := Profile.find_of_known known
  refine ⟨family, named, ?_⟩
  unfold loadProfile dress
  rw [found]
  cases b.displayName <;> rfl

/-- If all profiles are known, each backend gets its own. -/
theorem BackendEntry.mapM_loadProfile {bs : List BackendEntry} (known : ∀ b ∈ bs, b.profile ∈ Profile.builtinNames) :
    ∃ profiles, bs.mapM loadProfile = .ok profiles ∧ profiles.map (·.id) = bs.map (·.id) ∧
      ∀ b ∈ bs, ∃ family, Profile.ofName? b.profile = some family ∧ b.dress family ∈ profiles := by
  induction bs with
  | nil => exact ⟨[], rfl, rfl, nofun⟩
  | cons b bs ih =>
    rw [List.forall_mem_cons] at known
    obtain ⟨family, named, loaded⟩ := loadProfile_of_known known.1
    obtain ⟨profiles, rest, ids, each⟩ := ih known.2
    refine ⟨b.dress family :: profiles, ?_, ?_, ?_⟩
    · rw [List.mapM_cons, loaded, rest]
      rfl
    · rw [List.map_cons, List.map_cons, ids]
      rfl
    · rw [List.forall_mem_cons]
      refine ⟨⟨family, named, List.mem_cons_self⟩, fun b' mem => ?_⟩
      obtain ⟨family', named', there⟩ := each b' mem
      exact ⟨family', named', List.mem_cons_of_mem _ there⟩

/-! ## Choosing a backend -/

namespace GatewayConfig

variable {c : GatewayConfig}

theorem chooseBackend_some (c : GatewayConfig) (id : String) :
    c.chooseBackend (some id) = if (c.backend? id).isSome then .ok id else .error (.notConfigured id) := rfl

/-- Without a name, the default is chosen, or else the first backend. -/
theorem Valid.chooseBackend_none {known : List String} (valid : c.Valid known) :
    ∃ id, c.chooseBackend none = .ok id ∧ ∃ b ∈ c.backends, b.id = id := by
  have chosen {id : String} (default : c.defaultBackendId? = some id) (there : ∃ b ∈ c.backends, b.id = id) :
      c.chooseBackend none = .ok id := by
    have meant : (none <|> c.defaultBackendId?) = some id := default
    rw [chooseBackend, meant]
    exact if_pos (isSome_backend?_iff.mpr there)
  rcases named : c.defaultBackend with _ | id
  · obtain ⟨b, bs, whole⟩ := List.exists_cons_of_ne_nil valid.nonempty
    have there : ∃ b' ∈ c.backends, b'.id = b.id := ⟨b, whole ▸ List.mem_cons_self, rfl⟩
    refine ⟨b.id, chosen ?_ there, there⟩
    rw [defaultBackendId?, named, whole]
    rfl
  · have there := valid.default id named
    refine ⟨id, chosen ?_ there, there⟩
    rw [defaultBackendId?, named]

/-! ## Deployments -/

theorem assemble_of_pos {catalog : Catalog} {normalizer : Normalizer} {timeout : Duration} {plan : PollingPlan}
    (timeout_pos : 0 < timeout.nanos) (attempts_pos : 0 < plan.maxAttempts) :
    Gateway.assemble catalog normalizer true timeout plan =
      .ok ⟨catalog, normalizer, timeout, plan, timeout_pos, attempts_pos⟩ := by
  simp only [Gateway.assemble, Bool.not_true, Bool.false_eq_true, if_false, dif_pos timeout_pos, dif_pos attempts_pos]

theorem bind_of_ok {ε α β : Type} {x : Except ε α} {a : α} (h : x = .ok a) (f : α → Except ε β) : (x >>= f) = f a := by
  rw [h]
  rfl

/-- A configuration is put to work if its profiles load, the backends can be mounted and the limits are accepted. -/
theorem deploy_of_ok {interval : Option Duration} {seed : Nat} {profiles : List Profile} {park : Park} {gateway : Gateway}
    (loaded : c.backends.mapM BackendEntry.loadProfile = .ok profiles) (mounted : Park.mount profiles seed = .ok park)
    (assembled : Gateway.assemble .standard park.normalizer true c.backendTimeout (c.plan interval) = .ok gateway) :
    c.deploy interval seed = .ok ⟨gateway, park⟩ := by
  have mounted' : (Park.mount profiles seed).mapError DeploymentError.mount = .ok park := by rw [mounted]; rfl
  have assembled' : (Gateway.assemble .standard park.normalizer true c.backendTimeout (c.plan interval)).mapError
      DeploymentError.gateway = .ok gateway := by rw [assembled]; rfl
  -- one bind at a time: no step may look into the limits, where a million of nanoseconds would be counted one by one
  rw [deploy, bind_of_ok loaded, bind_of_ok mounted', bind_of_ok assembled']
  rfl

/-- **A valid configuration always starts.** Whatever interval is given besides, and from whatever seed the ids come:

1. the configuration is put to work, and its limits hold;
2. the registered backends are those that are configured, and are named in ascending order;
3. each has the profile of its family under its own id, and under the name that it is given if it is given one. So it has
   the capabilities and the status table of that family, and nothing in it yet, and lookups for it are routed to itself;
4. nothing else is registered or routed;
5. without a name some registered backend is chosen, and a name chooses the backend that is configured under it, if there
   is one. -/
theorem deploy_of_valid (c : GatewayConfig) (valid : c.validate Profile.builtinNames = .ok ())
    (interval : Option Duration) (seed : Nat) :
    ∃ d : Deployment, c.deploy interval seed = .ok d ∧
      (d.gateway.timeout = c.backendTimeout ∧ d.gateway.plan = c.plan interval) ∧
      (d.park.registry.ids.Pairwise (· < ·) ∧ ∀ id, id ∈ d.park.registry.ids ↔ ∃ b ∈ c.backends, b.id = id) ∧
      (∀ b ∈ c.backends, ∃ family, Profile.ofName? b.profile = some family ∧
        d.backend? b.id = some (.simulated (.new (b.dress family))) ∧
        Fleet.capabilities d.park b.id = some family.capabilities ∧
        d.gateway.normalizer.table? b.id = some family.statusTable ∧
        d.park.router.target? b.id = some b.id) ∧
      (∀ id, (∀ b ∈ c.backends, b.id ≠ id) →
        d.backend? id = none ∧ d.gateway.normalizer.table? id = none ∧ d.park.router.target? id = none) ∧
      (∃ id ∈ d.park.registry.ids, c.chooseBackend none = .ok id) ∧
      ∀ id, (∃ b ∈ c.backends, b.id = id) ∧ c.chooseBackend (some id) = .ok id ∨
        (∀ b ∈ c.backends, b.id ≠ id) ∧ c.chooseBackend (some id) = .error (.notConfigured id) := by
  have valid := validate_ok_iff.mp valid
  obtain ⟨profiles, loaded, ids, each⟩ := BackendEntry.mapM_loadProfile valid.known
  obtain ⟨park, mounted, _, there, others, routed⟩ := Park.mount_of_nodup (ids ▸ valid.distinct) seed
  have timeout_pos : 0 < c.backendTimeout.nanos := Nat.mul_pos valid.timeout_pos (by decide)
  let gateway : Gateway :=
    ⟨.standard, park.normalizer, c.backendTimeout, c.plan interval, timeout_pos, valid.attempts_pos⟩
  have assembled : Gateway.assemble .standard park.normalizer true c.backendTimeout (c.plan interval) = .ok gateway :=
    assemble_of_pos timeout_pos valid.attempts_pos
  have configured (id : String) : id ∈ profiles.map (·.id) ↔ ∃ b ∈ c.backends, b.id = id := by
    rw [ids, List.mem_map]
  have registered (id : String) : id ∈ park.registry.ids ↔ ∃ b ∈ c.backends, b.id = id := by
    rw [Registry.mem_ids_iff, ← configured]
    constructor
    · intro held
      by_contra new
      rw [others id new] at held
      cases held
    · intro mem
      obtain ⟨profile, loads, rfl⟩ := List.mem_map.mp mem
      rw [there profile loads]
      rfl
  refine ⟨⟨gateway, park⟩, deploy_of_ok loaded mounted assembled, ⟨rfl, rfl⟩, ⟨park.registry.pairwise_ids, registered⟩,
    ?_, ?_, ?_, ?_⟩
  · intro b mem
    obtain ⟨family, named, dressed⟩ := each b mem
    have held : park.registry.get? b.id = some (.simulated (.new (b.dress family))) := there _ dressed
    refine ⟨family, named, held, ?_, ?_, ?_⟩
    · exact congrArg (Option.map Backend.capabilities) held
    · exact (park.table?_normalizer b.id).trans (congrArg (Option.map Backend.statusTable) held)
    · exact (routed b.id).trans (if_pos ((configured b.id).mpr ⟨b, mem, rfl⟩))
  · intro id free
    have new : id ∉ profiles.map (·.id) := fun mem => by
      obtain ⟨b, there, same⟩ := (configured id).mp mem
      exact free b there same
    have absent := others id new
    refine ⟨absent, ?_, (routed id).trans (if_neg new)⟩
    exact (park.table?_normalizer id).trans (congrArg (Option.map Backend.statusTable) absent)
  · obtain ⟨id, chosen, there⟩ := valid.chooseBackend_none
    exact ⟨id, (registered id).mpr there, chosen⟩
  · intro id
    rw [chooseBackend_some]
    by_cases there : ∃ b ∈ c.backends, b.id = id
    · exact .inl ⟨there, if_pos (isSome_backend?_iff.mpr there)⟩
    · refine .inr ⟨fun b mem same => there ⟨b, mem, same⟩, if_neg (mt isSome_backend?_iff.mp there)⟩

/-- Three backends, of which the second is the default and the last has a name of its own. -/
def trio : GatewayConfig :=
  ⟨some "west", ⟨500⟩, ⟨3, 1⟩,
    [⟨"west", "vcloud", none⟩, ⟨"local", "mock", none⟩, ⟨"east", "paci", some "PACI of the East"⟩]⟩

theorem trio_starts :
    trio.validate Profile.builtinNames = .ok () ∧ ∃ d : Deployment, trio.deploy (some .zero) 7 = .ok d ∧
      d.park.registry.ids.Pairwise (· < ·) ∧ "east" ∈ d.park.registry.ids ∧ "mock" ∉ d.park.registry.ids ∧
      d.gateway.normalizer.table? "west" = some Profile.vcloudTable ∧
      (d.backend? "east").map Backend.displayName = some "PACI of the East" := by
  have valid : trio.validate Profile.builtinNames = .ok () := by decide +kernel
  obtain ⟨d, starts, _, ⟨ordered, registered⟩, each, _⟩ := deploy_of_valid trio valid (some .zero) 7
  obtain ⟨vcloud, named, _, _, table, _⟩ := each ⟨"west", "vcloud", none⟩ (by simp [trio])
  obtain ⟨paci, _, held, _⟩ := each ⟨"east", "paci", some "PACI of the East"⟩ (by simp [trio])
  cases named
  refine ⟨valid, d, starts, ordered, (registered "east").mpr (by simp [trio]), ?_, table, ?_⟩
  · rw [registered]
    simp [trio]
  · rw [held]
    rfl

end GatewayConfig

end CloudLifecycle
