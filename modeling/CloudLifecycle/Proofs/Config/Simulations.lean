import CloudLifecycle.Proofs.Cli.Reports
import CloudLifecycle.Proofs.Config.Deployments
import CloudLifecycle.Proofs.Gateway.Tours

/-!
# Simulations under valid configurations

A simulation is over before it begins: the family of the backend says how it goes (`Profile.Tale`), and the configuration
only how many attempts there are. The built-in families take every kind of resource that they make through its whole life,
if there are attempts enough for it to come up (`Profile.exists_lively`). With that all is settled that the program shows of
it, line by line (`GatewayConfig.Tells`).
-/

namespace CloudLifecycle

/-! ## Lively profiles -/

namespace Profile

/-- A profile brings resources of a kind up, and takes them through their whole lives: the look `n` is the first to show a
new resource settled, none up to then shows it terminal, and the looks that are needed for that are enough before each of
the actions of its life. -/
structure Lively (profile : Profile) (machine : Machine) (kind : ResourceKind) (n : Nat) : Prop where
  settled : machine.isSettled (profile.stateAt kind n) = true
  restless : ∀ k < n, machine.isSettled (profile.stateAt kind k) = false
  moves : ∀ k < n + 1, isTerminalFor (some machine) (profile.stateAt kind k) = false
  tours : (profile.tour? machine kind (n + 1) (Simulation.script kind) (profile.broughtUp kind n)).isSome = true

section

variable {profile : Profile} {machine : Machine} {kind : ResourceKind} {n attempts : Nat}

instance : Decidable (profile.Lively machine kind n) :=
  decidable_of_iff
    (machine.isSettled (profile.stateAt kind n) = true ∧ (∀ k < n, machine.isSettled (profile.stateAt kind k) = false) ∧
      (∀ k < n + 1, isTerminalFor (some machine) (profile.stateAt kind k) = false) ∧
      (profile.tour? machine kind (n + 1) (Simulation.script kind) (profile.broughtUp kind n)).isSome = true)
    ⟨fun ⟨settled, restless, moves, tours⟩ => ⟨settled, restless, moves, tours⟩,
      fun h => ⟨h.settled, h.restless, h.moves, h.tours⟩⟩

theorem Lively.undecided (h : profile.Lively machine kind n) {k : Nat} (earlier : k < n) :
    profile.Undecided (some machine) kind k := by
  constructor
  · rw [← isTerminalFor_iff, h.moves k (Nat.lt_succ_of_lt earlier)]
    exact Bool.false_ne_true
  · rw [← isSettledFor_iff, isSettledFor, h.restless k earlier]
    exact Bool.false_ne_true

/-- With attempts enough the resource comes up with the look that shows it settled. -/
theorem Lively.course (h : profile.Lively machine kind n) (enough : n < attempts) :
    ∃ finishes, profile.Course (some machine) kind attempts (n + 1) finishes (.converged (profile.stateAt kind n))
      (profile.broughtUp kind n) := by
  have before : ∀ k < n, profile.Undecided (some machine) kind k := fun k earlier => h.undecided earlier
  have moves : ¬ Terminal (some machine) (profile.stateAt kind n) := by
    rw [← isTerminalFor_iff, h.moves n (Nat.lt_succ_self n)]
    exact Bool.false_ne_true
  have settled : Settled (some machine) (profile.stateAt kind n) := (isSettledFor_iff _ _).mp h.settled
  unfold broughtUp
  split
  · next declared => exact ⟨true, .finished n enough before moves settled declared⟩
  · next undeclared => exact ⟨false, .cameUp n enough before moves settled (eq_false_of_ne_true undeclared)⟩

/-- With fewer attempts they run out. -/
theorem Lively.exhausted (h : profile.Lively machine kind n) (pos : 0 < attempts) (short : attempts ≤ n) :
    profile.Course (some machine) kind attempts attempts false
      (.exhausted attempts (some (profile.stateAt kind (attempts - 1)))) (profile.statusAt kind attempts) := by
  obtain ⟨last, rfl⟩ := Nat.exists_eq_add_one.mpr pos
  exact .exhausted last rfl fun k earlier => h.undecided (Nat.lt_of_lt_of_le earlier short)

/-- There is only one look that is the first to show a new resource settled. -/
theorem Lively.first_unique (h : profile.Lively machine kind n) {k : Nat}
    (settled : Settled (some machine) (profile.stateAt kind k))
    (restless : ∀ j < k, ¬ Settled (some machine) (profile.stateAt kind j)) : k = n := by
  rcases Nat.lt_trichotomy k n with sooner | exactly | later
  · exact absurd settled (h.undecided sooner).2
  · exact exactly
  · exact absurd ((isSettledFor_iff (some machine) _).mp h.settled) (restless n later)

end

/-! ### Families -/

/-- The id and the name of a backend do not show in how its resources behave. -/
theorem statusAt_dress (b : BackendEntry) (family : Profile) (kind : ResourceKind) (n : Nat) :
    (b.dress family).statusAt kind n = family.statusAt kind n := by
  induction n with
  | zero => rfl
  | succ n ih => exact congrArg family.following ih

theorem stateAt_dress (b : BackendEntry) (family : Profile) (kind : ResourceKind) (n : Nat) :
    (b.dress family).stateAt kind n = family.stateAt kind n :=
  congrArg family.statusTable.resolve (statusAt_dress b family kind n)

theorem rested?_dress (b : BackendEntry) (family : Profile) (machine : Machine) (looks : Nat) (raw : String) :
    (b.dress family).rested? machine looks raw = family.rested? machine looks raw := by
  induction looks generalizing raw with
  | zero => rfl
  | succ looks ih => exact congrArg (ite _ _) (ih (family.following raw))

theorem tour?_dress (b : BackendEntry) (family : Profile) (machine : Machine) (kind : ResourceKind) (looks : Nat)
    (actions : List String) (raw : String) :
    (b.dress family).tour? machine kind looks actions raw = family.tour? machine kind looks actions raw := by
  induction actions generalizing raw with
  | nil => rfl
  | cons action actions ih =>
    rw [tour?, tour?, rested?_dress]
    simp only [ih]
    rfl

theorem broughtUp_dress (b : BackendEntry) (family : Profile) (kind : ResourceKind) (n : Nat) :
    (b.dress family).broughtUp kind n = family.broughtUp kind n := by
  rw [broughtUp, broughtUp, statusAt_dress]
  rfl

theorem Lively.dress {family : Profile} {machine : Machine} {kind : ResourceKind} {n : Nat}
    (h : family.Lively machine kind n) (b : BackendEntry) : (b.dress family).Lively machine kind n where
  settled := by rw [stateAt_dress]; exact h.settled
  restless := by simpa only [stateAt_dress] using h.restless
  moves := by simpa only [stateAt_dress] using h.moves
  tours := by rw [tour?_dress, broughtUp_dress]; exact h.tours

/-- The built-in families take the resources that they make through their whole lives. -/
theorem exists_lively {name : String} {family : Profile} (named : ofName? name = some family) {kind : ResourceKind}
    (declared : family.capabilities.contains (Operation.create kind).name = true) :
    ∃ machine n, Catalog.standard.get? kind = some machine ∧ family.Lively machine kind n := by
  have checked : ∀ family ∈ [paci, vcloud, mock], ∀ kind ∈ ResourceKind.all,
      family.capabilities.contains (Operation.create kind).name = true →
      ∃ n < 3, (Catalog.standard.get? kind).any (fun machine => decide (family.Lively machine kind n)) = true := by
    decide +kernel
  have builtin : family ∈ [paci, vcloud, mock] := by
    unfold ofName? at named
    split_ifs at named <;> cases named <;> simp
  obtain ⟨n, _, lively⟩ := checked family builtin kind (ResourceKind.mem_all kind) declared
  obtain ⟨machine, drawn, lively⟩ := (Option.any_eq_true _ _).mp lively
  exact ⟨machine, n, drawn, of_decide_eq_true lively⟩

end Profile

/-! ## Tales -/

theorem Profile.length_tour? {profile : Profile} {machine : Machine} {kind : ResourceKind} {looks : Nat}
    {actions : List String} {raw left : String} {states : List LifecycleState}
    (h : profile.tour? machine kind looks actions raw = some (states, left)) : states.length = actions.length := by
  induction actions generalizing raw states with
  | nil =>
    cases h
    rfl
  | cons action actions ih =>
    obtain ⟨_, later, _, _, _, goes, rfl⟩ := Profile.tour?_cons.mp h
    exact congrArg (· + 1) (ih goes)

/-- Actions side by side with results that accept them. -/
theorem zip_accepted {actions : List String} {taken : List (String × LifecycleState)}
    (names : taken.map Prod.fst = actions) (id : String) :
    actions.zip ((taken.map Prod.snd).map (.accepted id)) =
      taken.map fun t => (t.1, ActionResult.accepted id t.2) := by
  rw [← names, List.map_map, List.zip_map']
  rfl

namespace Profile.Lively

variable {profile : Profile} {machine : Machine} {kind : ResourceKind} {n attempts : Nat}

/-- With attempts enough a whole life is told. -/
theorem exists_tale (h : profile.Lively machine kind n)
    (declared : profile.capabilities.contains (Operation.create kind).name = true) (enough : n < attempts) :
    ∃ (taken : List (String × LifecycleState)) (left : String), taken.map Prod.fst = Simulation.script kind ∧
      profile.tour? machine kind (n + 1) (Simulation.script kind) (profile.broughtUp kind n) =
        some (taken.map Prod.snd, left) ∧
      ∀ backend id, profile.Tale (some machine) backend kind attempts id
        ⟨.accepted id .pending, some (.converged (profile.stateAt kind n)), taken.map fun t => (t.1, .accepted id t.2),
          some left, none⟩ := by
  obtain ⟨finishes, course⟩ := h.course enough
  obtain ⟨⟨states, left⟩, tour⟩ := Option.isSome_iff_exists.mp h.tours
  have length := length_tour? tour
  -- the actions, with the states in which they leave the resource
  obtain ⟨taken, names, rfl⟩ : ∃ taken : List (String × LifecycleState),
      taken.map Prod.fst = Simulation.script kind ∧ taken.map Prod.snd = states :=
    ⟨(Simulation.script kind).zip states, List.map_fst_zip (by omega), List.map_snd_zip (by omega)⟩
  refine ⟨taken, left, names, tour, fun backend id => ?_⟩
  rw [← zip_accepted names]
  exact .lived machine rfl _ finishes _ _ left _ declared course (tour?_mono tour enough)

/-- With fewer attempts the resource is lost. -/
theorem lost_tale (h : profile.Lively machine kind n)
    (declared : profile.capabilities.contains (Operation.create kind).name = true) (pos : 0 < attempts)
    (short : attempts ≤ n) (backend id : String) :
    profile.Tale (some machine) backend kind attempts id
      ⟨.accepted id .pending, some (.exhausted attempts (some (profile.stateAt kind (attempts - 1)))), [], none,
        some (.notConverged id)⟩ :=
  .lost _ _ _ _ declared (h.exhausted pos short) rfl

end Profile.Lively

namespace GatewayConfig

variable {c : GatewayConfig}

/-- The id of the first resource that is made, where ids count from some seed. -/
def firstId (seed : Nat) : String := (IdSource.next ⟨seed, 0⟩).1

/-- A valid configuration starts, and then each of its backends is ready to be asked for a resource. -/
theorem Valid.prepared (valid : c.Valid Profile.builtinNames) {b : BackendEntry} (mem : b ∈ c.backends)
    (interval : Option Duration) (seed : Nat) {family : Profile} (named : Profile.ofName? b.profile = some family) :
    ∃ d : Deployment, c.deploy interval seed = .ok d ∧ d.gateway.catalog = .standard ∧
      d.gateway.plan = c.plan interval ∧ d.park.ids = ⟨seed, 0⟩ ∧
      Simulation.Prepared d.gateway b.id (.new (b.dress family)) d.session := by
  obtain ⟨profiles, loaded, ids, each⟩ := BackendEntry.mapM_loadProfile valid.known
  obtain ⟨park, mounted, source, there, _, routed⟩ := Park.mount_of_nodup (ids ▸ valid.distinct) seed
  have new := Park.new_of_mount mounted
  have timeout_pos : 0 < c.backendTimeout.nanos := Nat.mul_pos valid.timeout_pos (by decide)
  obtain ⟨family', named', dressed⟩ := each b mem
  obtain rfl : family = family' := Option.some.inj (named.symm.trans named')
  have held : park.registry.get? b.id = some (.simulated (.new (b.dress family))) := there _ dressed
  have mem_ids : b.id ∈ profiles.map (·.id) := ids ▸ List.mem_map_of_mem mem
  refine ⟨_, deploy_of_ok loaded mounted (assemble_of_pos timeout_pos valid.attempts_pos), rfl, rfl, source, ?_⟩
  exact {
    quiet := rfl
    unheard := Std.ExtTreeMap.contains_empty
    simulated := new.simulated
    there := held
    routed := (routed b.id).trans (if_pos mem_ids)
    unplanned := Park.failure?_of_new new b.id
    quick := Nat.zero_le _
    reads := fun raw => by
      have table : park.normalizer.table? b.id = some (b.dress family).statusTable :=
        (park.table?_normalizer b.id).trans (congrArg (Option.map Backend.statusTable) held)
      rw [Normalizer.normalize, table]
      rfl }

/-- What is told of a family is what happens at a backend of that family, however the configuration looks otherwise. -/
theorem Valid.simulates (valid : c.Valid Profile.builtinNames) {b : BackendEntry} (mem : b ∈ c.backends)
    (interval : Option Duration) (seed : Nat) {family : Profile} (named : Profile.ofName? b.profile = some family)
    {kind : ResourceKind} {told : SimulationRun}
    (tale : (b.dress family).Tale (Catalog.standard.get? kind) b.id kind c.convergence.maxAttempts.toNat
      (firstId seed) told) :
    ∃ d : Deployment, c.deploy interval seed = .ok d ∧ (Simulation.run d.gateway b.id kind d.session).1 = told ∧
      (family.capabilities.contains (Operation.create kind).name = false →
        (Simulation.run d.gateway b.id kind d.session).2 = d.session) := by
  obtain ⟨d, starts, catalog, plan, ids, prepared⟩ := valid.prepared mem interval seed named
  refine ⟨d, starts, prepared.run_told ?_, fun undeclared => ?_⟩
  · rw [catalog, plan, show d.session.desk.fleet.ids = _ from ids]
    exact tale
  · rw [prepared.run_of_undeclared undeclared]

/-- The program shows a simulation as it goes, and fails if that does. -/
theorem simulate_of_deploy {named : Option String} {text : String} {intervalMs : UInt64} {id : String}
    {kind : ResourceKind} {seed : Nat} {d : Deployment} (chosen : c.chooseBackend named = .ok id)
    (parsed : ResourceKind.parse text = .ok kind)
    (starts : c.deploy (some (.ofMillis (max intervalMs.toNat 1))) seed = .ok d) :
    Cli.simulate c seed named text intervalMs =
      ⟨Cli.line ("シミュレーション: " ++ kind.name ++ " on " ++ id) ++
          Cli.runText (Simulation.run d.gateway id kind d.session).1,
        (Simulation.run d.gateway id kind d.session).1.failure.map .simulation⟩ := by
  simp only [Cli.simulate, chosen, parsed, starts]

/-- What is told and shown of resources of a kind at a backend under every valid configuration with its entry and so many
attempts: the configuration starts whatever interval is given, and what comes of a simulation is what is told. Where the
family makes no such resources, the session is left as it was. The output of the program is a line that says what is
simulated, and then the lines that are shown; the program ends as the simulation does. -/
def Tells (b : BackendEntry) (family : Profile) (attempts : UInt32) (seed : Nat) (kind : ResourceKind)
    (told : SimulationRun) (shown : List String) : Prop :=
  ∀ c : GatewayConfig, c.validate Profile.builtinNames = .ok () → b ∈ c.backends → c.convergence.maxAttempts = attempts →
    (∀ interval, ∃ d : Deployment, c.deploy interval seed = .ok d ∧
      (Simulation.run d.gateway b.id kind d.session).1 = told ∧
      (family.capabilities.contains (Operation.create kind).name = false →
        (Simulation.run d.gateway b.id kind d.session).2 = d.session)) ∧
    ∀ named text intervalMs, c.chooseBackend named = .ok b.id → ResourceKind.parse text = .ok kind →
      Cli.simulate c seed named text intervalMs =
        ⟨Cli.unlines (("シミュレーション: " ++ kind.name ++ " on " ++ b.id) :: shown), told.failure.map .simulation⟩

theorem tells_of_tale {b : BackendEntry} {family : Profile} (named : Profile.ofName? b.profile = some family)
    {attempts : UInt32} {seed : Nat} {kind : ResourceKind} {told : SimulationRun} {shown : List String}
    (tale : (b.dress family).Tale (Catalog.standard.get? kind) b.id kind attempts.toNat (firstId seed) told)
    (shows : Cli.runText told = Cli.unlines shown) : Tells b family attempts seed kind told shown := by
  rintro c valid mem rfl
  have happens (interval : Option Duration) := (validate_ok_iff.mp valid).simulates mem interval seed named tale
  refine ⟨happens, fun chosen text intervalMs meant parsed => ?_⟩
  obtain ⟨d, starts, rfl, _⟩ := happens (some (.ofMillis (max intervalMs.toNat 1)))
  rw [simulate_of_deploy meant parsed starts, shows, Cli.unlines_cons]

/-- **Simulations from end to end.** A valid configuration has a backend of some built-in family, and the life of a resource
of some kind is simulated there, where ids count from some seed.

1. How that goes is settled by the entry of the backend and the number of attempts: the same is told and shown under every
   valid configuration with that entry and as many attempts, whatever its other backends and its time limit are, and
   whatever interval is given.
2. If the family does not declare making such resources, that is what the caller is told, and all that is shown. The
   simulation fails, and nothing has been made.
3. Otherwise the kind has a standard machine, and some look is the first to show a new resource settled by it, along the
   statuses through which the family moves the resource from the one under which it is made. If there are attempts enough for
   that look, the resource comes up, the three actions for its kind are sent, and all that the caller is told is success. The
   program shows how the resource is made and comes up, then each of the actions with the state that the family moves the
   resource into, and the status under which it leaves it: every result shown is marked as a success and says so. If there
   are not attempts enough, they run out, the simulation fails, and none of the actions is sent; shown is how the resource
   is made and that it does not come up, and nothing else. -/
theorem simulations_follow_profile (c : GatewayConfig) (valid : c.validate Profile.builtinNames = .ok ())
    (b : BackendEntry) (mem : b ∈ c.backends) (kind : ResourceKind) (seed : Nat) :
    ∃ family, Profile.ofName? b.profile = some family ∧ ∃ (told : SimulationRun) (shown : List String),
      Tells b family c.convergence.maxAttempts seed kind told shown ∧
      (family.capabilities.contains (Operation.create kind).name = false →
        told = ⟨.notSupported b.id (.create kind), none, [], none, some (.notCreated kind)⟩ ∧
        shown = Cli.failureLines "create" .notSupported .none
          ("Backend '" ++ b.id ++ "' does not support '" ++ (Operation.create kind).name ++ "'")) ∧
      (family.capabilities.contains (Operation.create kind).name = true →
        ∃ machine n, Catalog.standard.get? kind = some machine ∧ Settled (some machine) (family.stateAt kind n) ∧
          (∀ k < n, ¬ Settled (some machine) (family.stateAt kind k)) ∧ told.created.success = true ∧
          (n + 1 ≤ c.convergence.maxAttempts.toNat →
            (∀ sent ∈ told.actions, sent.2.success = true) ∧
            ∃ (taken : List (String × LifecycleState)) (final : String), taken.map Prod.fst = Simulation.script kind ∧
              family.tour? machine kind (n + 1) (Simulation.script kind) (family.broughtUp kind n) =
                some (taken.map Prod.snd, final) ∧
              told = ⟨.accepted (firstId seed) .pending, some (.converged (family.stateAt kind n)),
                taken.map fun t => (t.1, .accepted (firstId seed) t.2), some final, none⟩ ∧
              shown = Cli.acceptedLines "create" (firstId seed) .pending ++
                ["収束: Converged(" ++ (family.stateAt kind n).word ++ ")"] ++
                taken.flatMap (fun t => Cli.acceptedLines t.1 (firstId seed) t.2) ++
                ["最終ステータス (raw): " ++ final]) ∧
          (c.convergence.maxAttempts.toNat < n + 1 →
            told = ⟨.accepted (firstId seed) .pending, some (.exhausted c.convergence.maxAttempts.toNat
                (some (family.stateAt kind (c.convergence.maxAttempts.toNat - 1)))), [], none,
              some (.notConverged (firstId seed))⟩ ∧
            shown = Cli.acceptedLines "create" (firstId seed) .pending ++
              ["収束: Exhausted \x7b attempts: " ++ toString c.convergence.maxAttempts.toNat ++ ", last_seen: Some(" ++
                (family.stateAt kind (c.convergence.maxAttempts.toNat - 1)).word ++ ") \x7d"])) := by
  have valid := validate_ok_iff.mp valid
  obtain ⟨family, named, _⟩ := Profile.find_of_known (valid.known b mem)
  refine ⟨family, named, ?_⟩
  cases declared : family.capabilities.contains (Operation.create kind).name with
  | false =>
    exact ⟨_, _, tells_of_tale named (.unmade declared) (Cli.runText_unmade _ _ _), fun _ => ⟨rfl, rfl⟩, nofun⟩
  | true =>
    obtain ⟨machine, n, drawn, lively⟩ := Profile.exists_lively named declared
    have settled : Settled (some machine) (family.stateAt kind n) := (isSettledFor_iff _ _).mp lively.settled
    have restless (k : Nat) (earlier : k < n) : ¬ Settled (some machine) (family.stateAt kind k) :=
      (lively.undecided earlier).2
    have dressed := lively.dress b
    by_cases enough : n + 1 ≤ c.convergence.maxAttempts.toNat
    · obtain ⟨taken, left, names, tour, tale⟩ := dressed.exists_tale declared enough
      rw [Profile.stateAt_dress, ← drawn] at tale
      rw [Profile.tour?_dress, Profile.broughtUp_dress] at tour
      refine ⟨_, _, tells_of_tale named (tale _ _) (Cli.runText_made _ _ taken (some left) none), nofun, fun _ =>
        ⟨machine, n, drawn, settled, restless, rfl, fun _ => ⟨?_, taken, left, names, tour, rfl, ?_⟩,
          fun short => absurd enough (by omega)⟩⟩
      · intro sent among
        obtain ⟨t, _, rfl⟩ := List.mem_map.mp among
        rfl
      · rw [Cli.converged_line]
        rfl
    · have tale := dressed.lost_tale declared valid.attempts_pos (by omega)
      rw [Profile.stateAt_dress, ← drawn] at tale
      refine ⟨_, _, tells_of_tale named (tale _ _) (Cli.runText_made _ _ [] none _), nofun, fun _ =>
        ⟨machine, n, drawn, settled, restless, rfl, fun more => absurd more enough, fun _ => ⟨rfl, ?_⟩⟩⟩
      rw [Cli.exhausted_line]
      rfl

/-- The three backends with fewer attempts. -/
def hastyTrio : GatewayConfig := { trio with convergence := ⟨2, 1⟩ }

/-- The program shows how an instance in the west comes up with the third look and lives, that there are no load balancers,
and that an instance does not come up if there are only two attempts. -/
theorem west_lives :
    trio.validate Profile.builtinNames = .ok () ∧
      (∃ d : Deployment, trio.deploy none 7 = .ok d ∧
        let told := (Simulation.run d.gateway "west" .server d.session).1
        told.actions.map Prod.fst = ["start", "stop", "destroy"] ∧ (∀ sent ∈ told.actions, sent.2.success = true) ∧
          told.failure = none) ∧
      Cli.simulate trio 7 (some "west") "instance" 5 =
        ⟨Cli.unlines
          ["シミュレーション: instance on west",
            "✓ create",
            "\x7b",
            "  \"success\": true,",
            "  \"new_state\": \"PENDING\",",
            "  \"status_hint\": 202,",
            "  \"resource_id\": \"00000000-0000-4000-8000-000000000007\"",
            "\x7d",
            "収束: Converged(Stopped)",
            "✓ start",
            "\x7b",
            "  \"success\": true,",
            "  \"new_state\": \"RUNNING\",",
            "  \"status_hint\": 202,",
            "  \"resource_id\": \"00000000-0000-4000-8000-000000000007\"",
            "\x7d",
            "✓ stop",
            "\x7b",
            "  \"success\": true,",
            "  \"new_state\": \"STOPPED\",",
            "  \"status_hint\": 202,",
            "  \"resource_id\": \"00000000-0000-4000-8000-000000000007\"",
            "\x7d",
            "✓ destroy",
            "\x7b",
            "  \"success\": true,",
            "  \"new_state\": \"FINISH\",",
            "  \"status_hint\": 202,",
            "  \"resource_id\": \"00000000-0000-4000-8000-000000000007\"",
            "\x7d",
            "最終ステータス (raw): DELETED"], none⟩ ∧
      Cli.simulate trio 7 (some "west") "load_balancer" 5 =
        ⟨Cli.unlines
          ["シミュレーション: load_balancer on west",
            "✗ create",
            "\x7b",
            "  \"success\": false,",
            "  \"status_hint\": 501,",
            "  \"error\": \x7b",
            "    \"category\": \"not_supported\",",
            "    \"side_effect\": \"none\",",
            "    \"message\": \"Backend 'west' does not support 'create_load_balancer'\"",
            "  \x7d",
            "\x7d"], some (.simulation (.notCreated .loadBalancer))⟩ ∧
      Cli.simulate hastyTrio 7 (some "west") "instance" 5 =
        ⟨Cli.unlines
          ["シミュレーション: instance on west",
            "✓ create",
            "\x7b",
            "  \"success\": true,",
            "  \"new_state\": \"PENDING\",",
            "  \"status_hint\": 202,",
            "  \"resource_id\": \"00000000-0000-4000-8000-000000000007\"",
            "\x7d",
            "収束: Exhausted \x7b attempts: 2, last_seen: Some(Pending) \x7d"],
          some (.simulation (.notConverged "00000000-0000-4000-8000-000000000007"))⟩ := by
  have valid : trio.validate Profile.builtinNames = .ok () := by decide +kernel
  have mem : (⟨"west", "vcloud", none⟩ : BackendEntry) ∈ trio.backends := by simp [trio]
  have lively : (Catalog.standard.get? .server).all (fun machine => decide (Profile.vcloud.Lively machine .server 2)) := by
    decide +kernel
  have life : (Catalog.standard.get? .server).all (fun machine => decide
      (Profile.vcloud.tour? machine .server 3 ["start", "stop", "destroy"] (Profile.vcloud.broughtUp .server 2) =
        some ([.running, .stopped, .finish], "DELETED"))) := by decide +kernel
  refine ⟨valid, ?_⟩
  rw [← and_assoc]
  refine ⟨?_, ?_, ?_⟩
  · obtain ⟨vcloud, named, told, shown, tells, _, lives⟩ := simulations_follow_profile trio valid _ mem .server 7
    cases named
    obtain ⟨machine, n, drawn, settled, restless, _, enough, _⟩ := lives (by decide +kernel)
    rw [drawn] at lively life
    obtain rfl : n = 2 := Profile.Lively.first_unique (of_decide_eq_true lively) settled restless
    obtain ⟨succeeded, taken, final, names, tour, rfl, rfl⟩ := enough (by decide)
    obtain ⟨states, rfl⟩ := Prod.mk.inj (Option.some.inj (tour.symm.trans (of_decide_eq_true life)))
    obtain rfl : taken = [("start", .running), ("stop", .stopped), ("destroy", .finish)] := List.zip_of_prod names states
    obtain ⟨d, starts, goes, _⟩ := (tells trio valid mem rfl).1 none
    refine ⟨⟨d, starts, ?_⟩, (tells trio valid mem rfl).2 (some "west") "instance" 5 rfl rfl⟩
    rw [goes]
    exact ⟨rfl, succeeded, rfl⟩
  · obtain ⟨vcloud, named, told, shown, tells, refused, _⟩ := simulations_follow_profile trio valid _ mem .loadBalancer 7
    cases named
    obtain ⟨rfl, rfl⟩ := refused (by decide +kernel)
    exact (tells trio valid mem rfl).2 (some "west") "load_balancer" 5 rfl rfl
  · have valid : hastyTrio.validate Profile.builtinNames = .ok () := by decide +kernel
    obtain ⟨vcloud, named, told, shown, tells, _, lives⟩ := simulations_follow_profile hastyTrio valid _ mem .server 7
    cases named
    obtain ⟨machine, n, drawn, settled, restless, _, _, short⟩ := lives (by decide +kernel)
    rw [drawn] at lively
    obtain rfl : n = 2 := Profile.Lively.first_unique (of_decide_eq_true lively) settled restless
    obtain ⟨rfl, rfl⟩ := short (by decide)
    exact (tells hastyTrio valid mem rfl).2 (some "west") "instance" 5 rfl rfl

end GatewayConfig

end CloudLifecycle
