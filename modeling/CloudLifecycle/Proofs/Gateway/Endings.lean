import CloudLifecycle.Backend.Builtin
import CloudLifecycle.Proofs.Gateway.Lives
import CloudLifecycle.Proofs.Gateway.Parks
import Mathlib.Data.Nat.Find
import Mathlib.Tactic.SplitIfs

/-!
# How convergences end

A convergence goes by the shape of its machine. A state from which nothing leads away means to it that the resource is
destroyed, and any other state from which no progress leads away that it has come up. Whether that is so depends on the
machine and on the words of the backend.

1. What a life ends with was shown by the first lookup that decides (`Shows`, `shows_of_removed`, `shows_of_converged`).
2. A machine with a dead end besides that of a destroyed resource has resources that come up counted as destroyed
   (`removed_terminal`, `DeadEnd.removed_when_up`). The standard machines have none (`terminal_standard`).
3. With the standard machines, a resource has come up when it neither comes up nor stops; one of which the backend says
   that it is yet to be created counts as well (`converged_standing`, `Unmade.converged_before`). Among the built-in
   words only one says so (`resolve_paci`).
-/

namespace CloudLifecycle

variable {σ φ : Type} [Fleet σ φ]

namespace Gateway

/-! ## The lookup that decides -/

/-- The first answer that decides, within the attempts, shows the resource with a status that means the state `s`. -/
structure Shows (g : Gateway) (key : ResourceKey) (answered : Stream' (BackendResult (Option Resource))) (n : Nat)
    (resource : Resource) (s : LifecycleState) : Prop where
  inTime : n < g.plan.maxAttempts
  first : ∀ k < n, ¬ g.Decides key answered k
  shown : answered.get n = .ok (some resource)
  means : g.normalizer.normalize key.backend resource.rawStatus = s

section

variable {g : Gateway} {key : ResourceKey} {answered : Stream' (BackendResult (Option Resource))} {n : Nat}
  {resource : Resource} {s : LifecycleState}

theorem seen?_eq_some {answer : BackendResult (Option Resource)} :
    g.seen? key answer = some s ↔
      ∃ resource, answer = .ok (some resource) ∧ g.normalizer.normalize key.backend resource.rawStatus = s := by
  rcases answer with e | _ | resource <;> simp [seen?]

theorem Shows.seen (h : g.Shows key answered n resource s) : g.seen? key (answered.get n) = some s :=
  seen?_eq_some.mpr ⟨resource, h.shown, h.means⟩

variable {payload : Payload} {desks : Stream' (Desk σ)}

/-- Either some answer within the attempts is the first to decide, or none of them decides. -/
theorem first_decides_or_none (g : Gateway) (key : ResourceKey)
    (answered : Stream' (BackendResult (Option Resource))) :
    (∃ n < g.plan.maxAttempts, g.Decides key answered n ∧ ∀ k < n, ¬ g.Decides key answered k) ∨
      ∀ n < g.plan.maxAttempts, ¬ g.Decides key answered n := by
  classical
  by_cases h : ∃ n, n < g.plan.maxAttempts ∧ g.Decides key answered n
  · obtain ⟨more, decides⟩ := Nat.find_spec h
    have undecided : ∀ k < Nat.find h, ¬ g.Decides key answered k := fun k hk decides' =>
      Nat.find_min h hk ⟨Nat.lt_trans hk more, decides'⟩
    exact .inl ⟨Nat.find h, more, decides, undecided⟩
  · exact .inr fun n more decides => h ⟨n, more, decides⟩

/-- Either some answer is the first to decide, or the attempts run out. -/
theorem closes_or_exhausted (g : Gateway) (key : ResourceKey) (payload : Payload) (desks : Stream' (Desk σ)) :
    (∃ n < g.plan.maxAttempts, (∀ k < n, ¬ g.Decides key (answers key desks) k) ∧ ∃ calls,
      (g.life (.polling (.begin key payload)) desks).asked =
          List.replicate (n + 1) (.lookup key) ++ calls.map .call ∧
        g.Closes key payload ((answers key desks).get n) (g.observe key (desks.get n)).2 (desks.get (n + 1)) calls
          (g.life (.polling (.begin key payload)) desks).outcome) ∨
      g.life (.polling (.begin key payload)) desks =
        ⟨List.replicate g.plan.maxAttempts (.lookup key),
          .exhausted g.plan.maxAttempts (g.lastSeen key (answers key desks) g.plan.maxAttempts)⟩ := by
  rcases g.first_decides_or_none key (answers key desks) with ⟨n, more, decides, undecided⟩ | never
  · exact .inl ⟨n, more, undecided, life_closes payload more decides undecided⟩
  · exact .inr (life_of_not_decides payload never)

/-- A resource that is reported as destroyed was seen in a state from which nothing leads away, and nothing was called
for it. -/
theorem shows_of_removed (h : (g.life (.polling (.begin key payload)) desks).outcome = .removed (some s)) :
    ∃ n resource, g.Shows key (answers key desks) n resource s ∧ Terminal (g.catalog.get? key.kind) s ∧
      (g.life (.polling (.begin key payload)) desks).asked = List.replicate (n + 1) (.lookup key) := by
  rcases g.closes_or_exhausted key payload desks with ⟨n, more, undecided, calls, asked, closes⟩ | exhausted
  · rw [h] at closes
    cases closes with
    | destroyed _ shown terminal =>
      obtain ⟨resource, answer, means⟩ := seen?_eq_some.mp shown
      exact ⟨n, resource, ⟨more, undecided, answer, means⟩, terminal, by rw [asked]; exact List.append_nil _⟩
    | cameUp _ _ _ _ _ _ finishes => cases finishes
  · rw [exhausted] at h
    cases h

theorem removed_of_shows (h : g.Shows key (answers key desks) n resource s)
    (terminal : Terminal (g.catalog.get? key.kind) s) :
    (g.life (.polling (.begin key payload)) desks).outcome = .removed (some s) := by
  obtain ⟨calls, _, closes⟩ := life_closes payload h.inTime (.inl ⟨s, h.seen, .inl terminal⟩) h.first
  have seen := h.seen
  generalize (g.life (.polling (.begin key payload)) desks).outcome = outcome at closes ⊢
  cases closes with
  | destroyed s' shown _ =>
    obtain rfl : s' = s := Option.some.inj (shown.symm.trans seen)
    rfl
  | vanished absent =>
    rw [absent] at seen
    cases seen
  | cameUp s' shown moves _ _ _ _ =>
    obtain rfl : s' = s := Option.some.inj (shown.symm.trans seen)
    exact absurd terminal moves

/-- A resource comes up in a state if no progress leads away from that, but something else does. -/
def ComesUp (g : Gateway) (kind : ResourceKind) (s : LifecycleState) : Prop :=
  Settled (g.catalog.get? kind) s ∧ ¬ Terminal (g.catalog.get? kind) s

/-- A resource that is reported to have come up was seen to have done so. -/
theorem shows_of_converged (h : (g.life (.polling (.begin key payload)) desks).outcome = .converged s) :
    ∃ n resource, g.Shows key (answers key desks) n resource s ∧ g.ComesUp key.kind s := by
  rcases g.closes_or_exhausted key payload desks with ⟨n, more, undecided, calls, _, closes⟩ | exhausted
  · rw [h] at closes
    cases closes with
    | cameUp s' shown moves settled _ _ finishes =>
      obtain ⟨resource, answer, means⟩ := seen?_eq_some.mp shown
      have same : s' = s := by cases finishes <;> rfl
      subst same
      exact ⟨n, resource, ⟨more, undecided, answer, means⟩, settled, moves⟩
  · rw [exhausted] at h
    cases h

/-- A convergence calls for a resource only if it has seen that it has come up. -/
theorem shows_of_call {call : Call} (h : .call call ∈ (g.life (.polling (.begin key payload)) desks).asked) :
    ∃ n resource s, g.Shows key (answers key desks) n resource s ∧ g.ComesUp key.kind s := by
  rcases g.closes_or_exhausted key payload desks with ⟨n, more, undecided, calls, asked, closes⟩ | exhausted
  · generalize (g.life (.polling (.begin key payload)) desks).outcome = outcome at closes
    cases closes with
    | cameUp s shown moves settled _ _ finishes =>
      obtain ⟨resource, answer, means⟩ := seen?_eq_some.mp shown
      exact ⟨n, resource, s, ⟨more, undecided, answer, means⟩, settled, moves⟩
    | destroyed _ _ _ | vanished _ =>
      rw [asked] at h
      simp at h
  · rw [exhausted] at h
    simp at h

/-- A resource that the lookup that decides shows as come up is finished. -/
theorem finishes_of_shows (h : g.Shows key (answers key desks) n resource s) (comesUp : g.ComesUp key.kind s) :
    ∃ calls, (g.life (.polling (.begin key payload)) desks).asked =
        List.replicate (n + 1) (.lookup key) ++ calls.map .call ∧
      g.Finishes key payload s (g.observe key (desks.get n)).2 (desks.get (n + 1)) calls
        (g.life (.polling (.begin key payload)) desks).outcome := by
  obtain ⟨calls, asked, closes⟩ := life_closes payload h.inTime (.inl ⟨s, h.seen, .inr comesUp.1⟩) h.first
  have seen := h.seen
  refine ⟨calls, asked, ?_⟩
  generalize (g.life (.polling (.begin key payload)) desks).outcome = outcome at closes ⊢
  cases closes with
  | destroyed s' shown terminal =>
    obtain rfl : s' = s := Option.some.inj (shown.symm.trans seen)
    exact absurd terminal comesUp.2
  | vanished absent =>
    rw [absent] at seen
    cases seen
  | cameUp s' shown _ _ _ _ finishes =>
    obtain rfl : s' = s := Option.some.inj (shown.symm.trans seen)
    exact finishes

end

end Gateway

/-! ## In traffic -/

namespace Traffic

open Gateway

variable {g : Gateway} {moves : List (Move σ)} {desk : Desk σ} {key : ResourceKey} {s : LifecycleState}

theorem terminal_of_ended (h : .ended key (.removed (some s)) ∈ (run g moves (begin desk : Traffic σ φ)).1) :
    Terminal (g.catalog.get? key.kind) s := by
  obtain ⟨payload, seen, _, lives⟩ := exists_life_of_ended h
  obtain ⟨_, _, _, terminal, _⟩ := shows_of_removed (lives (Stream'.const desk))
  exact terminal

theorem comesUp_of_ended (h : .ended key (.converged s) ∈ (run g moves (begin desk : Traffic σ φ)).1) :
    g.ComesUp key.kind s ∧ ∃ raw, g.normalizer.normalize key.backend raw = s := by
  obtain ⟨payload, seen, _, lives⟩ := exists_life_of_ended h
  obtain ⟨_, resource, shows, comesUp⟩ := shows_of_converged (lives (Stream'.const desk))
  exact ⟨comesUp, resource.rawStatus, shows.means⟩

/-- A convergence that waits for the call that finishes its resource has seen it come up. -/
theorem comesUp_of_finishing (g : Gateway) (moves : List (Move σ)) (desk : Desk σ) :
    ∀ job ∈ (run g moves (begin desk : Traffic σ φ)).2.jobs, ∀ c s flight, job = .converging (.finishing c s flight) →
      g.ComesUp c.key.kind s ∧ ∃ raw, g.normalizer.normalize c.key.backend raw = s := by
  induction moves using List.reverseRecOn with
  | nil => exact List.forall_mem_nil _
  | append_singleton moves move ih =>
    rw [run_concat]
    refine forall_jobs_step ih ?_ ?_
    · rintro demand job next c s flight rfl
      have taken := g.accepted (φ := φ) demand (run g moves (begin desk : Traffic σ φ)).2.desk
      generalize (g.accept demand _ : Stretch σ φ) = stretch at taken next
      cases taken <;> cases next
    · rintro job mem _ next later c s flight rfl
      have gone := g.resumed job (run g moves (begin desk : Traffic σ φ)).2.desk
      generalize (g.resume job _ : Stretch σ φ) = stretch at gone later
      cases gone with
      | provisioned request flight' =>
        obtain ⟨c', _, new⟩ := Option.map_eq_some_iff.mp later
        cases new
      | going before rest time desk' turn =>
        cases later
        have step := g.advanced before (run g moves (begin desk : Traffic σ φ)).2.desk
        rw [turn] at step
        cases step with
        | finishes c' kept same s' seen moving settled =>
          rw [same]
          refine ⟨⟨(isSettledFor_iff _ _).mp settled, ?_⟩, ?_⟩
          · rw [← isTerminalFor_iff, moving]
            exact Bool.false_ne_true
          · obtain ⟨resource, _, means⟩ := resource_of_observe seen
            exact ⟨resource.rawStatus, means⟩
      | _ => cases later

end Traffic

/-! ## Destroyed resources -/

/-- With the standard machines, and without any, nothing but a destroyed resource is at a dead end. -/
theorem terminal_standard {kind : ResourceKind} {s : LifecycleState}
    (h : Terminal (Catalog.standard.get? kind) s) : s = .finish := by
  have all : ∀ kind ∈ ResourceKind.all, ∀ s ∈ LifecycleState.all,
      isTerminalFor (Catalog.standard.get? kind) s = true → s = .finish := by
    decide
  exact all kind (ResourceKind.mem_all kind) s (LifecycleState.mem_all s) ((isTerminalFor_iff _ _).mpr h)

/-- **Resources reported as destroyed.** Over any fleet, with any machines and any words of the backends:

1. a convergence reports that its resource was destroyed in a state exactly if the first lookup that decides shows the
   resource in that state, and nothing leads away from it; then it has made lookups and nothing else;
2. so does every convergence that comes to its end in some traffic;
3. where the machine for the kind has no dead end but that of a destroyed resource, as is the case for the standard
   machines and for a kind without one, a resource that is reported as destroyed is in that state. -/
theorem Gateway.removed_terminal (g : Gateway) (key : ResourceKey) (payload : Payload) (desks : Stream' (Desk σ)) :
    let answered := answers key desks
    let life := g.life (.polling (.begin key payload)) desks
    (∀ s, life.outcome = .removed (some s) ↔
      ∃ n resource, g.Shows key answered n resource s ∧ Terminal (g.catalog.get? key.kind) s) ∧
    (∀ s, life.outcome = .removed (some s) → ∃ n, life.asked = List.replicate (n + 1) (.lookup key)) ∧
    (∀ moves (desk : Desk σ) s, .ended key (.removed (some s)) ∈ (Traffic.run g moves (.begin desk)).1 →
      Terminal (g.catalog.get? key.kind) s) ∧
    (g.catalog.get? key.kind = none ∨ g.catalog = .standard → ∀ s, Terminal (g.catalog.get? key.kind) s → s = .finish) := by
  intro answered life
  refine ⟨fun s => ⟨fun h => ?_, ?_⟩, fun s h => ?_, fun moves desk s => Traffic.terminal_of_ended, ?_⟩
  · obtain ⟨n, resource, shows, terminal, _⟩ := shows_of_removed h
    exact ⟨n, resource, shows, terminal⟩
  · rintro ⟨n, resource, shows, terminal⟩
    exact removed_of_shows shows terminal
  · obtain ⟨n, _, _, _, asked⟩ := shows_of_removed h
    exact ⟨n, asked⟩
  · rintro (none | standard) s terminal
    · rw [none] at terminal
      exact terminal
    · rw [standard] at terminal
      exact terminal_standard terminal

/-- How the convergences of an event end. -/
def Event.outcome? : Event → Option (ResourceKey × Outcome)
  | .ended key outcome => some (key, outcome)
  | .reached _ | .acted _ _ | .provisioned _ _ | .claimed _ | .refused _ | .stated _ _ | .listed _ _ | .cleared _ _ => none

theorem Event.ended_of_outcome {events : List Event} {key : ResourceKey} {outcome : Outcome}
    (h : events.filterMap Event.outcome? = [(key, outcome)]) : .ended key outcome ∈ events := by
  obtain ⟨event, mem, ends⟩ := List.mem_filterMap.mp (h ▸ List.mem_singleton_self (key, outcome))
  cases event with
  | ended _ _ =>
    cases ends
    exact mem
  | _ => cases ends

namespace DeadEnd

open Solo

/-- Servers that are stopped once they have come up, and stay so. -/
def draft : MachineDraft :=
  MachineDraft.start .server .start
    |>.on .start "create" .pending
    |>.automatically .pending .stopped

/-- The machine of the draft. -/
def machine : Machine := (Machine.build draft).toOption.get (by decide)

/-- A plain backend. -/
def backend : SimulatedBackend := .new .mock

/-- A gateway before it, with that machine alone. -/
def before : Gateway := { gateway backend with catalog := Catalog.empty.insert machine }

/-- A server is made, and looked at until it has come up. -/
def comingUp : List (Move (Recorded Park)) := [order backend, .resume 0, .resume 0, .resume 0]

/-- A server comes up, and nobody has asked to destroy it; but it is reported as destroyed, its guard is lifted, and it
is not finished, although its backend declares the call that would do so. -/
theorem removed_when_up :
    let ran := Traffic.run before comingUp (.begin (desk backend))
    Machine.build draft = .ok machine ∧
      ran.1.filterMap Event.outcome? = [(server backend, .removed (some .stopped))] ∧
      ran.2.desk.fleet.fleet.rawStatus? (server backend) = some "stopped" ∧
      ran.2.desk.guards.get? (server backend) = none ∧
      Fleet.supports ran.2.desk.fleet backend.profile.id (Operation.postCreate .server).name = true ∧
      ran.2.desk.fleet.record.filterMap Ask.call? = [Gateway.createCall ⟨backend.profile.id, .server, .none, .null⟩] := by
  decide +kernel

end DeadEnd

/-! ## Resources that have come up -/

theorem comesUp_standard {g : Gateway} (standard : g.catalog = .standard) {kind : ResourceKind} {machine : Machine}
    (hm : g.catalog.get? kind = some machine) {s : LifecycleState} (h : g.ComesUp kind s) :
    s ∈ [LifecycleState.start, .running, .stopped, .paused, .suspended] := by
  have all : ∀ kind ∈ ResourceKind.all, ∀ machine ∈ Catalog.standard.get? kind, ∀ s ∈ LifecycleState.all,
      isSettledFor (some machine) s = true → isTerminalFor (some machine) s = false →
        s ∈ [LifecycleState.start, .running, .stopped, .paused, .suspended] := by
    decide
  obtain ⟨settled, moves⟩ := h
  rw [standard] at hm settled moves
  rw [hm] at settled moves
  exact all kind (ResourceKind.mem_all kind) machine hm s (LifecycleState.mem_all s) ((isSettledFor_iff _ _).mpr settled)
    (eq_false_of_ne_true (mt (isTerminalFor_iff _ _).mp moves))

theorem start_comesUp {g : Gateway} (standard : g.catalog = .standard) {kind : ResourceKind} {machine : Machine}
    (hm : g.catalog.get? kind = some machine) : g.ComesUp kind .start := by
  have all : ∀ kind ∈ ResourceKind.all, ∀ machine ∈ Catalog.standard.get? kind,
      isSettledFor (some machine) .start = true ∧ isTerminalFor (some machine) .start = false := by
    decide
  rw [standard] at hm
  obtain ⟨settled, moves⟩ := all kind (ResourceKind.mem_all kind) machine hm
  unfold Gateway.ComesUp
  rw [standard, hm, ← isSettledFor_iff, ← isTerminalFor_iff]
  exact ⟨settled, ne_true_of_eq_false moves⟩

/-! ### The built-in words -/

theorem resolve_paci (raw : String) : Profile.paciTable.resolve raw = .start ↔ StatusTable.fold raw = "CREATE" := by
  have folded : StatusTable.fold "CREATE" = "CREATE" := by decide
  constructor
  · by_cases created : StatusTable.fold "CREATE" = StatusTable.fold raw
    · exact fun _ => created.symm.trans folded
    · simp only [Profile.paciTable, StatusTable.resolve_map, StatusTable.resolve_mapAll, StatusTable.resolve_empty,
        if_neg created]
      split_ifs <;> exact nofun
  · intro created
    rw [StatusTable.resolve_congr (created.trans folded.symm)]
    decide

theorem resolve_vcloud (raw : String) : Profile.vcloudTable.resolve raw ≠ .start := by
  -- The fallback that the table sets is the one that it has without being told.
  show (((StatusTable.empty.mapAll _ .running).mapAll _ .stopped).map _ .finish).resolve raw ≠ .start
  simp only [StatusTable.resolve_map, StatusTable.resolve_mapAll, StatusTable.resolve_empty]
  split_ifs <;> exact nofun

theorem resolve_mock (raw : String) : Profile.mockTable.resolve raw ≠ .start := by
  simp only [Profile.mockTable, StatusTable.resolve_map, StatusTable.resolve_mapAll, StatusTable.resolve_empty]
  split_ifs <;> exact nofun

/-- **Resources that have come up.** With the standard machines, for a kind that has one, over any fleet and with any
words of the backends:

1. a convergence reports a resource to have come up only in the state in which the first lookup that decides shows it,
   and that is one in which it neither comes up nor stops;
2. the call that finishes a resource is made only after such a lookup;
3. a resource that is yet to be created, as far as its backend says, is finished like any that has come up;
4. all this holds of every convergence that comes to its end in some traffic, or waits there for that call;
5. with the words of vCloud and those of the plain profile no resource is yet to be created, and with those of PACI only
   one whose status is `CREATE`. -/
theorem Gateway.converged_standing (g : Gateway) (standard : g.catalog = .standard) (key : ResourceKey)
    (machine : Machine) (hm : g.catalog.get? key.kind = some machine) (payload : Payload) (desks : Stream' (Desk σ)) :
    let up := [LifecycleState.start, .running, .stopped, .paused, .suspended]
    let answered := answers key desks
    let life := g.life (.polling (.begin key payload)) desks
    (∀ s, life.outcome = .converged s → s ∈ up ∧ ∃ n resource, g.Shows key answered n resource s) ∧
    (∀ call, .call call ∈ life.asked → ∃ s ∈ up, ∃ n resource, g.Shows key answered n resource s) ∧
    (∀ n resource, g.Shows key answered n resource .start → ∃ calls,
      life.asked = List.replicate (n + 1) (.lookup key) ++ calls.map .call ∧
        g.Finishes key payload .start (g.observe key (desks.get n)).2 (desks.get (n + 1)) calls life.outcome) ∧
    (∀ moves (desk : Desk σ),
      let ran := Traffic.run g moves (.begin desk)
      ∀ s, .ended key (.converged s) ∈ ran.1 ∨
          (∃ c flight, c.key = key ∧ .converging (.finishing c s flight) ∈ ran.2.jobs) →
        s ∈ up ∧ ∃ raw, g.normalizer.normalize key.backend raw = s) ∧
    ∀ raw, g.normalizer.normalize key.backend raw = .start →
      g.normalizer.table? key.backend ≠ some Profile.vcloudTable ∧
      g.normalizer.table? key.backend ≠ some Profile.mockTable ∧
      (g.normalizer.table? key.backend = some Profile.paciTable → StatusTable.fold raw = "CREATE") := by
  intro up answered life
  have comesUp {s : LifecycleState} (h : g.ComesUp key.kind s) : s ∈ up := comesUp_standard standard hm h
  refine ⟨fun s h => ?_, fun call mem => ?_, fun n resource shows => ?_, ?_, ?_⟩
  · obtain ⟨n, resource, shows, h⟩ := shows_of_converged h
    exact ⟨comesUp h, n, resource, shows⟩
  · obtain ⟨n, resource, s, shows, h⟩ := shows_of_call mem
    exact ⟨s, comesUp h, n, resource, shows⟩
  · exact finishes_of_shows shows (start_comesUp standard hm)
  · rintro moves desk ran s (ended | ⟨c, flight, rfl, waits⟩)
    · obtain ⟨h, raw, means⟩ := Traffic.comesUp_of_ended ended
      exact ⟨comesUp h, raw, means⟩
    · obtain ⟨h, raw, means⟩ := Traffic.comesUp_of_finishing g moves desk _ waits c s flight rfl
      exact ⟨comesUp h, raw, means⟩
  · intro raw means
    have resolved {table : StatusTable} (there : g.normalizer.table? key.backend = some table) :
        table.resolve raw = .start := by
      rw [← means, Normalizer.normalize, there]
    exact ⟨fun vcloud => resolve_vcloud raw (resolved vcloud), fun mock => resolve_mock raw (resolved mock),
      fun paci => (resolve_paci raw).mp (resolved paci)⟩

namespace Unmade

open Solo

/-- A backend that says of a new resource at first that it is yet to be created. -/
def backend : SimulatedBackend := .new (Profile.paci.createdAs "CREATE" |>.progress "CREATE" "CREATION_IN_PROGRESS")

/-- A server is made, and looked at once. -/
def seenOnce : List (Move (Recorded Park)) := [order backend, .resume 0, .resume 0]

/-- A server that is yet to be created is reported to have come up and loses its guard. The next look will find it coming
up. -/
theorem converged_before :
    let ran := Traffic.run (gateway backend) seenOnce (.begin (desk backend))
    ran.1.filterMap Event.outcome? = [(server backend, .converged .start)] ∧
      ran.2.desk.guards.get? (server backend) = none ∧
      ran.2.desk.fleet.fleet.rawStatus? (server backend) = some "CREATION_IN_PROGRESS" ∧
      (gateway backend).normalizer.normalize backend.profile.id "CREATION_IN_PROGRESS" = .pending ∧
      ((gateway backend).catalog.get? .server).isSome = true := by
  decide +kernel

/-- The status that the look has shown was the one word of PACI that means this. -/
theorem shown_as_create :
    ∃ raw, (gateway backend).normalizer.normalize backend.profile.id raw = .start ∧
      StatusTable.fold raw = "CREATE" := by
  have converged : (Traffic.run (gateway backend) seenOnce (.begin (desk backend))).1.filterMap Event.outcome? =
      [(server backend, .converged .start)] := by decide +kernel
  have words : (gateway backend).normalizer.table? (server backend).backend = some Profile.paciTable := by decide +kernel
  have known : ((gateway backend).catalog.get? (server backend).kind).isSome = true := by decide +kernel
  obtain ⟨machine, found⟩ := Option.isSome_iff_exists.mp known
  have standing := (gateway backend).converged_standing rfl (server backend) machine found .empty
    (Stream'.const (desk backend))
  obtain ⟨_, _, _, inTraffic, builtin⟩ := standing
  obtain ⟨_, raw, means⟩ := inTraffic seenOnce (desk backend) .start (.inl (Event.ended_of_outcome converged))
  exact ⟨raw, means, (builtin raw means).2.2 words⟩

end Unmade

end CloudLifecycle
