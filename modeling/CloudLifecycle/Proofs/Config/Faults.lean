import CloudLifecycle.Proofs.Config.Validity
import CloudLifecycle.Proofs.Text.Folded

/-!
# The first fault of a configuration

A configuration may be wrong in several places at once. What is wrong at each place is said without regard to the
others (`GatewayConfig.Violated`), and the places stand in a list (`GatewayConfig.checks`): the limits, whether there are
backends, then for each backend in turn its id, whether the id is new and its profile, and the default at last.
Validation names the fault of the first place in this list at which something is wrong (`GatewayConfig.first_fault?`).

The proof goes down the checks of the validation and the list of places together (`FirstFault.cons`). For the backends it
is by induction on those that are left; the ids that were seen are those of the backends before.
-/

namespace CloudLifecycle

/-! ## The first of several places -/

section

variable {α β : Type} {V : α → β → Prop} {as bs : List α} {a : α} {b : β} {o o' : Option β}

/-- What is found when places are looked at in their order: the fault of the first one that has one, if any has. -/
def FirstFault (V : α → β → Prop) (as : List α) : Option β → Prop
  | none => ∀ a ∈ as, ∀ b, ¬ V a b
  | some b => ∃ before a after, as = before ++ a :: after ∧ (∀ a' ∈ before, ∀ b', ¬ V a' b') ∧ V a b

theorem FirstFault.nil : FirstFault V [] none := nofun

theorem FirstFault.cons {p : Prop} [Decidable p] (decides : ∀ b', V a b' ↔ p ∧ b' = b) (rest : FirstFault V as o) :
    FirstFault V (a :: as) (if p then some b else o) := by
  split_ifs with wrong
  · exact ⟨[], a, as, rfl, nofun, (decides b).mpr ⟨wrong, rfl⟩⟩
  · have right : ∀ b', ¬ V a b' := fun b' violated => wrong ((decides b').mp violated).1
    cases o with
    | none => exact List.forall_mem_cons.mpr ⟨right, rest⟩
    | some b' =>
      obtain ⟨before, a', after, rfl, passed, violated⟩ := rest
      exact ⟨a :: before, a', after, rfl, List.forall_mem_cons.mpr ⟨right, passed⟩, violated⟩

theorem FirstFault.append (first : FirstFault V as o) (second : FirstFault V bs o') : FirstFault V (as ++ bs) (o <|> o') := by
  cases o with
  | some b =>
    obtain ⟨before, a, after, rfl, passed, violated⟩ := first
    exact ⟨before, a, after ++ bs, by simp, passed, violated⟩
  | none =>
    cases o' with
    | none => exact List.forall_mem_append.mpr ⟨first, second⟩
    | some b =>
      obtain ⟨before, a, after, rfl, passed, violated⟩ := second
      exact ⟨as ++ before, a, after, by simp, List.forall_mem_append.mpr ⟨first, passed⟩, violated⟩

/-- Where each place has one fault at most, what is found is determined. -/
theorem FirstFault.unique (h : FirstFault V as o) (h' : FirstFault V as o') (single : ∀ a b b', V a b → V a b' → b = b') :
    o = o' := by
  cases o with
  | none =>
    cases o' with
    | none => rfl
    | some b' =>
      obtain ⟨before, a, after, rfl, _, violated⟩ := h'
      exact absurd violated (h a (by simp) b')
  | some b =>
    obtain ⟨before, a, after, rfl, passed, violated⟩ := h
    cases o' with
    | none => exact absurd violated (h' a (by simp) b)
    | some b' =>
      obtain ⟨before', a', after', split, passed', violated'⟩ := h'
      -- were one of the two places before the other, something would be wrong at a place that was passed
      rcases List.append_eq_append_iff.mp split with ⟨_ | ⟨_, between⟩, rfl, rest⟩ | ⟨_ | ⟨_, between⟩, rfl, rest⟩
      · cases rest
        exact congrArg some (single a b b' violated violated')
      · cases rest
        exact absurd violated (passed' a (by simp) b)
      · cases rest
        exact congrArg some (single a b b' violated violated')
      · cases rest
        exact absurd violated' (passed a' (by simp) b')

end

namespace GatewayConfig

/-! ## Places -/

/-- A place at which a configuration may be wrong. Backends are numbered from zero. -/
inductive Check where
  | timeout
  | attempts
  | interval
  | backends
  | visible (n : Nat)
  | distinct (n : Nat)
  | profile (n : Nat)
  | default

/-- The places of the `n`th backend, in their order. -/
def entryChecks (n : Nat) : List Check := [.visible n, .distinct n, .profile n]

/-- All places of a configuration, in their order. -/
def checks (c : GatewayConfig) : List Check :=
  [.timeout, .attempts, .interval, .backends] ++ ((List.range c.backends.length).flatMap entryChecks ++ [.default])

/-- Whether a fault is what is wrong with a configuration at a place. -/
def Violated (known : List String) (c : GatewayConfig) : Check → ConfigFault → Prop
  | .timeout, fault => c.dispatch.backendTimeoutMs = 0 ∧ fault = .zeroTimeout
  | .attempts, fault => c.convergence.maxAttempts = 0 ∧ fault = .noAttempts
  | .interval, fault => c.convergence.pollIntervalMs = 0 ∧ fault = .zeroInterval
  | .backends, fault => c.backends = [] ∧ fault = .noBackends
  | .visible n, fault => ∃ b, c.backends[n]? = some b ∧ Text.trim b.id = "" ∧ fault = .blankId
  | .distinct n, fault => ∃ b, c.backends[n]? = some b ∧ fault = .repeatedId b.id ∧
    ∃ m earlier, m < n ∧ c.backends[m]? = some earlier ∧ earlier.id = b.id
  | .profile n, fault => ∃ b, c.backends[n]? = some b ∧ b.profile ∉ known ∧ fault = .unknownProfile b.id b.profile known
  | .default, fault => ∃ id, c.defaultBackend = some id ∧ (∀ b ∈ c.backends, b.id ≠ id) ∧ fault = .unknownDefault id

theorem Violated.unique {known : List String} {c : GatewayConfig} {check : Check} {fault fault' : ConfigFault}
    (h : Violated known c check fault) (h' : Violated known c check fault') : fault = fault' := by
  cases check with
  | timeout | attempts | interval | backends => exact h.2.trans h'.2.symm
  | visible n =>
    obtain ⟨_, _, _, rfl⟩ := h
    obtain ⟨_, _, _, rfl⟩ := h'
    rfl
  | distinct n =>
    obtain ⟨b, there, rfl, _⟩ := h
    obtain ⟨b', there', rfl, _⟩ := h'
    cases there.symm.trans there'
    rfl
  | profile n =>
    obtain ⟨b, there, _, rfl⟩ := h
    obtain ⟨b', there', _, rfl⟩ := h'
    cases there.symm.trans there'
    rfl
  | default =>
    obtain ⟨id, named, _, rfl⟩ := h
    obtain ⟨id', named', _, rfl⟩ := h'
    cases named.symm.trans named'
    rfl

/-! ## The order of the checks -/

section

variable {known : List String} {c : GatewayConfig} {before after : List BackendEntry} {b : BackendEntry} {n : Nat}
  {fault : ConfigFault}

theorem violated_visible_iff (there : c.backends[n]? = some b) :
    Violated known c (.visible n) fault ↔ Text.isBlankText b.id = true ∧ fault = .blankId := by
  rw [← Text.trim_eq_empty_iff]
  simp [Violated, there]

/-- The ids of the backends before one are those that were seen when it is checked. -/
theorem violated_distinct_iff (split : c.backends = before ++ b :: after) :
    Violated known c (.distinct before.length) fault ↔
      (before.map (·.id)).reverse.contains b.id = true ∧ fault = .repeatedId b.id := by
  have there : c.backends[before.length]? = some b := by simp [split]
  rw [List.contains_iff_mem, List.mem_reverse, List.mem_map]
  constructor
  · rintro ⟨_, there', told, m, earlier, lt, there'', same⟩
    cases there.symm.trans there'
    rw [split, List.getElem?_append_left lt] at there''
    exact ⟨⟨earlier, List.mem_of_getElem? there'', same⟩, told⟩
  · rintro ⟨⟨earlier, mem, same⟩, told⟩
    obtain ⟨m, lt, rfl⟩ := List.getElem_of_mem mem
    refine ⟨b, there, told, m, before[m], lt, ?_, same⟩
    rw [split, List.getElem?_append_left lt, List.getElem?_eq_getElem lt]

theorem violated_profile_iff (there : c.backends[n]? = some b) :
    Violated known c (.profile n) fault ↔
      (!known.contains b.profile) = true ∧ fault = .unknownProfile b.id b.profile known := by
  simp [Violated, there]

/-- A backend is at fault at the first of its places at which something is wrong. -/
theorem first_entry_fault? (split : c.backends = before ++ b :: after) :
    FirstFault (Violated known c) (entryChecks before.length) (b.fault? known (before.map (·.id)).reverse) := by
  have there : c.backends[before.length]? = some b := by simp [split]
  exact .cons (fun _ => violated_visible_iff there) (.cons (fun _ => violated_distinct_iff split)
    (.cons (fun _ => violated_profile_iff there) .nil))

/-- The same for all backends that are left. -/
theorem first_backendFault? (rest : List BackendEntry) (split : c.backends = before ++ rest) :
    FirstFault (Violated known c) ((List.range' before.length rest.length).flatMap entryChecks)
      (backendFault? known (before.map (·.id)).reverse rest) := by
  induction rest generalizing before with
  | nil => exact .nil
  | cons b rest ih =>
    have others := @ih (before ++ [b]) (by rw [split, List.append_assoc, List.singleton_append])
    rw [List.map_append, List.reverse_append, List.length_append] at others
    rw [List.length_cons, List.range'_succ, List.flatMap_cons]
    exact (first_entry_fault? split).append others

theorem first_default_fault? :
    FirstFault (Violated known c) [.default] (match c.defaultBackend with
      | some id => if (c.backend? id).isNone then some (.unknownDefault id) else none
      | none => none) := by
  cases named : c.defaultBackend with
  | none => simp [FirstFault, Violated, named]
  | some id =>
    have missing : (c.backend? id).isNone = true ↔ ∀ b ∈ c.backends, b.id ≠ id := by simp [backend?]
    refine .cons (fun fault => ?_) .nil
    rw [missing]
    simp [Violated, named]

/-- Validation finds the fault of the first place at which something is wrong. -/
theorem first_fault? (known : List String) (c : GatewayConfig) :
    FirstFault (Violated known c) c.checks (c.fault? known) := by
  have backends : FirstFault (Violated known c) ((List.range c.backends.length).flatMap entryChecks)
      (backendFault? known [] c.backends) := by
    rw [List.range_eq_range']
    exact @first_backendFault? known c [] c.backends rfl
  have empty : ∀ fault, Violated known c .backends fault ↔ c.backends.isEmpty = true ∧ fault = .noBackends := by
    simp [Violated]
  exact .cons (fun _ => Iff.rfl) (.cons (fun _ => Iff.rfl) (.cons (fun _ => Iff.rfl)
    (.cons empty (backends.append first_default_fault?))))

end

/-- **Validation is exact.** For every configuration and every list of known profiles:

1. the configuration is accepted exactly if its limits are positive, it has backends, no id is blank, the ids are pairwise
different, every profile is known, and the default, if one is named, is the id of a backend; and this is so exactly if
nothing is wrong at any of its places;
2. it is refused exactly as invalid for the fault of the first place at which something is wrong: the limits in their order,
whether there are backends, of each backend in turn its id, whether an earlier one has that id and its profile, and the
default at last. -/
theorem validate_decided (known : List String) (c : GatewayConfig) :
    (c.validate known = .ok () ↔ c.Valid known) ∧
    (c.validate known = .ok () ↔ FirstFault (Violated known c) c.checks none) ∧
    ∀ e, c.validate known = .error e ↔
      ∃ fault, e = .invalid fault ∧ FirstFault (Violated known c) c.checks (some fault) := by
  have decides (o) : FirstFault (Violated known c) c.checks o ↔ c.fault? known = o := by
    constructor
    · intro first
      exact (first_fault? known c).unique first fun _ _ _ => Violated.unique
    · rintro rfl
      exact first_fault? known c
  refine ⟨validate_ok_iff, ?_, fun e => ?_⟩
  all_goals
    simp only [decides]
    unfold validate
  · cases c.fault? known <;> simp
  · cases c.fault? known <;> simp [eq_comm]

/-- The second backend repeats an id and plays a profile that is unknown: the id is what is told. -/
example : validate ["mock"] { standard with backends := [⟨"a", "mock", none⟩, ⟨"a", "ec2", none⟩] } =
    .error (.invalid (.repeatedId "a")) := by
  rfl

end GatewayConfig

end CloudLifecycle
