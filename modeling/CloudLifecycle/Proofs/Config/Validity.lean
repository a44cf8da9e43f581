import CloudLifecycle.Config.Validation
import Mathlib.Data.List.Nodup

/-!
# What a valid configuration is

Validation stops at the first thing that is wrong. A configuration in which it finds nothing is one that satisfies all of
`GatewayConfig.Valid`, which is stated without the order of the checks (`GatewayConfig.validate_ok_iff`).
-/

namespace CloudLifecycle

open GatewayConfig

/-- A configuration with positive limits and some backends, each with an id of its own and a known profile. The default,
if one is named, is among them. -/
structure GatewayConfig.Valid (known : List String) (c : GatewayConfig) : Prop where
  timeout_pos : 0 < c.dispatch.backendTimeoutMs.toNat
  attempts_pos : 0 < c.convergence.maxAttempts.toNat
  interval_pos : 0 < c.convergence.pollIntervalMs.toNat
  nonempty : c.backends ≠ []
  visible : ∀ b ∈ c.backends, Text.isBlankText b.id = false
  distinct : (c.backends.map (·.id)).Nodup
  known : ∀ b ∈ c.backends, b.profile ∈ known
  default : ∀ id, c.defaultBackend = some id → ∃ b ∈ c.backends, b.id = id

theorem BackendEntry.fault?_eq_none_iff {known earlier : List String} {b : BackendEntry} :
    b.fault? known earlier = none ↔ Text.isBlankText b.id = false ∧ b.id ∉ earlier ∧ b.profile ∈ known := by
  unfold fault?
  split_ifs with blank repeated unknown
  · simp [blank]
  · simp [List.contains_iff_mem.mp repeated]
  · simp_all
  · simp_all

theorem GatewayConfig.backendFault?_eq_none_iff {known earlier : List String} {bs : List BackendEntry} :
    backendFault? known earlier bs = none ↔
      (∀ b ∈ bs, Text.isBlankText b.id = false ∧ b.profile ∈ known ∧ b.id ∉ earlier) ∧ (bs.map (·.id)).Nodup := by
  induction bs generalizing earlier with
  | nil => simp [backendFault?]
  | cons b bs ih =>
    have first : backendFault? known earlier (b :: bs) = none ↔
        b.fault? known earlier = none ∧ backendFault? known (b.id :: earlier) bs = none := by
      simp [backendFault?]
    rw [first, BackendEntry.fault?_eq_none_iff, ih, List.forall_mem_cons, List.map_cons, List.nodup_cons]
    constructor
    · rintro ⟨⟨visible, new, plays⟩, others, distinct⟩
      refine ⟨⟨⟨visible, plays, new⟩, fun b' mem => ?_⟩, fun again => ?_, distinct⟩
      · obtain ⟨visible', plays', new'⟩ := others b' mem
        exact ⟨visible', plays', fun old => new' (List.mem_cons_of_mem _ old)⟩
      · obtain ⟨b', mem, same⟩ := List.mem_map.mp again
        exact (others b' mem).2.2 (same ▸ List.mem_cons_self)
    · rintro ⟨⟨⟨visible, plays, new⟩, others⟩, unrepeated, distinct⟩
      refine ⟨⟨visible, new, plays⟩, fun b' mem => ?_, distinct⟩
      obtain ⟨visible', plays', new'⟩ := others b' mem
      refine ⟨visible', plays', fun old => ?_⟩
      rcases List.mem_cons.mp old with same | old
      · exact unrepeated (same ▸ List.mem_map_of_mem mem)
      · exact new' old

/-- Whether a backend is configured under an id. -/
theorem GatewayConfig.isSome_backend?_iff {c : GatewayConfig} {id : String} :
    (c.backend? id).isSome = true ↔ ∃ b ∈ c.backends, b.id = id := by
  simp [backend?]

theorem GatewayConfig.validate_ok_iff {known : List String} {c : GatewayConfig} :
    c.validate known = .ok () ↔ c.Valid known := by
  have accepted : c.validate known = .ok () ↔ c.fault? known = none := by
    unfold validate
    cases c.fault? known <;> simp
  rw [accepted]
  unfold fault?
  split_ifs with timeout attempts interval empty
  · exact iff_of_false nofun fun valid => absurd valid.timeout_pos (by simp [timeout])
  · exact iff_of_false nofun fun valid => absurd valid.attempts_pos (by simp [attempts])
  · exact iff_of_false nofun fun valid => absurd valid.interval_pos (by simp [interval])
  · exact iff_of_false nofun fun valid => valid.nonempty (List.isEmpty_iff.mp empty)
  · have backends : backendFault? known [] c.backends = none ↔ _ := backendFault?_eq_none_iff
    have whole : c.Valid known ↔ backendFault? known [] c.backends = none ∧
        ∀ id, c.defaultBackend = some id → (c.backend? id).isSome = true := by
      rw [backends]
      simp only [isSome_backend?_iff]
      constructor
      · intro valid
        exact ⟨⟨fun b mem => ⟨valid.visible b mem, valid.known b mem, List.not_mem_nil⟩, valid.distinct⟩, valid.default⟩
      · rintro ⟨⟨each, distinct⟩, default⟩
        refine ⟨?_, ?_, ?_, fun none => empty (List.isEmpty_iff.mpr none), fun b mem => (each b mem).1, distinct,
          fun b mem => (each b mem).2.1, default⟩
        · exact Nat.pos_of_ne_zero fun zero => timeout (UInt64.toNat_inj.mp zero)
        · exact Nat.pos_of_ne_zero fun zero => attempts (UInt32.toNat_inj.mp zero)
        · exact Nat.pos_of_ne_zero fun zero => interval (UInt64.toNat_inj.mp zero)
    rw [whole, Option.orElse_eq_orElse, Option.orElse_eq_or, Option.or_eq_none_iff]
    rcases c.defaultBackend with _ | id
    · simp
    · simp [Option.isSome_iff_ne_none]

end CloudLifecycle
