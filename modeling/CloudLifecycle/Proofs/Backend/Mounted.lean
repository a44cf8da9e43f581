import CloudLifecycle.Proofs.Backend.Stored

/-!
# Parks that are mounted

What a park is made of follows from its backends: the normalizer of a gateway before it has the table of each of them
(`Park.table?_normalizer`), and where backends are simulated after profiles, each with an id of its own, the park can be
mounted and has just these backends, each with lookups routed to itself (`Park.mount_of_nodup`).
-/

namespace CloudLifecycle

/-! ## Status tables -/

/-- Of several tables that are set for a backend, the last counts. -/
theorem Normalizer.table?_foldl (entries : List (String × Backend)) (n : Normalizer) (id : String)
    (distinct : entries.Pairwise fun a b => a.1 ≠ b.1) :
    (∀ b, (id, b) ∈ entries →
      (entries.foldl (fun n e => n.register e.1 e.2.statusTable) n).table? id = some b.statusTable) ∧
    ((∀ b, (id, b) ∉ entries) →
      (entries.foldl (fun n e => n.register e.1 e.2.statusTable) n).table? id = n.table? id) := by
  induction entries generalizing n with
  | nil => exact ⟨nofun, fun _ => rfl⟩
  | cons entry entries ih =>
    rw [List.pairwise_cons] at distinct
    obtain ⟨first, rest⟩ := distinct
    obtain ⟨found, kept⟩ := ih (n.register entry.1 entry.2.statusTable) rest
    rw [List.foldl_cons]
    refine ⟨fun b mem => ?_, fun absent => ?_⟩
    · rcases List.mem_cons.mp mem with rfl | later
      · rw [kept fun b' mem' => first _ mem' rfl, table?_register, if_pos rfl]
      · exact found b later
    · rw [kept fun b mem => absent b (List.mem_cons_of_mem _ mem), table?_register, if_neg]
      rintro rfl
      exact absent entry.2 List.mem_cons_self

/-- A gateway before a park reads the status words of each backend by its own table. -/
theorem Park.table?_normalizer (p : Park) (id : String) :
    p.normalizer.table? id = (p.registry.get? id).map Backend.statusTable := by
  unfold normalizer
  rw [Std.ExtTreeMap.foldl_eq_foldl_toList]
  have distinct : p.registry.backends.toList.Pairwise fun a b => a.1 ≠ b.1 :=
    Std.ExtTreeMap.distinct_keys_toList.imp fun apart same => apart (Std.LawfulEqCmp.compare_eq_iff_eq.mpr same)
  obtain ⟨found, kept⟩ := Normalizer.table?_foldl _ .empty id distinct
  rcases there : p.registry.get? id with _ | b
  · refine (kept fun b mem => ?_).trans Std.ExtTreeMap.getElem?_empty
    have held : p.registry.get? id = some b := Std.ExtTreeMap.mem_toList_iff_getElem?_eq_some.mp mem
    rw [there] at held
    cases held
  · exact found b (Std.ExtTreeMap.mem_toList_iff_getElem?_eq_some.mpr there)

/-! ## Backends and routes -/

namespace Registry

theorem register_of_absent {r : Registry} {b : Backend} (absent : r.get? b.id = none) :
    r.register b = .ok (r.set b.id b) := by
  have missing : r.backends.contains b.id = false := by
    rw [← Std.ExtTreeMap.isSome_getElem?_eq_contains]
    exact congrArg Option.isSome absent
  simp only [register, missing, Bool.false_eq_true, if_false]
  rfl

theorem mem_ids_iff {r : Registry} {id : String} : id ∈ r.ids ↔ (r.get? id).isSome = true :=
  Std.ExtTreeMap.mem_keys.trans Std.ExtTreeMap.isSome_getElem?_iff_mem.symm

/-- The ids are in ascending order, each of them once. -/
theorem pairwise_ids (r : Registry) : r.ids.Pairwise (· < ·) := by
  have ordered : r.ids.Pairwise fun a b => compare a b = .lt := Std.ExtTreeMap.ordered_keys
  exact ordered.imp fun less => compareOfLessAndEq_eq_lt.mp less

/-- Backends with ids of their own can all be registered, and only they are there then besides those from before. -/
theorem foldlM_register {backends : List Backend} {r : Registry} (absent : ∀ b ∈ backends, r.get? b.id = none)
    (distinct : (backends.map Backend.id).Nodup) :
    ∃ r', backends.foldlM register r = .ok r' ∧ (∀ b ∈ backends, r'.get? b.id = some b) ∧
      ∀ id, id ∉ backends.map Backend.id → r'.get? id = r.get? id := by
  induction backends generalizing r with
  | nil => exact ⟨r, rfl, nofun, fun _ _ => rfl⟩
  | cons b backends ih =>
    rw [List.forall_mem_cons] at absent
    rw [List.map_cons, List.nodup_cons] at distinct
    have later : ∀ b' ∈ backends, (r.set b.id b).get? b'.id = none := by
      intro b' mem
      rw [get?_set, if_neg]
      · exact absent.2 b' mem
      · exact fun same => distinct.1 (same ▸ List.mem_map_of_mem mem)
    obtain ⟨r', registered, there, others⟩ := ih later distinct.2
    refine ⟨r', ?_, ?_, fun id new => ?_⟩
    · rw [List.foldlM_cons, register_of_absent absent.1]
      exact registered
    · rw [List.forall_mem_cons]
      refine ⟨?_, there⟩
      rw [others b.id distinct.1, get?_set, if_pos rfl]
    · rw [List.map_cons, List.mem_cons, not_or] at new
      rw [others id new.2, get?_set, if_neg (Ne.symm new.1)]

end Registry

/-- Each of the backends that are routed to themselves is, and no other is routed anywhere else than before. -/
theorem Router.target?_foldl (names : List String) (r : Router String) (id : String) :
    (names.foldl (fun r name => r.route name name) r).target? id = if id ∈ names then some id else r.target? id := by
  induction names generalizing r with
  | nil => rfl
  | cons name names ih =>
    have routed : (r.route name name).target? id = if name = id then some name else r.target? id := by
      simp [route, target?, Std.ExtTreeMap.getElem?_insert]
    rw [List.foldl_cons, ih, routed]
    by_cases later : id ∈ names
    · simp [later]
    · by_cases now : name = id
      · simp [now]
      · simp [later, now, Ne.symm now]

namespace Park

/-- Profiles with ids of their own can be mounted, each as a backend in which there is nothing yet. -/
theorem mount_of_nodup {profiles : List Profile} (distinct : (profiles.map (·.id)).Nodup) (seed : Nat) :
    ∃ p, mount profiles seed = .ok p ∧ p.ids = ⟨seed, 0⟩ ∧
      (∀ profile ∈ profiles, p.registry.get? profile.id = some (.simulated (.new profile))) ∧
      (∀ id, id ∉ profiles.map (·.id) → p.registry.get? id = none) ∧
      ∀ id, p.router.target? id = if id ∈ profiles.map (·.id) then some id else none := by
  have ids : (profiles.map fun profile => Backend.simulated (.new profile)).map Backend.id = profiles.map (·.id) := by
    rw [List.map_map]
    rfl
  obtain ⟨r, registered, there, others⟩ := Registry.foldlM_register (r := .empty)
    (fun b _ => Std.ExtTreeMap.getElem?_empty) (ids ▸ distinct)
  rw [ids] at others
  have mounted : mount profiles seed =
      .ok ((⟨r, .empty, ⟨seed, 0⟩⟩ : Park).routing (profiles.map (·.id))) := by
    simp only [mount, ofBackends, registered]
    rfl
  refine ⟨_, mounted, rfl, fun profile mem => there _ (List.mem_map_of_mem mem), ?_, fun id => ?_⟩
  · exact fun id new => (others id new).trans Std.ExtTreeMap.getElem?_empty
  · exact Router.target?_foldl (profiles.map (·.id)) .empty id

end Park

end CloudLifecycle
