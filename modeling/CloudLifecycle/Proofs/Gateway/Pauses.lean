import CloudLifecycle.Proofs.Gateway.Foreground

/-!
# The time that convergences take

A convergence does nothing but ask the fleet and wait. What it does, in its order, is its `Diary` on a stream of desks,
and `Gateway.Runs` says how that comes about turn by turn, so that having a diary is the same as coming to an end.

1. Every convergence has one diary, and its life can be read off it (`exists_runs`, `Runs.unique`, `Runs.life_eq`).
2. Between any two lookups lies one sleep, and none after the last one; what may follow is the call that finishes the
   resource, which is waited for (`Runs.polling_deeds`). How many lookups there are is known from lives
   (`paced_of_runs`).
3. The budget of a plan is what a convergence sleeps that uses up its attempts (`PollingPlan.budget_eq_ok_iff`).
4. In a session the clock moves on by what the diary says (`Session.drive_takes`).

`sleeps_within_budget` puts these together.
-/

namespace CloudLifecycle

variable {σ φ : Type} [Fleet σ φ]

/-! ## Diaries -/

/-- What a convergence does. -/
inductive Deed where
  /-- It asks something of the fleet. -/
  | asks (ask : Ask)
  /-- It sleeps until its next lookup. -/
  | sleeps (time : Duration)
  /-- It waits until its call lands or is given up. -/
  | waits (time : Duration)

namespace Deed

/-- What is asked. -/
def ask? : Deed → Option Ask
  | asks ask => some ask
  | sleeps _ | waits _ => none

/-- How long is slept. -/
def sleep? : Deed → Option Duration
  | sleeps time => some time
  | asks _ | waits _ => none

/-- How long is slept or waited. -/
def pause? : Deed → Option Duration
  | asks _ => none
  | sleeps time | waits time => some time

end Deed

/-- The time of some spans, one after the other. -/
def Duration.total (spans : List Duration) : Duration := spans.foldr (· + ·) .zero

/-- All that a convergence does, the earliest first, and how it ends. -/
structure Diary where
  deeds : List Deed
  outcome : Outcome

namespace Duration

theorem total_append (before after : List Duration) :
    (total (before ++ after)).nanos = (total before).nanos + (total after).nanos := by
  induction before with
  | nil => exact (Nat.zero_add _).symm
  | cons span before ih =>
    show span.nanos + (total (before ++ after)).nanos = span.nanos + (total before).nanos + (total after).nanos
    rw [ih, Nat.add_assoc]

theorem total_replicate (n : Nat) (span : Duration) : (total (List.replicate n span)).nanos = n * span.nanos := by
  induction n with
  | zero => exact (Nat.zero_mul _).symm
  | succ n ih =>
    show span.nanos + (total (List.replicate n span)).nanos = (n + 1) * span.nanos
    rw [ih, Nat.succ_mul, Nat.add_comm]

end Duration

namespace Diary

/-- The diary without its waits. -/
def life (diary : Diary) : Life := ⟨diary.deeds.filterMap Deed.ask?, diary.outcome⟩

/-- The time of all sleeps. -/
def slept (diary : Diary) : Duration := .total (diary.deeds.filterMap Deed.sleep?)

/-- The time of all sleeps and waits. -/
def time (diary : Diary) : Duration := .total (diary.deeds.filterMap Deed.pause?)

end Diary

/-- How a convergence lets time pass that has come to a phase. -/
def Phase.pause (time : Duration) : Phase φ → Deed
  | polling _ => .sleeps time
  | finishing _ _ _ => .waits time

namespace Gateway

/-- A convergence that is taken up in a phase, on the desks of a stream, comes to its end and leaves a diary. -/
inductive Runs (g : Gateway) : Phase φ → Stream' (Desk σ) → Diary → Prop where
  | done {phase : Phase φ} {desks : Stream' (Desk σ)} {outcome : Outcome} {later : Desk (Recorded σ)}
      (turn : g.advance phase desks.head.recording = (.done outcome, later)) :
      Runs g phase desks ⟨later.fleet.record.map .asks, outcome⟩
  | goesOn {phase rest : Phase φ} {desks : Stream' (Desk σ)} {time : Duration} {later : Desk (Recorded σ)}
      {diary : Diary} (turn : g.advance phase desks.head.recording = (.waiting rest time, later))
      (runs : Runs g rest desks.tail diary) :
      Runs g phase desks { diary with deeds := later.fleet.record.map .asks ++ rest.pause time :: diary.deeds }

section

variable {g : Gateway} {phase : Phase φ} {desks : Stream' (Desk σ)} {diary diary' : Diary}

/-- Every step leaves less to do, so a convergence comes to its end, whatever its plan. -/
theorem exists_runs (g : Gateway) (phase : Phase φ) (desks : Stream' (Desk σ)) : ∃ diary, g.Runs phase desks diary := by
  fun_induction life g phase desks with
  | case1 phase desks outcome later turn => exact ⟨_, .done turn⟩
  | case2 phase desks rest time later turn ih =>
    obtain ⟨diary, runs⟩ := ih
    exact ⟨_, .goesOn turn runs⟩

theorem Runs.unique (h : g.Runs phase desks diary) (h' : g.Runs phase desks diary') : diary = diary' := by
  induction h generalizing diary' with
  | done turn =>
    cases h' with
    | done turn' =>
      rw [turn] at turn'
      cases turn'
      rfl
    | goesOn turn' _ =>
      rw [turn] at turn'
      cases turn'
  | goesOn turn _ ih =>
    cases h' with
    | done turn' =>
      rw [turn] at turn'
      cases turn'
    | goesOn turn' runs' =>
      rw [turn] at turn'
      cases turn'
      rw [ih runs']

/-- What a convergence asks, and how it ends, is its life. -/
theorem Runs.life_eq (h : g.Runs phase desks diary) : g.life phase desks = diary.life := by
  have asked (record : List Ask) : (record.map Deed.asks).filterMap Deed.ask? = record := by
    rw [List.filterMap_map]
    exact List.filterMap_some
  induction h with
  | done turn => rw [life_of_done turn, Diary.life, asked]
  | @goesOn _ rest _ _ _ _ turn _ ih =>
    rw [life_of_waiting turn, ih]
    simp only [Diary.life, Life.prepend, List.filterMap_append, asked]
    cases rest <;> rfl

end

/-! ## Lookups and sleeps -/

/-- Some lookups of a resource, with one sleep between any two of them. -/
def polls (g : Gateway) (key : ResourceKey) (n : Nat) : List Deed :=
  (List.replicate n (Deed.asks (.lookup key))).intersperse (.sleeps g.plan.interval)

/-- What may follow the last lookup: the call that finishes the resource, for which no more time passes than is
allowed. -/
inductive Finale (g : Gateway) : List Deed → Prop where
  | none : Finale g []
  | called (call : Call) (time : Duration) (inTime : time ≤ g.timeout) : Finale g [.asks (.call call), .waits time]

section

variable {g : Gateway} {key : ResourceKey} {c : Convergence} {desks : Stream' (Desk σ)} {diary : Diary} {n : Nat}
  {rest : List Deed}

omit [Fleet σ φ] in
theorem polls_succ_succ (g : Gateway) (key : ResourceKey) (n : Nat) :
    g.polls key (n + 2) = .asks (.lookup key) :: .sleeps g.plan.interval :: g.polls key (n + 1) := rfl

theorem ask?_polls (g : Gateway) (key : ResourceKey) (n : Nat) :
    (g.polls key (n + 1)).filterMap Deed.ask? = List.replicate (n + 1) (.lookup key) := by
  induction n with
  | zero => rfl
  | succ n ih =>
    rw [polls_succ_succ, List.replicate_succ, ← ih]
    rfl

/-- The sleeps are all the pauses between the lookups. -/
theorem pauses_polls {f : Deed → Option Duration} (g : Gateway) (key : ResourceKey)
    (lookup : f (.asks (.lookup key)) = none) (sleep : ∀ time, f (.sleeps time) = some time) (n : Nat) :
    (g.polls key (n + 1)).filterMap f = List.replicate n g.plan.interval := by
  induction n with
  | zero => exact List.filterMap_cons_none lookup
  | succ n ih =>
    rw [polls_succ_succ, List.filterMap_cons_none lookup, List.filterMap_cons_some (sleep _), ih, List.replicate_succ]

/-- A call is waited for no longer than is allowed. -/
theorem time_call_le (g : Gateway) (call : Call) (desk : Desk σ) : (g.call call desk).1.2 ≤ g.timeout := by
  unfold Gateway.call
  dsimp only
  split
  · assumption
  · exact Nat.le_refl g.timeout.nanos

/-- Nothing is asked any more while a call is waited for. -/
theorem Runs.finishing_deeds {s : LifecycleState} {flight : Option φ}
    (h : g.Runs (.finishing c s flight) desks diary) : diary.deeds = [] := by
  cases h with
  | done turn =>
    have record := g.record_finishConvergence c s flight desks.head.recording
    cases turn
    rw [record]
    rfl
  | goesOn turn _ => cases turn

/-- What a convergence does is some lookups with sleeps between them, and what follows the last one. -/
theorem Runs.polling_deeds (h : g.Runs (.polling c : Phase φ) desks diary) :
    ∃ n rest, diary.deeds = g.polls c.key (n + 1) ++ rest ∧ g.Finale rest := by
  generalize same : (Phase.polling c : Phase φ) = phase at h
  -- Every turn before the last one is a lookup with a sleep after it, or with the call after it.
  induction h generalizing c with
  | @done phase desks outcome later turn =>
    subst same
    have step := g.advanced (.polling c) desks.head.recording
    rw [turn] at step
    cases step
    exact ⟨0, [], rfl, .none⟩
  | @goesOn phase rest desks time later diary turn runs ih =>
    subst same
    have step := g.advanced (.polling c) desks.head.recording
    rw [turn] at step
    cases step with
    | waits _ kept same more =>
      obtain ⟨n, rest, deeds, finale⟩ := ih rfl
      refine ⟨n + 1, rest, ?_, finale⟩
      rw [polls_succ_succ, List.cons_append, List.cons_append, ← same, ← deeds, same]
      rfl
    | finishes _ kept same s seen moves settled =>
      let later : Desk (Recorded σ) := (g.observe kept.key desks.head.recording).2
      refine ⟨0, _, ?_, .called (postCreateCall kept) _ (time_call_le g (postCreateCall kept) later)⟩
      rw [runs.finishing_deeds, ← same]
      rfl

end

/-! ## How many lookups, and how long the sleeps -/

/-- What a diary with `n` lookups is like, if these are answered so: lookups and sleeps in turns, the first lookup that
decides or that of the last attempt at the end of them, and at most one call after that. -/
structure Paced (g : Gateway) (key : ResourceKey) (answered : Stream' (BackendResult (Option Resource))) (n : Nat)
    (diary : Diary) : Prop where
  some : 1 ≤ n
  inTime : n ≤ g.plan.maxAttempts
  deeds : ∃ rest, diary.deeds = g.polls key n ++ rest ∧ g.Finale rest
  undecided : ∀ k, k + 1 < n → ¬ g.Decides key answered k
  last : g.Decides key answered (n - 1) ∨ n = g.plan.maxAttempts
  exhausted : ∀ attempts seen, diary.outcome = .exhausted attempts seen → n = g.plan.maxAttempts

section

variable {g : Gateway} {key : ResourceKey} {payload : Payload} {desks : Stream' (Desk σ)}
  {answered : Stream' (BackendResult (Option Resource))} {n : Nat} {diary : Diary} {rest : List Deed}

omit [Fleet σ φ] in
theorem count_lookup (key : ResourceKey) (n : Nat) (calls : List Call) :
    (List.replicate n (Ask.lookup key) ++ calls.map Ask.call).count (Ask.lookup key) = n := by
  have none : (calls.map Ask.call).count (.lookup key) = 0 := List.count_eq_zero.mpr (by simp)
  rw [List.count_append, List.count_replicate_self, none, Nat.add_zero]

theorem Finale.ask? (h : g.Finale rest) : ∃ calls : List Call, rest.filterMap Deed.ask? = calls.map .call := by
  cases h with
  | none => exact ⟨[], rfl⟩
  | called call time _ => exact ⟨[call], rfl⟩

theorem Finale.sleep? (h : g.Finale rest) : rest.filterMap Deed.sleep? = [] := by
  cases h <;> rfl

theorem Finale.time_le (h : g.Finale rest) : (Duration.total (rest.filterMap Deed.pause?)).nanos ≤ g.timeout.nanos := by
  cases h with
  | none => exact Nat.zero_le _
  | called call time inTime => exact inTime

theorem Closes.ne_exhausted {answer : BackendResult (Option Resource)} {seen later : Desk σ} {calls : List Call}
    {outcome : Outcome} (h : g.Closes key payload answer seen later calls outcome) (attempts : Nat)
    (lastSeen : Option LifecycleState) : outcome ≠ .exhausted attempts lastSeen := by
  cases h with
  | destroyed | vanished => exact nofun
  | cameUp _ _ _ _ _ _ finishes => cases finishes <;> exact nofun

/-- The lookups in a diary are those of the life. -/
theorem paced_of_runs (h : g.Runs (.polling (.begin key payload) : Phase φ) desks diary) :
    ∃ n, g.Paced key (answers key desks) n diary := by
  obtain ⟨m, rest, deeds, finale⟩ := h.polling_deeds
  obtain ⟨calls, called⟩ := finale.ask?
  have asked : (g.life (.polling (.begin key payload)) desks).asked.count (.lookup key) = m + 1 := by
    rw [h.life_eq, Diary.life, deeds, List.filterMap_append, ask?_polls, called]
    exact count_lookup key (m + 1) calls
  have outcome : (g.life (.polling (.begin key payload)) desks).outcome = diary.outcome := by rw [h.life_eq]; rfl
  rcases g.first_decides_or_none key (answers key desks) with ⟨n, more, decides, undecided⟩ | never
  · obtain ⟨calls', asked', closes⟩ := life_closes payload more decides undecided
    rw [asked', count_lookup] at asked
    obtain rfl : n = m := Nat.succ.inj asked
    refine ⟨n + 1, Nat.le_add_left 1 n, more, ⟨rest, deeds, finale⟩, fun k hk => ?_, .inl decides, ?_⟩
    · exact undecided k (Nat.lt_of_succ_lt_succ hk)
    · rw [outcome] at closes
      exact fun attempts seen exhausted => absurd exhausted (closes.ne_exhausted attempts seen)
  · have exhausted := life_of_not_decides payload never
    rw [exhausted, ← List.append_nil (List.replicate _ _)] at asked
    have all : g.plan.maxAttempts = m + 1 := (count_lookup key g.plan.maxAttempts []).symm.trans asked
    refine ⟨m + 1, Nat.le_add_left 1 m, Nat.le_of_eq all.symm, ⟨rest, deeds, finale⟩, fun k hk => ?_, .inr all.symm, ?_⟩
    · exact never k (by omega)
    · exact fun _ _ _ => all.symm

namespace Paced

theorem sleeps (h : g.Paced key answered n diary) :
    diary.deeds.filterMap Deed.sleep? = List.replicate (n - 1) g.plan.interval := by
  obtain ⟨rest, deeds, finale⟩ := h.deeds
  obtain ⟨m, rfl⟩ := Nat.exists_eq_add_of_le' h.some
  rw [deeds, List.filterMap_append, g.pauses_polls key rfl fun _ => rfl, finale.sleep?, List.append_nil,
    Nat.add_sub_cancel]

theorem slept (h : g.Paced key answered n diary) : diary.slept.nanos = (n - 1) * g.plan.interval.nanos := by
  rw [Diary.slept, h.sleeps, Duration.total_replicate]

/-- Beside the sleeps there is only the wait for the call that finishes the resource. -/
theorem time_le (h : g.Paced key answered n diary) : diary.time.nanos ≤ diary.slept.nanos + g.timeout.nanos := by
  obtain ⟨rest, deeds, finale⟩ := h.deeds
  have slept := h.slept
  obtain ⟨m, rfl⟩ := Nat.exists_eq_add_of_le' h.some
  rw [Diary.time, deeds, List.filterMap_append, g.pauses_polls key rfl fun _ => rfl, Duration.total_append,
    Duration.total_replicate, slept, Nat.add_sub_cancel]
  exact Nat.add_le_add_left finale.time_le _

end Paced

end

end Gateway

/-! ## The budget -/

namespace PollingPlan

variable {plan : PollingPlan} {d : Duration}

/-- The budget is the exact product, as long as that is short enough to be held. -/
theorem budget_eq_ok_iff :
    plan.budget = .ok d ↔ d.nanos = plan.interval.nanos * (plan.maxAttempts - 1) ∧ d < .limit := by
  rw [← Duration.times?_eq_some_iff, budget]
  rcases plan.interval.times? (plan.maxAttempts - 1) with _ | product <;> simp

theorem budget_eq_error_iff :
    plan.budget = .error .tooLong ↔ Duration.limit.nanos ≤ plan.interval.nanos * (plan.maxAttempts - 1) := by
  constructor
  · intro tooLong
    by_contra short
    have held := (budget_eq_ok_iff (d := ⟨_⟩)).mpr ⟨rfl, Nat.lt_of_not_le short⟩
    rw [tooLong] at held
    cases held
  · intro long
    rcases held : plan.budget with ⟨⟨⟩⟩ | d
    · rfl
    · obtain ⟨exact, fits⟩ := budget_eq_ok_iff.mp held
      exact absurd (exact ▸ fits : _ * _ < _) (Nat.not_lt.mpr long)

/-- A plan whose budget cannot be held. -/
example : PollingPlan.budget ⟨3, .ofSeconds 9223372036854775808⟩ = .error .tooLong := by decide

end PollingPlan

/-! ## In sessions -/

namespace Session

omit [Fleet σ φ] in
theorem now_moveTo {s : Session σ φ} {d : Duration} (h : s.now ≤ d) : (s.moveTo d).now = d := by
  unfold moveTo
  split
  · rfl
  · next past => exact congrArg Duration.mk (Nat.le_antisymm h (Nat.le_of_not_lt past))

/-- However the background goes on meanwhile, the clock comes to the moment that was meant. -/
theorem now_passTo (g : Gateway) (target : Duration) (s : Session σ φ) (h : s.now ≤ target) :
    (passTo g target s).now = target := by
  fun_induction passTo g target s with
  | case1 s due _ early ih =>
    refine ih ?_
    show (s.moveTo due).now ≤ target
    unfold moveTo
    split
    · exact Nat.le_of_lt early
    · exact h
  | case2 s due _ _ => exact now_moveTo h
  | case3 s _ => exact now_moveTo h

theorem now_pass (g : Gateway) (time : Duration) (s : Session σ φ) : (pass g time s).now = s.now + time :=
  now_passTo g (s.now + time) s (Nat.le_add_right s.now.nanos time.nanos)

/-- Whoever takes a convergence through to its end spends the time of its diary. -/
theorem drive_takes (g : Gateway) (phase : Phase φ) (s : Session σ φ) :
    ∃ (desks : Stream' (Desk σ)) (diary : Diary), g.Runs phase desks diary ∧ (drive g phase s).1 = diary.outcome ∧
      (drive g phase s).2.now = s.now + diary.time := by
  have still (record : List Ask) : (record.map Deed.asks).filterMap Deed.pause? = [] := by
    rw [List.filterMap_map]
    exact List.filterMap_eq_nil_iff.mpr fun _ _ => rfl
  fun_induction drive g phase s with
  | case1 phase s outcome later turn =>
    obtain ⟨recorded, whole, rfl⟩ := Gateway.recording_of_advance turn
    refine ⟨Stream'.const s.desk, _, .done whole, rfl, ?_⟩
    rw [Diary.time, still]
    rfl
  | case2 phase s rest time later turn ih =>
    obtain ⟨recorded, whole, rfl⟩ := Gateway.recording_of_advance turn
    obtain ⟨desks, diary, runs, outcome, now⟩ := ih
    refine ⟨.cons s.desk desks, _, .goesOn whole runs, outcome, ?_⟩
    have paused : (rest.pause time).pause? = some time := by cases rest <;> rfl
    rw [now, now_pass, Diary.time, Diary.time, List.filterMap_append, still, List.filterMap_cons_some paused]
    exact congrArg Duration.mk (Nat.add_assoc s.now.nanos time.nanos _)

/-- A convergence in the foreground takes the time of its diary, and none if it is refused. -/
theorem converge_takes (g : Gateway) (key : ResourceKey) (payload : Payload) (s : Session σ φ) :
    let ended := converge g key payload s
    (s.desk.guards.get? key = some .converging → ended.1 = .alreadyConverging ∧ ended.2.now = s.now) ∧
      (s.desk.guards.get? key ≠ some .converging →
        ∃ (desks : Stream' (Desk σ)) (diary : Diary), g.Runs (.polling (.begin key payload)) desks diary ∧
          ended.1 = diary.outcome ∧ ended.2.now = s.now + diary.time) := by
  intro ended
  constructor
  · intro converging
    have claimed := Gateway.claim_of_converging converging payload
    simp only [ended, converge, atDesk, Gateway.converge, claimed, and_self]
  · intro free
    rw [show ended = _ from converge_of_free (Gateway.claim_of_free free payload)]
    exact drive_takes g (.polling (.begin key payload)) _

end Session

namespace Gateway

/-- A gateway can be put together with a plan exactly if it has a lookup and is allowed some time and some attempts. -/
theorem exists_assemble_iff {catalog : Catalog} {normalizer : Normalizer} {hasLookup : Bool} {timeout : Duration}
    {plan : PollingPlan} :
    (∃ g, assemble catalog normalizer hasLookup timeout plan = .ok g ∧ g.plan = plan) ↔
      hasLookup = true ∧ 0 < timeout.nanos ∧ 0 < plan.maxAttempts := by
  unfold assemble
  cases hasLookup with
  | false => simp
  | true =>
    by_cases timed : 0 < timeout.nanos
    · by_cases tried : 0 < plan.maxAttempts <;> simp [timed, tried]
    · simp [timed]

/-- **Sleeps within the budget.** For every gateway, every resource and everything that its lookups may answer:

1. a convergence comes to its end and leaves one diary, whose asks and outcome are its life;
2. if it makes `n` lookups, `n` is at least one and at most the number of attempts, and it sleeps between any two of
them for the interval of the plan, and not after the last one, which is the first to decide or that of the last attempt;
3. so it sleeps `n - 1` intervals in all, and beside that only waits for the call that finishes the resource;
4. as long as the budget of the plan can be held, it sleeps no longer than that, and just as long if its attempts run
out.

The budget is the product of the interval and the number of attempts but one, and is held exactly if that is less than
`2 ^ 64` seconds. Whether it is does not matter to a gateway: it can be put together with every plan that allows some
attempt. In a session, the clock moves on by the time of the diary. -/
theorem sleeps_within_budget (g : Gateway) (key : ResourceKey) (payload : Payload) (desks : Stream' (Desk σ)) :
    (∃ (diary : Diary) (n : Nat),
      (∀ diary', g.Runs (.polling (.begin key payload) : Phase φ) desks diary' ↔ diary' = diary) ∧
      g.life (.polling (.begin key payload) : Phase φ) desks = diary.life ∧
      g.Paced key (answers key desks) n diary ∧
      diary.deeds.filterMap Deed.sleep? = List.replicate (n - 1) g.plan.interval ∧
      diary.slept.nanos = (n - 1) * g.plan.interval.nanos ∧
      diary.time.nanos ≤ diary.slept.nanos + g.timeout.nanos ∧
      ∀ budget, g.plan.budget = .ok budget → diary.slept ≤ budget ∧
        ∀ attempts seen, diary.outcome = .exhausted attempts seen → diary.slept = budget) ∧
    (∀ plan : PollingPlan,
      (∀ budget, plan.budget = .ok budget ↔
        budget.nanos = plan.interval.nanos * (plan.maxAttempts - 1) ∧ budget.nanos < UInt64.size * 1000000000) ∧
      (plan.budget = .error .tooLong ↔ UInt64.size * 1000000000 ≤ plan.interval.nanos * (plan.maxAttempts - 1))) ∧
    (∀ catalog normalizer hasLookup timeout plan,
      (∃ g, assemble catalog normalizer hasLookup timeout plan = .ok g ∧ g.plan = plan) ↔
        hasLookup = true ∧ 0 < timeout.nanos ∧ 0 < plan.maxAttempts) ∧
    ∀ s : Session σ φ,
      let ended := Session.converge g key payload s
      (s.desk.guards.get? key = some .converging → ended.1 = .alreadyConverging ∧ ended.2.now = s.now) ∧
      (s.desk.guards.get? key ≠ some .converging →
        ∃ (desks : Stream' (Desk σ)) (diary : Diary), g.Runs (.polling (.begin key payload)) desks diary ∧
          ended.1 = diary.outcome ∧ ended.2.now = s.now + diary.time) := by
  refine ⟨?_, fun plan => ⟨fun budget => PollingPlan.budget_eq_ok_iff, PollingPlan.budget_eq_error_iff⟩,
    fun catalog normalizer hasLookup timeout plan => exists_assemble_iff, Session.converge_takes g key payload⟩
  obtain ⟨diary, runs⟩ := g.exists_runs (.polling (.begin key payload) : Phase φ) desks
  obtain ⟨n, paced⟩ := paced_of_runs runs
  refine ⟨diary, n, fun diary' => ⟨fun runs' => runs'.unique runs, fun same => same ▸ runs⟩, runs.life_eq, paced,
    paced.sleeps, paced.slept, paced.time_le, fun budget held => ?_⟩
  obtain ⟨exact, _⟩ := PollingPlan.budget_eq_ok_iff.mp held
  constructor
  · show diary.slept.nanos ≤ budget.nanos
    rw [paced.slept, exact, Nat.mul_comm]
    exact Nat.mul_le_mul_left _ (Nat.sub_le_sub_right paced.inTime 1)
  · intro attempts seen exhausted
    refine congrArg Duration.mk (paced.slept.trans ?_ : diary.slept.nanos = budget.nanos)
    rw [exact, paced.exhausted attempts seen exhausted, Nat.mul_comm]

end Gateway

end CloudLifecycle
