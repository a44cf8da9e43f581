import CloudLifecycle.Gateway.Basic

/-!
# Bringing a resource up

One lookup after another, until the verdict is in. A resource that has come up is finished by one more call, if
its backend declares it; then its guard is lifted. A resource that is gone loses its guard at once, and one for
which the attempts run out keeps it as a failure.

A convergence that waits is in one of two phases, and `advance` takes it up when it has waited long enough. Each
step leaves less to do (`rank_advance`).
-/

namespace CloudLifecycle

variable {σ φ : Type} [Fleet σ φ]

/-- What a convergence waits for. -/
inductive Phase (φ : Type) where
  /-- Its next lookup. -/
  | polling (c : Convergence)
  /-- The call that finishes its resource, which has come up in `state`. A call to be given up has no flight. -/
  | finishing (c : Convergence) (state : LifecycleState) (flight : Option φ)

/-- The convergence that is in a phase. -/
def Phase.convergence : Phase φ → Convergence
  | polling c | finishing c _ _ => c

/-- Why a resource counts as failed when the call that finishes it went wrong. -/
def postCreateError (operation : Operation) (e : BackendError) : String :=
  operation.name ++ " failed: " ++ e.message

/-- Why a resource counts as failed when the call that finishes it took too long. -/
def postCreateTimeout (operation : Operation) (bound : Duration) : String :=
  operation.name ++ " did not complete within " ++ bound.text

namespace Gateway

/-- The call that finishes a resource. -/
def postCreateCall (c : Convergence) : Call :=
  ⟨c.key.backend, .postCreate c.key.kind, some c.key.id, c.payload⟩

/-- Ends a convergence and lifts the guard. -/
def lift (c : Convergence) (outcome : Outcome) (desk : Desk σ) : Outcome × Desk σ :=
  (outcome, { desk with guards := (desk.guards.clear c.key).2 })

/-- Ends a convergence and leaves the guard as a failure. -/
def fail (c : Convergence) (reason : String) (outcome : Outcome) (desk : Desk σ) : Outcome × Desk σ :=
  (outcome, { desk with guards := desk.guards.fail c.key reason })

/-- An end, as progress. -/
def ended (finish : Outcome × Desk σ) : Progress (Phase φ) Outcome × Desk σ := (.done finish.1, finish.2)

/-- Goes on with a resource that has come up in `state`: finishes it, if its backend can. -/
def settle (g : Gateway) (c : Convergence) (state : LifecycleState) (desk : Desk σ) :
    Progress (Phase φ) Outcome × Desk σ :=
  if Fleet.supports desk.fleet c.key.backend (Operation.postCreate c.key.kind).name then
    let ((flight, time), desk) := g.call (postCreateCall c) desk
    (.waiting (.finishing c state flight) time, desk)
  else ended (lift c (.converged state) desk)

/-- One lookup of a convergence, and what follows from it. -/
def poll (g : Gateway) (c : Convergence) (desk : Desk σ) : Progress (Phase φ) Outcome × Desk σ :=
  let (seen, desk) := g.observe c.key desk
  match verdict (g.catalog.get? c.key.kind) c.lastSeen seen with
  | .gone state => ended (lift c (.removed state) desk)
  | .settled state => g.settle { c with attempts := c.attempts + 1, lastSeen := some state } state desk
  | .undecided lastSeen =>
    let c : Convergence := { c with attempts := c.attempts + 1, lastSeen := lastSeen }
    if c.attempts < g.plan.maxAttempts then (.waiting (.polling c) g.plan.interval, desk)
    else
      ended (fail c (exhaustionReason g.plan.maxAttempts lastSeen) (.exhausted g.plan.maxAttempts lastSeen) desk)

/-- Ends a convergence, when the call that finishes its resource lands or is given up. -/
def finishConvergence (g : Gateway) (c : Convergence) (state : LifecycleState) (flight : Option φ)
    (desk : Desk σ) : Outcome × Desk σ :=
  let operation := Operation.postCreate c.key.kind
  match flight with
  | some flight =>
    let (answer, fleet) := Fleet.land desk.fleet flight
    let desk : Desk σ := { desk with fleet := fleet }
    match answer with
    | .ok _ => lift c (.converged state) desk
    | .error e =>
      let reason := postCreateError operation e
      fail c reason (.postCreateFailed reason) desk
  | none =>
    let reason := postCreateTimeout operation g.timeout
    fail c reason (.postCreateFailed reason) desk

/-- Puts a resource under guard for a convergence in the foreground, unless another one holds the guard. -/
def claim (key : ResourceKey) (payload : Payload) (desk : Desk σ) : Option Convergence × Desk σ :=
  match desk.guards.begin key with
  | (true, guards) => (some (.begin key payload), { desk with guards := guards })
  | (false, _) => (none, desk)

theorem claim_of_converging {key : ResourceKey} {desk : Desk σ} (h : desk.guards.get? key = some .converging)
    (payload : Payload) : claim key payload desk = (none, desk) := by
  simp [claim, Guards.begin, Guards.isConverging, h]

theorem claim_of_free {key : ResourceKey} {desk : Desk σ} (h : desk.guards.get? key ≠ some .converging)
    (payload : Payload) :
    claim key payload desk =
      (some (.begin key payload), { desk with guards := (desk.guards.begin key).2 }) := by
  simp [claim, Guards.begin, Guards.isConverging, h]

/-- Begins a convergence in the foreground, and makes its first lookup. -/
def converge (g : Gateway) (key : ResourceKey) (payload : Payload) (desk : Desk σ) :
    Progress (Phase φ) Outcome × Desk σ :=
  match claim key payload desk with
  | (some c, desk) => g.poll c desk
  | (none, desk) => (.done .alreadyConverging, desk)

/-- Takes up a convergence that has waited long enough. -/
def advance (g : Gateway) (phase : Phase φ) (desk : Desk σ) : Progress (Phase φ) Outcome × Desk σ :=
  match phase with
  | .polling c => g.poll c desk
  | .finishing c state flight => ended (g.finishConvergence c state flight desk)

/-- The number of steps that a convergence may still take. -/
def rank (g : Gateway) : Phase φ → Nat
  | .finishing _ _ _ => 1
  | .polling c => 2 + (g.plan.maxAttempts - c.attempts)

theorem rank_pos (g : Gateway) (phase : Phase φ) : 0 < g.rank phase := by
  cases phase <;> simp only [rank] <;> omega

/-- Every step of a convergence leaves less to do. -/
theorem rank_advance (g : Gateway) (phase : Phase φ) (desk : Desk σ) (rest : Phase φ) (time : Duration)
    (h : (g.advance phase desk).1 = .waiting rest time) : g.rank rest < g.rank phase := by
  cases phase with
  | finishing c state flight => simp [advance, ended] at h
  | polling c =>
    simp only [advance, poll] at h
    split at h
    · simp [ended] at h
    · simp only [settle] at h
      split at h
      · simp only [Progress.waiting.injEq] at h
        rw [← h.1]
        simp only [rank]
        omega
      · simp [ended] at h
    · split at h
      · simp only [Progress.waiting.injEq] at h
        rw [← h.1]
        simp only [rank]
        omega
      · simp [ended] at h

end Gateway

end CloudLifecycle
