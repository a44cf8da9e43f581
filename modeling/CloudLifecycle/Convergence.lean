import CloudLifecycle.Backend.Fleet
import CloudLifecycle.Lifecycle.Catalog

/-!
# Convergence

A new resource is looked up again and again, at a fixed interval, until its backend has brought it up or the
attempts run out. What is to be done after a lookup depends on its answer and on whether the resource was seen
before: `verdict` says so, and nothing else enters into it.
-/

namespace CloudLifecycle

/-- How often a new resource is looked up, and how long to wait between two lookups. -/
structure PollingPlan where
  maxAttempts : Nat
  interval : Duration
  deriving DecidableEq, Repr

/-- A span that is too long to be held. -/
inductive DurationError where
  | tooLong
  deriving DecidableEq, Repr

/-- What is said of a span that is too long to be held. -/
def DurationError.message : DurationError → String
  | tooLong => "overflow when multiplying duration by scalar"

namespace PollingPlan

/-- Thirty attempts, ten seconds apart. -/
def standard : PollingPlan := ⟨30, .ofSeconds 10⟩

theorem maxAttempts_standard_pos : 0 < standard.maxAttempts := by decide

/-- The longest time that the waits of a convergence add up to. -/
def budget (p : PollingPlan) : Except DurationError Duration :=
  match p.interval.times? (p.maxAttempts - 1) with
  | some d => .ok d
  | none => .error .tooLong

/-- A plan in diagnostics. -/
def diagnostic (p : PollingPlan) : String :=
  "ConvergenceConfig \x7b max_attempts: " ++ toString p.maxAttempts ++ ", poll_interval: " ++ p.interval.text ++
    " \x7d"

end PollingPlan

/-- How a convergence ended. -/
inductive Outcome where
  /-- The resource came up, and its guard was lifted. -/
  | converged (state : LifecycleState)
  /-- The resource came up, and could not be finished. -/
  | postCreateFailed (reason : String)
  /-- The resource was destroyed, or disappeared, before it came up. -/
  | removed (state : Option LifecycleState)
  /-- The attempts ran out. -/
  | exhausted (attempts : Nat) (lastSeen : Option LifecycleState)
  /-- Another convergence holds the guard. -/
  | alreadyConverging
  deriving DecidableEq, Repr

namespace Outcome

/-- Whether the resource came up and was finished. -/
def isConverged : Outcome → Bool
  | converged _ => true
  | _ => false

/-- A state that may be absent, in diagnostics. -/
def stateWord : Option LifecycleState → String
  | some s => "Some(" ++ s.word ++ ")"
  | none => "None"

/-- An outcome in diagnostics. -/
def diagnostic : Outcome → String
  | converged s => "Converged(" ++ s.word ++ ")"
  | postCreateFailed r => "PostCreateFailed(" ++ Text.quoted r ++ ")"
  | removed s => "Removed(" ++ stateWord s ++ ")"
  | exhausted n s => "Exhausted \x7b attempts: " ++ toString n ++ ", last_seen: " ++ stateWord s ++ " \x7d"
  | alreadyConverging => "AlreadyConverging"

end Outcome

/-- Why a resource counts as failed once its attempts have run out. -/
def exhaustionReason (attempts : Nat) : Option LifecycleState → String
  | some s => "still " ++ s.name ++ " after " ++ toString attempts ++ " attempts"
  | none => "not visible after " ++ toString attempts ++ " attempts"

/-! ## The verdict on a lookup -/

/-- What a lookup means for a convergence. -/
inductive Verdict where
  /-- The resource is gone: destroyed in the state given, or no longer there. -/
  | gone (state : Option LifecycleState)
  /-- The resource has come up. -/
  | settled (state : LifecycleState)
  /-- Neither, and this is the last state in which it was seen. -/
  | undecided (lastSeen : Option LifecycleState)
  deriving DecidableEq, Repr

/-- Whether a resource in state `s` will never move again. -/
def isTerminalFor (machine : Option Machine) (s : LifecycleState) : Bool :=
  match machine with
  | some m => m.hasState s && m.isTerminal s
  | none => s = .finish

/-- Whether a resource in state `s` is not on its way to another. -/
def isSettledFor (machine : Option Machine) (s : LifecycleState) : Bool :=
  match machine with
  | some m => m.isSettled s
  | none => s ≠ .pending && s ≠ .unknown

/-- What the answer of a lookup means, given the state in which the resource was last seen. An answer holds
the state of the resource; a resource that was never seen may still appear, and an error says nothing. -/
def verdict (machine : Option Machine) (lastSeen : Option LifecycleState)
    (answer : BackendResult (Option LifecycleState)) : Verdict :=
  match answer with
  | .ok (some s) =>
    if isTerminalFor machine s then .gone (some s)
    else if isSettledFor machine s then .settled s
    else .undecided (some s)
  | .ok none => if lastSeen.isSome then .gone none else .undecided lastSeen
  | .error _ => .undecided lastSeen

/-- A convergence between two lookups. -/
structure Convergence where
  key : ResourceKey
  /-- What the request for the resource carried, for the operation that finishes it. -/
  payload : Payload
  /-- The number of lookups made. -/
  attempts : Nat
  /-- The state in which the resource was last seen. -/
  lastSeen : Option LifecycleState
  deriving DecidableEq, Repr

/-- A convergence that has not looked yet. -/
def Convergence.begin (key : ResourceKey) (payload : Payload) : Convergence := ⟨key, payload, 0, none⟩

end CloudLifecycle
