import CloudLifecycle.Backend.Error
import CloudLifecycle.Duration
import CloudLifecycle.Lifecycle.Machine
import CloudLifecycle.Operation

/-!
# Results of actions

What a caller gets back. A failed action has a category, which says where it went wrong, and a side effect, which
says what may have happened at the backend: nothing if it was never called, and otherwise something unless its
answer proves the contrary.
-/

namespace CloudLifecycle

/-- Where an action went wrong. -/
inductive ErrorCategory where
  /-- The backend does not run the operation. -/
  | notSupported
  /-- There is no such resource. -/
  | notFound
  /-- The action is not allowed in the present state. -/
  | illegalTransition
  /-- The backend answered with an error. -/
  | backendFailure
  /-- The backend took too long. -/
  | timeout
  deriving DecidableEq, Repr, Inhabited

namespace ErrorCategory

/-- Every category, in its usual order. -/
def all : List ErrorCategory := [notSupported, notFound, illegalTransition, backendFailure, timeout]

/-- The name under which a category is written. -/
def name : ErrorCategory → String
  | notSupported => "not_supported"
  | notFound => "not_found"
  | illegalTransition => "illegal_transition"
  | backendFailure => "backend_failure"
  | timeout => "timeout"

/-- A category in words. -/
def label : ErrorCategory → String
  | notSupported => "not supported"
  | notFound => "not found"
  | illegalTransition => "conflict"
  | backendFailure => "backend failure"
  | timeout => "timeout"

/-- The status of a web response that fits a category. -/
def statusHint : ErrorCategory → UInt16
  | notSupported => 501
  | notFound => 404
  | illegalTransition => 409
  | backendFailure => 502
  | timeout => 504

/-- Whether the category is known before the backend is called. -/
def isPrecondition : ErrorCategory → Bool
  | notSupported | notFound | illegalTransition => true
  | backendFailure | timeout => false

/-- The category that is named so exactly. -/
def ofName? (s : String) : Option ErrorCategory := all.find? (·.name = s)

theorem ofName?_name (c : ErrorCategory) : ofName? c.name = some c := by cases c <;> decide

end ErrorCategory

/-- What is known about the effects of a failed action. -/
inductive SideEffect where
  /-- The backend was not called. -/
  | none
  /-- The backend was called, and may or may not have acted. -/
  | unknown
  /-- The backend acted, and its answer could not be read. -/
  | applied
  deriving DecidableEq, Repr, Inhabited

namespace SideEffect

/-- Every side effect, in its usual order. -/
def all : List SideEffect := [none, unknown, applied]

/-- The name under which a side effect is written. -/
def name : SideEffect → String
  | none => "none"
  | unknown => "unknown"
  | applied => "applied"

/-- The side effect that is named so exactly. -/
def ofName? (s : String) : Option SideEffect := all.find? (·.name = s)

theorem ofName?_name (e : SideEffect) : ofName? e.name = some e := by cases e <;> decide

end SideEffect

/-- Why an action failed. -/
structure ActionError where
  category : ErrorCategory
  sideEffect : SideEffect
  message : String
  deriving DecidableEq, Repr

/-- The outcome of one action. -/
structure ActionResult where
  success : Bool
  newState : Option LifecycleState
  statusHint : UInt16
  resourceId : Option String
  error : Option ActionError
  deriving DecidableEq, Repr

namespace ActionResult

/-- The backend accepted the action. -/
def accepted (id : String) (state : LifecycleState) : ActionResult :=
  ⟨true, some state, 202, some id, none⟩

/-- A failure of some category. -/
def failure (category : ErrorCategory) (sideEffect : SideEffect) (message : String) : ActionResult :=
  ⟨false, none, category.statusHint, none, some ⟨category, sideEffect, message⟩⟩

/-- The backend does not run the operation. -/
def notSupported (backend : String) (operation : Operation) : ActionResult :=
  failure .notSupported .none ("Backend '" ++ backend ++ "' does not support '" ++ operation.name ++ "'")

/-- The kind has no machine. -/
def noLifecycle (kind : ResourceKind) : ActionResult :=
  failure .notSupported .none ("No lifecycle defined for " ++ kind.name)

/-- There is no such resource. -/
def notFound (kind : ResourceKind) (id : String) : ActionResult :=
  failure .notFound .none (kind.name ++ " '" ++ id ++ "' not found")

/-- The action is not allowed in the present state. -/
def illegal (e : IllegalTransition) : ActionResult := failure .illegalTransition .none e.message

/-- The resource could not be looked up. -/
def lookupFailure (e : BackendError) : ActionResult :=
  { failure .backendFailure .none ("Resource lookup failed: " ++ e.message) with statusHint := e.statusHint }

/-- What an error of the backend leaves open: it acted if only its answer could not be read. -/
def sideEffectOf : BackendError → SideEffect
  | .responseParse _ => .applied
  | _ => .unknown

/-- The backend answered with an error. -/
def backendFailure (e : BackendError) : ActionResult :=
  { failure .backendFailure (sideEffectOf e) e.message with statusHint := e.statusHint }

/-- The backend took longer than `bound`. -/
def timeout (operation : Operation) (bound : Duration) : ActionResult :=
  failure .timeout .unknown ("'" ++ operation.name ++ "' did not complete within " ++ bound.text)

/-- The result with the resource it is about. -/
def withResourceId (r : ActionResult) (id : String) : ActionResult := { r with resourceId := some id }

/-- Where the action went wrong, if it did. -/
def category? (r : ActionResult) : Option ErrorCategory := r.error.map (·.category)

/-- What a failed action may have done. -/
def sideEffect? (r : ActionResult) : Option SideEffect := r.error.map (·.sideEffect)

end ActionResult

end CloudLifecycle
