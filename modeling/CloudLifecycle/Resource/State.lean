import CloudLifecycle.Text.Blank
import CloudLifecycle.Text.LetterCase
import Std.Data.ExtTreeMap

/-!
# Lifecycle states

The closed vocabulary in which the gateway speaks about every resource, whatever words its backend uses. A
state is written in capitals and read in any case, with blanks around it.
-/

namespace CloudLifecycle

/-- A state of a resource, the same for all backends. -/
inductive LifecycleState where
  /-- Before it is created. -/
  | start
  | pending
  | running
  | stopping
  | stopped
  | paused
  | suspended
  /-- Destroyed. -/
  | finish
  /-- It was created, and never came up. -/
  | failed
  | unknown
  deriving DecidableEq, Repr, Inhabited

namespace LifecycleState

/-- Every state, in its usual order. -/
def all : List LifecycleState :=
  [start, pending, running, stopping, stopped, paused, suspended, finish, failed, unknown]

/-- The place of a state in `all`. -/
def index : LifecycleState → Nat
  | start => 0
  | pending => 1
  | running => 2
  | stopping => 3
  | stopped => 4
  | paused => 5
  | suspended => 6
  | finish => 7
  | failed => 8
  | unknown => 9

/-- The name under which a state is written. -/
def name : LifecycleState → String
  | start => "START"
  | pending => "PENDING"
  | running => "RUNNING"
  | stopping => "STOPPING"
  | stopped => "STOPPED"
  | paused => "PAUSED"
  | suspended => "SUSPENDED"
  | finish => "FINISH"
  | failed => "FAILED"
  | unknown => "UNKNOWN"

/-- The word for a state in diagnostics. -/
def word : LifecycleState → String
  | start => "Start"
  | pending => "Pending"
  | running => "Running"
  | stopping => "Stopping"
  | stopped => "Stopped"
  | paused => "Paused"
  | suspended => "Suspended"
  | finish => "Finish"
  | failed => "Failed"
  | unknown => "Unknown"

instance : ToString LifecycleState := ⟨name⟩

theorem mem_all (s : LifecycleState) : s ∈ all := by cases s <;> decide

theorem index_inj {s t : LifecycleState} (h : s.index = t.index) : s = t := by
  cases s <;> cases t <;> simp_all [index]

theorem name_inj {s t : LifecycleState} (h : s.name = t.name) : s = t := by
  cases s <;> cases t <;> first | rfl | exact absurd h (by decide)

/-- States are ordered by their place in `all`. -/
instance : Ord LifecycleState := ⟨compareOn index⟩

instance : Std.TransOrd LifecycleState := inferInstanceAs (Std.TransCmp (compareOn index))

instance : Std.LawfulEqOrd LifecycleState where
  eq_of_compare {s t} h := index_inj (Std.LawfulEqOrd.eq_of_compare (a := s.index) (b := t.index) h)

/-- The state that is named so exactly. -/
def ofName? (s : String) : Option LifecycleState := all.find? (·.name = s)

theorem ofName?_name (s : LifecycleState) : ofName? s.name = some s := by cases s <;> decide

end LifecycleState

/-- A text that names no state. -/
structure UnknownState where
  text : String
  deriving DecidableEq, Repr

/-- What a reader is told about a text that names no state. -/
def UnknownState.message (e : UnknownState) : String := "Unknown canonical state: " ++ e.text

namespace LifecycleState

/-- Reads a state. -/
def parse (s : String) : Except UnknownState LifecycleState :=
  match ofName? (Text.asciiUpper (Text.trim s)) with
  | some state => .ok state
  | none => .error ⟨s⟩

end LifecycleState

end CloudLifecycle
