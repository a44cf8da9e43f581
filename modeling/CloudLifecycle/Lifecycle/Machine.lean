import CloudLifecycle.Resource.Kind
import CloudLifecycle.Resource.State

/-!
# State machines

The lifecycle of one kind of resource is a table of transitions. Some fire when a caller asks for an action by
name, others by themselves when the backend makes progress. A draft is any list of transitions; `Machine.build`
turns it into a machine if no action is blank, nothing moves by itself to where it is, and neither an action
nor progress leads from one state to two.

A machine keeps its transitions in a list and, so that none has to be looked for, where they lead in two tables. It
carries the proof that the tables say what the list says, so it does not matter from which of them a question about it
is answered.
-/

namespace CloudLifecycle

/-- What makes a transition fire. -/
inductive Trigger where
  /-- A caller asks for the action. -/
  | action (name : String)
  /-- The backend makes progress. -/
  | automatic
  deriving DecidableEq, Repr, Inhabited

/-- The text of a trigger. -/
def Trigger.text : Trigger → String
  | action name => name
  | automatic => "(automatic)"

/-- A step from one state to another. -/
structure Transition where
  source : LifecycleState
  trigger : Trigger
  target : LifecycleState
  deriving DecidableEq, Repr, Inhabited

/-- A machine as it is written down, before it is checked. -/
structure MachineDraft where
  kind : ResourceKind
  initial : LifecycleState
  transitions : List Transition
  deriving DecidableEq, Repr

namespace MachineDraft

/-- A draft without transitions. -/
def start (kind : ResourceKind) (initial : LifecycleState) : MachineDraft := ⟨kind, initial, []⟩

/-- The draft with one more transition, which a caller fires. -/
def on (d : MachineDraft) (source : LifecycleState) (action : String) (target : LifecycleState) : MachineDraft :=
  { d with transitions := d.transitions ++ [⟨source, .action action, target⟩] }

/-- The draft with one more transition, which fires by itself. -/
def automatically (d : MachineDraft) (source target : LifecycleState) : MachineDraft :=
  { d with transitions := d.transitions ++ [⟨source, .automatic, target⟩] }

end MachineDraft

/-- What is wrong with a draft. -/
inductive MachineFault where
  /-- An action has no name. -/
  | blankAction (kind : ResourceKind) (source : LifecycleState)
  /-- An action leads from one state to two. -/
  | ambiguousAction (kind : ResourceKind) (name : String) (source first second : LifecycleState)
  /-- A state would move by itself to where it is. -/
  | selfLoop (kind : ResourceKind) (state : LifecycleState)
  /-- Progress leads from one state to two. -/
  | ambiguousProgress (kind : ResourceKind) (source first second : LifecycleState)
  deriving DecidableEq, Repr

/-- What is wrong with a draft, in words. -/
def MachineFault.message : MachineFault → String
  | blankAction k s => k.name ++ ": empty action name on transition from " ++ s.name
  | ambiguousAction k a s t u =>
    k.name ++ ": action '" ++ a ++ "' from " ++ s.name ++ " leads to both " ++ t.name ++ " and " ++ u.name
  | selfLoop k s => k.name ++ ": automatic self-loop on " ++ s.name
  | ambiguousProgress k s t u =>
    k.name ++ ": ambiguous automatic transitions from " ++ s.name ++ " (" ++ t.name ++ " and " ++ u.name ++ ")"

/-- An action in the state in which it is asked for. -/
structure Occasion where
  source : LifecycleState
  action : String
  deriving DecidableEq, Repr

namespace Occasion

/-- Occasions are ordered by state and then by action. -/
instance : Ord Occasion := ⟨compareLex (compareOn source) (compareOn action)⟩

instance : Std.TransOrd Occasion :=
  inferInstanceAs (Std.TransCmp (compareLex (compareOn source) (compareOn action)))

instance : Std.LawfulEqOrd Occasion where
  eq_of_compare {a b} h := by
    obtain ⟨hs, ha⟩ := compareLex_eq_eq.1 (show compareLex (compareOn source) (compareOn action) a b = .eq from h)
    cases a
    cases b
    exact congr (congrArg mk (Std.LawfulEqOrd.eq_of_compare hs)) (Std.LawfulEqOrd.eq_of_compare ha)

/-- The actions of one state come in their own order. -/
theorem action_lt_of_compare {a b : Occasion} (same : a.source = b.source) (h : compare a b = .lt) :
    a.action < b.action := by
  have h : (compareOn source a b).then (compareOn action a b) = .lt := h
  have hs : compareOn source a b = .eq := by simp [compareOn, same]
  rw [hs, Ordering.eq_then] at h
  exact compareOfLessAndEq_eq_lt.mp h

end Occasion

/-- The first target to which `trigger` leads from `source` in a list of transitions. -/
def Transition.targetIn (ts : List Transition) (source : LifecycleState) (trigger : Trigger) :
    Option LifecycleState :=
  (ts.find? fun t => t.source = source ∧ t.trigger = trigger).map (·.target)

theorem Transition.targetIn_concat (ts : List Transition) (t : Transition) (source : LifecycleState)
    (trigger : Trigger) :
    targetIn (ts ++ [t]) source trigger =
      (targetIn ts source trigger).or (if t.source = source ∧ t.trigger = trigger then some t.target else none) := by
  rw [targetIn, List.find?_append, Option.map_or, ← targetIn, List.find?_singleton]
  by_cases h : t.source = source ∧ t.trigger = trigger <;> simp [h]

/-- The checked lifecycle of one kind of resource: the transitions as they were declared, each once, and two tables
of where they lead, one for the actions and one for progress. -/
structure Machine where
  kind : ResourceKind
  initial : LifecycleState
  transitions : List Transition
  /-- Where each action leads. -/
  actions : Std.ExtTreeMap Occasion LifecycleState
  /-- Where each state moves by itself. -/
  progress : Std.ExtTreeMap LifecycleState LifecycleState
  actions_eq : ∀ source name, actions[Occasion.mk source name]? = Transition.targetIn transitions source (.action name)
  progress_eq : ∀ source, progress[source]? = Transition.targetIn transitions source .automatic

namespace Machine

/-- A machine is known by its transitions; the tables follow from them. -/
theorem eq_of_transitions {m m' : Machine} (kind : m.kind = m'.kind) (initial : m.initial = m'.initial)
    (transitions : m.transitions = m'.transitions) : m = m' := by
  obtain ⟨_, _, _, actions, progress, actions_eq, progress_eq⟩ := m
  obtain ⟨_, _, _, actions', progress', actions_eq', progress_eq'⟩ := m'
  cases kind
  cases initial
  cases transitions
  have ha : actions = actions' :=
    Std.ExtTreeMap.ext_getElem? fun o => (actions_eq o.source o.action).trans (actions_eq' o.source o.action).symm
  have hp : progress = progress' :=
    Std.ExtTreeMap.ext_getElem? fun s => (progress_eq s).trans (progress_eq' s).symm
  cases ha
  cases hp
  rfl

instance : DecidableEq Machine := fun m m' =>
  decidable_of_iff (m.kind = m'.kind ∧ m.initial = m'.initial ∧ m.transitions = m'.transitions)
    ⟨fun ⟨kind, initial, transitions⟩ => eq_of_transitions kind initial transitions, by rintro rfl; exact ⟨rfl, rfl, rfl⟩⟩

/-- Where the action leads from a state. -/
def target? (m : Machine) (source : LifecycleState) (action : String) : Option LifecycleState :=
  m.actions[Occasion.mk source action]?

/-- Where a state moves by itself. -/
def successor? (m : Machine) (source : LifecycleState) : Option LifecycleState := m.progress[source]?

theorem target?_eq (m : Machine) (source : LifecycleState) (action : String) :
    m.target? source action = Transition.targetIn m.transitions source (.action action) := m.actions_eq source action

theorem successor?_eq (m : Machine) (source : LifecycleState) :
    m.successor? source = Transition.targetIn m.transitions source .automatic := m.progress_eq source

/-! ## Building a machine -/

/-- A machine without transitions. -/
def bare (kind : ResourceKind) (initial : LifecycleState) : Machine where
  kind := kind
  initial := initial
  transitions := []
  actions := ∅
  progress := ∅
  actions_eq source name := by simp [Transition.targetIn]
  progress_eq source := by simp [Transition.targetIn]

/-- The machine with an action that leads nowhere from `source` so far. -/
def addAction (m : Machine) (source : LifecycleState) (name : String) (target : LifecycleState)
    (new : m.target? source name = none) : Machine :=
  { m with
    transitions := m.transitions ++ [⟨source, .action name, target⟩]
    actions := m.actions.insert ⟨source, name⟩ target
    actions_eq := by
      intro s a
      rw [Std.ExtTreeMap.getElem?_insert, Transition.targetIn_concat, m.actions_eq]
      by_cases h : source = s ∧ name = a
      · obtain ⟨rfl, rfl⟩ := h
        rw [target?_eq] at new
        simp [new]
      · simp [h]
    progress_eq := by
      intro s
      rw [Transition.targetIn_concat, m.progress_eq]
      simp }

/-- The machine with progress from a state that does not move by itself so far. -/
def addProgress (m : Machine) (source target : LifecycleState) (new : m.successor? source = none) : Machine :=
  { m with
    transitions := m.transitions ++ [⟨source, .automatic, target⟩]
    progress := m.progress.insert source target
    actions_eq := by
      intro s a
      rw [Transition.targetIn_concat, m.actions_eq]
      simp
    progress_eq := by
      intro s
      rw [Std.ExtTreeMap.getElem?_insert, Transition.targetIn_concat, m.progress_eq]
      by_cases h : source = s
      · subst h
        rw [successor?_eq] at new
        simp [new]
      · simp [h] }

/-- The machine with one more transition, unless it is at fault; one that repeats an earlier one is left out. -/
def add (m : Machine) (t : Transition) : Except MachineFault Machine :=
  match t.trigger with
  | .action name =>
    if Text.isBlankText name then .error (.blankAction m.kind t.source)
    else
      match new : m.target? t.source name with
      | some earlier =>
        if earlier = t.target then .ok m else .error (.ambiguousAction m.kind name t.source earlier t.target)
      | none => .ok (m.addAction t.source name t.target new)
  | .automatic =>
    if t.source = t.target then .error (.selfLoop m.kind t.source)
    else
      match new : m.successor? t.source with
      | some earlier =>
        if earlier = t.target then .ok m else .error (.ambiguousProgress m.kind t.source earlier t.target)
      | none => .ok (m.addProgress t.source t.target new)

/-- Checks a draft; the first transition at fault decides the error. -/
def build (d : MachineDraft) : Except MachineFault Machine := d.transitions.foldlM add (bare d.kind d.initial)

/-! ## Asking a machine -/

/-- The names of the actions that lead from a state, in ascending order. -/
def actionsFrom (m : Machine) (source : LifecycleState) : List String :=
  (m.actions.keys.filter (·.source = source)).map (·.action)

/-- The actions that lead from a state are those that have a target there. -/
theorem mem_actionsFrom (m : Machine) (source : LifecycleState) (action : String) :
    action ∈ m.actionsFrom source ↔ (m.target? source action).isSome = true := by
  rw [actionsFrom, List.mem_map, target?, Std.ExtTreeMap.isSome_getElem?_iff_mem]
  constructor
  · rintro ⟨⟨s, a⟩, mem, rfl⟩
    rw [List.mem_filter, Std.ExtTreeMap.mem_keys, decide_eq_true_eq] at mem
    obtain ⟨mem, rfl⟩ := mem
    exact mem
  · intro mem
    exact ⟨⟨source, action⟩, by simpa using mem, rfl⟩

theorem mem_actionsFrom_iff_exists (m : Machine) (source : LifecycleState) (action : String) :
    action ∈ m.actionsFrom source ↔ ∃ t ∈ m.transitions, t.source = source ∧ t.trigger = .action action := by
  rw [mem_actionsFrom, target?_eq, Transition.targetIn, Option.isSome_map, List.find?_isSome]
  simp only [decide_eq_true_eq]

/-- Whether the machine speaks of a state: it is the initial one or an end of a transition. -/
def hasState (m : Machine) (s : LifecycleState) : Bool :=
  m.initial = s || m.transitions.any fun t => t.source = s || t.target = s

/-- The states of the machine, in their usual order. -/
def states (m : Machine) : List LifecycleState := LifecycleState.all.filter m.hasState

theorem mem_states {m : Machine} {s : LifecycleState} : s ∈ m.states ↔ m.hasState s = true := by
  simp [states, LifecycleState.mem_all]

/-- Whether nothing leads away from a state. -/
def isTerminal (m : Machine) (s : LifecycleState) : Bool := !(m.transitions.any fun t => t.source = s)

/-- Whether a state belongs to the machine and waits for no progress. -/
def isSettled (m : Machine) (s : LifecycleState) : Bool := m.hasState s && (m.successor? s).isNone

theorem successor?_eq_none_iff (m : Machine) (s : LifecycleState) :
    m.successor? s = none ↔ ∀ t ∈ m.transitions, t.source = s → t.trigger ≠ .automatic := by
  simp [successor?_eq, Transition.targetIn]

/-- A state is a dead end exactly if neither an action nor progress leads away from it. -/
theorem isTerminal_iff (m : Machine) (s : LifecycleState) :
    m.isTerminal s = true ↔ m.actionsFrom s = [] ∧ m.successor? s = none := by
  rw [successor?_eq_none_iff, List.eq_nil_iff_forall_not_mem]
  simp only [isTerminal, Bool.not_eq_true', List.any_eq_false, decide_eq_true_eq, mem_actionsFrom_iff_exists, not_exists,
    not_and]
  constructor
  · intro dead
    exact ⟨fun _ t mem from_s => absurd from_s (dead t mem), fun t mem from_s => absurd from_s (dead t mem)⟩
  · rintro ⟨noAction, noProgress⟩ t mem from_s
    cases h : t.trigger with
    | action name => exact noAction name t mem from_s h
    | automatic => exact noProgress t mem from_s h

theorem isSettled_iff (m : Machine) (s : LifecycleState) :
    m.isSettled s = true ↔ s ∈ m.states ∧ m.successor? s = none := by
  rw [isSettled, Bool.and_eq_true, mem_states, Option.isNone_iff_eq_none]

theorem hasState_iff (m : Machine) (s : LifecycleState) :
    m.hasState s = true ↔ m.initial = s ∨ ∃ t ∈ m.transitions, t.source = s ∨ t.target = s := by
  simp only [hasState, Bool.or_eq_true, decide_eq_true_eq, List.any_eq_true]

end Machine

/-- An action that a machine does not allow in the present state. -/
structure IllegalTransition where
  kind : ResourceKind
  source : LifecycleState
  action : String
  deriving DecidableEq, Repr

/-- What a caller is told about an action that is not allowed. -/
def IllegalTransition.message (e : IllegalTransition) : String :=
  "Action '" ++ e.action ++ "' is not allowed for " ++ e.kind.name ++ " in state " ++ e.source.name

/-- Where an action leads from a state, or that it is not allowed there. -/
def Machine.check (m : Machine) (source : LifecycleState) (action : String) :
    Except IllegalTransition LifecycleState :=
  match m.target? source action with
  | some target => .ok target
  | none => .error ⟨m.kind, source, action⟩

namespace Machine

theorem exists_check_iff (m : Machine) (source : LifecycleState) (action : String) :
    (∃ target, m.check source action = .ok target) ↔ action ∈ m.actionsFrom source := by
  rw [mem_actionsFrom, check]
  cases m.target? source action <;> simp

theorem pairwise_actionsFrom (m : Machine) (source : LifecycleState) : (m.actionsFrom source).Pairwise (· < ·) := by
  have ordered : m.actions.keys.Pairwise fun a b => compare a b = .lt := Std.ExtTreeMap.ordered_keys
  rw [actionsFrom, List.pairwise_map, List.pairwise_filter]
  refine ordered.imp fun h ha hb => ?_
  simp only [decide_eq_true_eq] at ha hb
  exact Occasion.action_lt_of_compare (ha.trans hb.symm) h

end Machine

/-! ## Walking -/

/-- A move refused on a walk. -/
inductive RefusedMove where
  | illegal (e : IllegalTransition)
  /-- The state does not move by itself. -/
  | noProgress
  deriving DecidableEq, Repr

/-- What is said about a refused move. -/
def RefusedMove.message : RefusedMove → String
  | illegal e => e.message
  | noProgress => "no automatic successor"

namespace Machine

/-- One move on a walk: an action by its name or a step of progress. -/
def move (m : Machine) (s : LifecycleState) : Trigger → Except RefusedMove LifecycleState
  | .action name =>
    match m.check s name with
    | .ok t => .ok t
    | .error e => .error (.illegal e)
  | .automatic =>
    match m.successor? s with
    | some t => .ok t
    | none => .error .noProgress

/-- What comes of each move of a path from `s`; a refused move leaves the state as it is. -/
def walk (m : Machine) (s : LifecycleState) : List Trigger → List (Except RefusedMove LifecycleState)
  | [] => []
  | t :: path =>
    match m.move s t with
    | .ok s' => .ok s' :: m.walk s' path
    | .error e => .error e :: m.walk s path

end Machine

end CloudLifecycle
