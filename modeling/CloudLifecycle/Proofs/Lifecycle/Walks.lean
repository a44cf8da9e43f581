import CloudLifecycle.Proofs.Lifecycle.Answers

/-!
# Walking a machine

A path is a list of triggers that are tried one after the other, each in the state to which those before it have led. An
entry that is refused leaves the state as it is. What may come of an entry is read off the transitions that were declared
(`Entered`): those with exactly its trigger are made, and no others.

1. A machine answers every entry so from its tables (`entered_move`), wherever in a path the entry stands
   (`getElem?_walk`, `reached_succ`).
2. What is declared leads from states of the machine to states of the machine, so a path that starts at one never leaves
   them (`Entered.mem_states`, `reached_mem_states`).
3. Where nothing is declared to lead away, every entry is refused, so a path has come to its end there
   (`move_of_terminal`, `reached_of_terminal`).

`walk_accords` puts these together.
-/

namespace CloudLifecycle

open Transition

namespace Machine

/-! ## Entries of a path -/

/-- What is said of an entry that is refused in a state. -/
def refusal (kind : ResourceKind) (s : LifecycleState) : Trigger → RefusedMove
  | .action name => .illegal ⟨kind, s, name⟩
  | .automatic => .noProgress

/-- The state to which an entry leads: the one that it moves to, or the one where it was refused. -/
def next (m : Machine) (s : LifecycleState) (entry : Trigger) : LifecycleState :=
  match m.move s entry with
  | .ok t => t
  | .error _ => s

/-- The state to which a path leads. -/
def reached (m : Machine) (s : LifecycleState) (path : List Trigger) : LifecycleState := path.foldl m.next s

/-- What an entry in a state may be answered, and the state after it. -/
inductive Entered (d : MachineDraft) (s : LifecycleState) (entry : Trigger) :
    Except RefusedMove LifecycleState → LifecycleState → Prop
  /-- A transition is made that is declared with this trigger. -/
  | moved {t} (declared : ⟨s, entry, t⟩ ∈ d.transitions) : Entered d s entry (.ok t) t
  /-- None is declared with this trigger, whatever is declared with others. -/
  | refused (undeclared : ∀ t, ⟨s, entry, t⟩ ∉ d.transitions) :
    Entered d s entry (.error (refusal d.kind s entry)) s

section

variable {d : MachineDraft} {m : Machine} {s t : LifecycleState} {entry : Trigger} {path : List Trigger} {n k : Nat}
  {answer : Except RefusedMove LifecycleState}

/-- An entry is refused if nothing is declared with its trigger. -/
theorem Entered.of_undeclared (h : Entered d s entry answer t) (undeclared : ∀ t, ⟨s, entry, t⟩ ∉ d.transitions) :
    answer = .error (refusal d.kind s entry) ∧ t = s := by
  cases h with
  | moved declared => exact absurd declared (undeclared _)
  | refused _ => exact ⟨rfl, rfl⟩

/-- Both tables of a machine answer an entry as its trigger is declared. -/
theorem entered_move (built : build d = .ok m) (s : LifecycleState) (entry : Trigger) :
    Entered d s entry (m.move s entry) (m.next s entry) := by
  have reflects := reflects_of_build built
  have kind : m.kind = d.kind := (build_eq_ok_iff.mp built).2.kind
  unfold next
  cases entry with
  | action name =>
    have declared := reflects.target s name
    simp only [move, check]
    rcases leads : m.target? s name with _ | t
    · rw [kind]
      refine .refused fun t => ?_
      rw [← declared, leads]
      exact (Option.some_ne_none t).symm
    · exact .moved ((declared t).mp leads)
  | automatic =>
    have declared := reflects.successor s
    simp only [move]
    rcases leads : m.successor? s with _ | t
    · refine .refused fun t => ?_
      rw [← declared, leads]
      exact (Option.some_ne_none t).symm
    · exact .moved ((declared t).mp leads)

/-! ## Positions on a path -/

theorem reached_append (m : Machine) (s : LifecycleState) (before after : List Trigger) :
    m.reached s (before ++ after) = m.reached (m.reached s before) after := List.foldl_append

theorem reached_succ (at_place : path[n]? = some entry) :
    m.reached s (path.take (n + 1)) = m.next (m.reached s (path.take n)) entry := by
  rw [List.take_add_one, at_place, reached_append]
  rfl

theorem length_walk (m : Machine) (s : LifecycleState) (path : List Trigger) : (m.walk s path).length = path.length := by
  induction path generalizing s with
  | nil => rfl
  | cons entry path ih =>
    rw [walk]
    split <;> rw [List.length_cons, ih, List.length_cons]

theorem walk_cons (m : Machine) (s : LifecycleState) (entry : Trigger) (path : List Trigger) :
    m.walk s (entry :: path) = m.move s entry :: m.walk (m.next s entry) path := by
  rw [walk, next]
  cases m.move s entry <;> rfl

/-- Each entry is tried in the state to which those before it have led. -/
theorem getElem?_walk (m : Machine) (s : LifecycleState) (path : List Trigger) (n : Nat) :
    (m.walk s path)[n]? = path[n]?.map (m.move (m.reached s (path.take n))) := by
  induction path generalizing s n with
  | nil => rfl
  | cons entry path ih =>
    rw [walk_cons]
    cases n with
    | zero => rfl
    | succ n => exact ih (m.next s entry) n

/-! ## What a path keeps -/

/-- An entry leads from a state of the machine to another one. -/
theorem Entered.mem_states (built : build d = .ok m) (h : Entered d s entry answer t) (start : s ∈ m.states) :
    t ∈ m.states := by
  cases h with
  | moved declared => exact ((reflects_of_build built).states t).mpr (.inr ⟨_, declared, .inr rfl⟩)
  | refused _ => exact start

theorem reached_mem_states (built : build d = .ok m) (start : s ∈ m.states) (path : List Trigger) :
    m.reached s path ∈ m.states := by
  induction path generalizing s with
  | nil => exact start
  | cons entry path ih => exact ih ((entered_move built s entry).mem_states built start)

theorem not_declared_of_terminal (built : build d = .ok m) (terminal : m.isTerminal s = true) (entry : Trigger)
    (t : LifecycleState) : ⟨s, entry, t⟩ ∉ d.transitions := by
  intro declared
  have kept := ((build_eq_ok_iff.mp built).2.mem_transitions _).mpr declared
  simp only [isTerminal, Bool.not_eq_true', List.any_eq_false, decide_eq_true_eq] at terminal
  exact terminal _ kept rfl

/-- Every entry is refused in a state from which nothing leads away. -/
theorem move_of_terminal (built : build d = .ok m) (terminal : m.isTerminal s = true) (entry : Trigger) :
    m.move s entry = .error (refusal d.kind s entry) ∧ m.next s entry = s :=
  (entered_move built s entry).of_undeclared (not_declared_of_terminal built terminal entry)

theorem reached_of_terminal (built : build d = .ok m) (terminal : m.isTerminal s = true) (path : List Trigger) :
    m.reached s path = s := by
  induction path with
  | nil => rfl
  | cons entry path ih =>
    show m.reached (m.next s entry) path = s
    rw [(move_of_terminal built terminal entry).2, ih]

/-- A path that has come to such a state stays there. -/
theorem reached_take_of_terminal (built : build d = .ok m) (terminal : m.isTerminal (m.reached s (path.take n)) = true)
    (later : n ≤ k) : m.reached s (path.take k) = m.reached s (path.take n) := by
  obtain ⟨more, rfl⟩ := Nat.exists_eq_add_of_le later
  rw [List.take_add, reached_append, reached_of_terminal built terminal]

end

/-- **Walks keep to what is declared.** On every machine that is built, from each of its states and along every path of
actions and steps of progress, where `place n` is the state after the first `n` entries:

1. every entry is answered, and by a move exactly if a transition is declared from the state there with the trigger of
the entry itself; the move is that transition, which is one of the machine's, and an entry that is refused leaves the
state as it is. So an action never makes a step of progress, nor progress an action;
2. every state on the way is a state of the machine;
3. once a state is terminal, every further entry is refused there, whether it is an action or a step of progress. -/
theorem walk_accords {d : MachineDraft} {m : Machine} (built : build d = .ok m) {s : LifecycleState}
    (start : s ∈ m.states) (path : List Trigger) :
    let place (n : Nat) := m.reached s (path.take n)
    ((m.walk s path).length = path.length ∧
      (∀ n entry, path[n]? = some entry → ∃ answer, (m.walk s path)[n]? = some answer ∧
        Entered d (place n) entry answer (place (n + 1))) ∧
      ∀ t, t ∈ d.transitions ↔ t ∈ m.transitions) ∧
    (∀ n, place n ∈ m.states) ∧
    ∀ n, m.isTerminal (place n) = true → ∀ k entry, n ≤ k → path[k]? = some entry →
      place (k + 1) = place n ∧ (m.walk s path)[k]? = some (.error (refusal m.kind (place n) entry)) := by
  intro place
  have declared := (build_eq_ok_iff.mp built).2
  refine ⟨⟨m.length_walk s path, fun n entry at_place => ?_, fun t => (declared.mem_transitions t).symm⟩,
    fun n => reached_mem_states built start _, fun n terminal k entry later at_place => ?_⟩
  · refine ⟨m.move (place n) entry, ?_, ?_⟩
    · rw [getElem?_walk, at_place]
      rfl
    · rw [show place (n + 1) = _ from reached_succ at_place]
      exact entered_move built (place n) entry
  · have here : m.reached s (path.take k) = place n := reached_take_of_terminal built terminal later
    refine ⟨reached_take_of_terminal built terminal (Nat.le_succ_of_le later), ?_⟩
    rw [getElem?_walk, at_place, here, Option.map_some, (move_of_terminal built terminal entry).1, declared.kind]

/-- A server that is made, is told to start too early, comes up and is destroyed moves no more: neither by an action nor by
itself. -/
theorem server_walks :
    let d := Lifecycle.serverDraft
    let path : List Trigger :=
      [.action "create", .action "start", .automatic, .action "destroy", .action "start", .automatic]
    ∃ m, build d = .ok m ∧ .start ∈ m.states ∧
      (m.walk .start path)[1]? = some (.error (.illegal ⟨.server, .pending, "start"⟩)) ∧
      (m.walk .start path)[4]? = some (.error (.illegal ⟨.server, .finish, "start"⟩)) ∧
      (m.walk .start path)[5]? = some (.error .noProgress) := by
  intro d path
  have built : build d = .ok ((build d).toOption.get (by decide +kernel)) := by decide +kernel
  generalize made : (build d).toOption.get _ = m at built
  have start : .start ∈ m.states := by rw [← made]; decide +kernel
  have kind : m.kind = .server := by rw [← made]; decide +kernel
  have pending : m.reached .start (path.take 1) = .pending := by rw [← made]; decide +kernel
  have finish : m.reached .start (path.take 4) = .finish := by rw [← made]; decide +kernel
  have terminal : m.isTerminal (m.reached .start (path.take 4)) = true := by rw [← made]; decide +kernel
  obtain ⟨⟨_, answered, _⟩, _, ended⟩ := walk_accords built start path
  refine ⟨m, built, start, ?_, ?_, ?_⟩
  · obtain ⟨answer, given, entered⟩ := answered 1 _ rfl
    have undeclared : ∀ t, ⟨m.reached .start (path.take 1), .action "start", t⟩ ∉ d.transitions := by
      rw [pending]
      intro t
      cases t <;> decide
    have refused := (entered.of_undeclared undeclared).1
    simp only [pending] at refused
    rw [given, refused]
    rfl
  · have refused := (ended 4 terminal 4 _ (Nat.le_refl 4) rfl).2
    simp only [finish, kind] at refused
    exact refused
  · exact (ended 4 terminal 5 _ (by decide) rfl).2

end Machine

end CloudLifecycle
