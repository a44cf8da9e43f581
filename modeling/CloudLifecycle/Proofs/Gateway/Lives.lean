import CloudLifecycle.Proofs.Gateway.Moves
import CloudLifecycle.Proofs.Gateway.Recorded
import CloudLifecycle.Proofs.Gateway.Standing
import Mathlib.Data.List.Induction
import Mathlib.Data.Stream.Init

/-!
# The life of a convergence

A convergence is taken up on one desk after the other, and between two of its turns others may do to the desk what
they like. Its `Life` on a stream of desks is all that it asks of the fleets there, and how it ends.

1. A lookup decides if it shows the resource in a state that is terminal or settled for its kind, or if it does not
   find a resource that was seen before (`Decides`). Neither of the states is taken from the functions that check
   them: `Terminal` and `Settled` are read off the transitions of a machine.
2. As long as nothing decides, each turn costs one lookup and one attempt, and all that is kept is the last state in
   which the resource was seen (`life_undecided`).
3. The first lookup that decides is the last one, and says how the life ends (`Closes`, `life_of_decides`). Without one
   the attempts run out (`life_of_not_decides`).
4. A convergence in traffic is taken up on some of the desks there, and what is left of it at any time is the rest of
   its life on them (`Traffic.Lived`).

`life_decided` puts these together.
-/

namespace CloudLifecycle

variable {σ φ : Type} [Fleet σ φ]

/-! ## States at which a convergence ends -/

/-- Nothing leads away from a state of the machine. Where there is none, only that of a destroyed resource is
terminal. -/
def Terminal : Option Machine → LifecycleState → Prop
  | some machine, s => s ∈ machine.states ∧ ∀ t ∈ machine.transitions, t.source ≠ s
  | none, s => s = .finish

/-- No progress leads away from a state of the machine. Where there is none, every state counts but those of a
resource that is coming up or not understood. -/
def Settled : Option Machine → LifecycleState → Prop
  | some machine, s => s ∈ machine.states ∧ ∀ t ∈ machine.transitions, t.source = s → t.trigger ≠ .automatic
  | none, s => s ≠ .pending ∧ s ≠ .unknown

theorem isTerminalFor_iff (machine : Option Machine) (s : LifecycleState) :
    isTerminalFor machine s = true ↔ Terminal machine s := by
  cases machine with
  | none => simp [isTerminalFor, Terminal]
  | some machine => simp [isTerminalFor, Terminal, Machine.mem_states, Machine.isTerminal]

theorem isSettledFor_iff (machine : Option Machine) (s : LifecycleState) :
    isSettledFor machine s = true ↔ Settled machine s := by
  cases machine with
  | none => simp [isSettledFor, Settled]
  | some machine => rw [isSettledFor, Machine.isSettled_iff, Machine.successor?_eq_none_iff, Settled]

/-! ## Lookups that decide -/

namespace Gateway

/-- The state in which an answer shows the resource. -/
def seen? (g : Gateway) (key : ResourceKey) : BackendResult (Option Resource) → Option LifecycleState
  | .ok (some resource) => some (g.normalizer.normalize key.backend resource.rawStatus)
  | .ok none | .error _ => none

/-- The state in the last of the first `n` answers that show the resource. -/
def lastSeen (g : Gateway) (key : ResourceKey) (answers : Stream' (BackendResult (Option Resource))) :
    Nat → Option LifecycleState
  | 0 => none
  | n + 1 => (g.seen? key (answers.get n)).or (lastSeen g key answers n)

/-- The answer `n` decides: it shows the resource in a state that is terminal or settled, or the resource is not there
any more. -/
def Decides (g : Gateway) (key : ResourceKey) (answers : Stream' (BackendResult (Option Resource))) (n : Nat) : Prop :=
  (∃ s, g.seen? key (answers.get n) = some s ∧
    (Terminal (g.catalog.get? key.kind) s ∨ Settled (g.catalog.get? key.kind) s)) ∨
  (answers.get n = .ok none ∧ ∃ k < n, ∃ s, g.seen? key (answers.get k) = some s)

section

variable {g : Gateway} {key : ResourceKey} {answers : Stream' (BackendResult (Option Resource))}

theorem lastSeen_isSome {n : Nat} :
    (g.lastSeen key answers n).isSome = true ↔ ∃ k < n, ∃ s, g.seen? key (answers.get k) = some s := by
  induction n with
  | zero => simp [lastSeen]
  | succ n ih =>
    rw [lastSeen, Option.isSome_or, Bool.or_eq_true, ih]
    constructor
    · rintro (now | ⟨k, hk, seen⟩)
      · exact ⟨n, Nat.lt_succ_self n, Option.isSome_iff_exists.mp now⟩
      · exact ⟨k, Nat.lt_succ_of_lt hk, seen⟩
    · rintro ⟨k, hk, s, seen⟩
      rcases Nat.lt_succ_iff_lt_or_eq.mp hk with earlier | rfl
      · exact .inr ⟨k, earlier, s, seen⟩
      · exact .inl (by rw [seen]; rfl)

end

/-! ## One turn -/

section

variable {g : Gateway} {c : Convergence} {desk : Desk σ}

theorem observe_of_seen {key : ResourceKey} {s : LifecycleState}
    (seen : g.seen? key (Fleet.find desk.fleet key).1 = some s) : (g.observe key desk).1 = .ok (some s) := by
  unfold observe
  rcases ha : (Fleet.find desk.fleet key).1 with e | _ | resource
  · rw [ha] at seen
    cases seen
  · rw [ha] at seen
    cases seen
  · rw [ha] at seen
    simp only [ha]
    cases seen
    rfl

theorem observe_of_absent {key : ResourceKey} (absent : (Fleet.find desk.fleet key).1 = .ok none) :
    (g.observe key desk).1 = .ok none := by
  unfold observe
  simp only [absent]
  rfl

theorem poll_of_terminal {s : LifecycleState} (seen : g.seen? c.key (Fleet.find desk.fleet c.key).1 = some s)
    (terminal : Terminal (g.catalog.get? c.key.kind) s) :
    g.poll c desk = ended (lift c (.removed (some s)) (g.observe c.key desk).2) := by
  unfold poll
  simp only [observe_of_seen seen, verdict, (isTerminalFor_iff _ _).mpr terminal, if_true]

theorem poll_of_vanished (absent : (Fleet.find desk.fleet c.key).1 = .ok none) (before : c.lastSeen.isSome = true) :
    g.poll c desk = ended (lift c (.removed none) (g.observe c.key desk).2) := by
  unfold poll
  simp only [observe_of_absent absent, verdict, before, if_true]

theorem poll_of_settled {s : LifecycleState} (seen : g.seen? c.key (Fleet.find desk.fleet c.key).1 = some s)
    (moves : ¬ Terminal (g.catalog.get? c.key.kind) s) (settled : Settled (g.catalog.get? c.key.kind) s) :
    g.poll c desk =
      g.settle { c with attempts := c.attempts + 1, lastSeen := some s } s (g.observe c.key desk).2 := by
  have hm : isTerminalFor (g.catalog.get? c.key.kind) s ≠ true := mt (isTerminalFor_iff _ _).mp moves
  unfold poll
  simp only [observe_of_seen seen, verdict, hm, (isSettledFor_iff _ _).mpr settled, if_true]
  rfl

/-- What is kept of a convergence whose lookup decides nothing. -/
def keepOn (g : Gateway) (c : Convergence) (answer : BackendResult (Option Resource)) : Convergence :=
  { c with attempts := c.attempts + 1, lastSeen := (g.seen? c.key answer).or c.lastSeen }

theorem verdict_of_undecided
    (unsettled : ∀ s, g.seen? c.key (Fleet.find desk.fleet c.key).1 = some s →
      ¬ Terminal (g.catalog.get? c.key.kind) s ∧ ¬ Settled (g.catalog.get? c.key.kind) s)
    (unknown : (Fleet.find desk.fleet c.key).1 = .ok none → c.lastSeen = none) :
    verdict (g.catalog.get? c.key.kind) c.lastSeen (g.observe c.key desk).1 =
      .undecided ((g.seen? c.key (Fleet.find desk.fleet c.key).1).or c.lastSeen) := by
  rcases ha : (Fleet.find desk.fleet c.key).1 with e | _ | resource
  · simp [observe, ha, Except.map, verdict, seen?]
  · simp [observe_of_absent ha, verdict, seen?, unknown ha]
  · have seen : g.seen? c.key (Fleet.find desk.fleet c.key).1 =
        some (g.normalizer.normalize c.key.backend resource.rawStatus) := by rw [ha]; rfl
    obtain ⟨moves, restless⟩ := unsettled _ seen
    rw [← isTerminalFor_iff] at moves
    rw [← isSettledFor_iff] at restless
    rw [observe_of_seen seen, ← ha, seen]
    simp [verdict, moves, restless]

theorem poll_of_undecided
    (unsettled : ∀ s, g.seen? c.key (Fleet.find desk.fleet c.key).1 = some s →
      ¬ Terminal (g.catalog.get? c.key.kind) s ∧ ¬ Settled (g.catalog.get? c.key.kind) s)
    (unknown : (Fleet.find desk.fleet c.key).1 = .ok none → c.lastSeen = none) :
    g.poll c desk =
      let kept := g.keepOn c (Fleet.find desk.fleet c.key).1
      if c.attempts + 1 < g.plan.maxAttempts then (.waiting (.polling kept) g.plan.interval, (g.observe c.key desk).2)
      else ended (fail c (exhaustionReason g.plan.maxAttempts kept.lastSeen)
        (.exhausted g.plan.maxAttempts kept.lastSeen) (g.observe c.key desk).2) := by
  unfold poll
  simp only [verdict_of_undecided unsettled unknown]
  rfl

end

/-! ## Turns on recorded desks -/

end Gateway

/-- All that a convergence asks of the fleet, the earliest first, and how it ends. -/
structure Life where
  asked : List Ask
  outcome : Outcome
  deriving DecidableEq

/-- A life with what was asked before it. -/
def Life.prepend (asked : List Ask) (life : Life) : Life := { life with asked := asked ++ life.asked }

theorem Life.prepend_prepend (before after : List Ask) (life : Life) :
    (life.prepend after).prepend before = life.prepend (before ++ after) := by
  simp [prepend]

namespace Gateway

/-- The life of a convergence that is taken up on the desks of a stream, one after the other. -/
def life (g : Gateway) (phase : Phase φ) (desks : Stream' (Desk σ)) : Life :=
  match _h : g.advance phase desks.head.recording with
  | (.done outcome, desk) => ⟨desk.fleet.record, outcome⟩
  | (.waiting rest _, desk) => (life g rest desks.tail).prepend desk.fleet.record
termination_by g.rank phase
decreasing_by exact g.rank_advance phase _ rest _ (by rw [_h])

section

variable {g : Gateway} {phase : Phase φ} {desks : Stream' (Desk σ)}

theorem life_of_done {outcome : Outcome} {desk : Desk (Recorded σ)}
    (h : g.advance phase desks.head.recording = (.done outcome, desk)) :
    g.life phase desks = ⟨desk.fleet.record, outcome⟩ := by
  rw [life]
  split
  · next h' =>
    rw [h] at h'
    cases h'
    rfl
  · next h' =>
    rw [h] at h'
    cases h'

theorem life_of_waiting {rest : Phase φ} {time : Duration} {desk : Desk (Recorded σ)}
    (h : g.advance phase desks.head.recording = (.waiting rest time, desk)) :
    g.life phase desks = (g.life rest desks.tail).prepend desk.fleet.record := by
  rw [life]
  split
  · next h' =>
    rw [h] at h'
    cases h'
  · next h' =>
    rw [h] at h'
    cases h'
    rfl

end

/-- What the step that finishes a resource comes to, with the calls that it makes. The resource has come up in a state,
as was seen on one desk, and a call that is made there lands on another. -/
inductive Finishes (g : Gateway) (key : ResourceKey) (payload : Payload) (s : LifecycleState) (seen later : Desk σ) :
    List Call → Outcome → Prop where
  | undeclared (shut : Fleet.supports seen.fleet key.backend (Operation.postCreate key.kind).name = false) :
      Finishes g key payload s seen later [] (.converged s)
  | finished (declared : Fleet.supports seen.fleet key.backend (Operation.postCreate key.kind).name = true)
      (receipt : Receipt)
      (answered : g.reply ⟨key.backend, .postCreate key.kind, some key.id, payload⟩ seen later = some (.ok receipt)) :
      Finishes g key payload s seen later [⟨key.backend, .postCreate key.kind, some key.id, payload⟩] (.converged s)
  | failed (declared : Fleet.supports seen.fleet key.backend (Operation.postCreate key.kind).name = true)
      (e : BackendError)
      (answered : g.reply ⟨key.backend, .postCreate key.kind, some key.id, payload⟩ seen later = some (.error e)) :
      Finishes g key payload s seen later [⟨key.backend, .postCreate key.kind, some key.id, payload⟩]
        (.postCreateFailed ((Operation.postCreate key.kind).name ++ " failed: " ++ e.message))
  | givenUp (declared : Fleet.supports seen.fleet key.backend (Operation.postCreate key.kind).name = true)
      (late : g.reply ⟨key.backend, .postCreate key.kind, some key.id, payload⟩ seen later = none) :
      Finishes g key payload s seen later [⟨key.backend, .postCreate key.kind, some key.id, payload⟩]
        (.postCreateFailed ((Operation.postCreate key.kind).name ++ " did not complete within " ++ g.timeout.text))

section

variable {g : Gateway} {c : Convergence} {desks : Stream' (Desk σ)}

theorem life_terminal {s : LifecycleState} (seen : g.seen? c.key (Fleet.find desks.head.fleet c.key).1 = some s)
    (terminal : Terminal (g.catalog.get? c.key.kind) s) :
    g.life (.polling c) desks = ⟨[.lookup c.key], .removed (some s)⟩ := by
  have turn : g.advance (.polling c) desks.head.recording =
      ended (lift c (.removed (some s)) (g.observe c.key desks.head.recording).2) := poll_of_terminal seen terminal
  rw [life_of_done turn]
  rfl

theorem life_vanished (absent : (Fleet.find desks.head.fleet c.key).1 = .ok none) (before : c.lastSeen.isSome = true) :
    g.life (.polling c) desks = ⟨[.lookup c.key], .removed none⟩ := by
  have turn : g.advance (.polling c) desks.head.recording =
      ended (lift c (.removed none) (g.observe c.key desks.head.recording).2) := poll_of_vanished absent before
  rw [life_of_done turn]
  rfl

theorem outcome_finishConvergence (g : Gateway) (c : Convergence) (s : LifecycleState) (flight : φ) (desk : Desk σ) :
    (g.finishConvergence c s (some flight) desk).1 =
      match (Fleet.land desk.fleet flight).1 with
      | .ok _ => .converged s
      | .error e => .postCreateFailed (postCreateError (.postCreate c.key.kind) e) := by
  unfold finishConvergence
  rcases landed : (Fleet.land desk.fleet flight).1 with e | receipt
  · simp only [landed]
    rfl
  · simp only [landed]
    rfl

/-- The landing of a call is no further request. -/
theorem record_finishConvergence (g : Gateway) (c : Convergence) (s : LifecycleState) (flight : Option φ)
    (desk : Desk (Recorded σ)) : (g.finishConvergence c s flight desk).2.fleet.record = desk.fleet.record := by
  cases flight with
  | none => rfl
  | some flight =>
    unfold finishConvergence
    dsimp only
    split <;> rfl

theorem settle_bare (g : Gateway) (c : Convergence) (state : LifecycleState) (desk : Desk (Recorded σ)) :
    (g.settle c state desk.bare : Progress (Phase φ) Outcome × Desk σ).1 = (g.settle c state desk).1 := by
  have same : Fleet.supports desk.bare.fleet c.key.backend (Operation.postCreate c.key.kind).name =
      Fleet.supports desk.fleet c.key.backend (Operation.postCreate c.key.kind).name := rfl
  unfold settle
  rw [same]
  split <;> rfl

/-- A record changes nothing about a turn. -/
theorem advance_bare (g : Gateway) (phase : Phase φ) (desk : Desk (Recorded σ)) :
    (g.advance phase desk.bare).1 = (g.advance phase desk).1 := by
  cases phase with
  | polling c =>
    have same : (g.observe c.key desk.bare).1 = (g.observe c.key desk).1 := rfl
    unfold advance poll
    dsimp only
    rw [same]
    split
    · rfl
    · exact g.settle_bare _ _ (g.observe c.key desk).2
    · split <;> rfl
  | finishing c state flight =>
    cases flight with
    | none => rfl
    | some flight =>
      show Progress.done _ = Progress.done _
      rw [outcome_finishConvergence, outcome_finishConvergence]
      rfl

/-- The call that finishes a resource is the last that its convergence asks for, and what becomes of it says how the
life ends. -/
theorem life_finishing {s : LifecycleState} {seen : Desk σ}
    (declared : Fleet.supports seen.fleet c.key.backend (Operation.postCreate c.key.kind).name = true) :
    ∃ outcome, g.life (.finishing c s (g.call (postCreateCall c) seen).1.1) desks = ⟨[], outcome⟩ ∧
      g.Finishes c.key c.payload s seen desks.head [postCreateCall c] outcome := by
  have whole (flight : Option φ) : g.life (.finishing c s flight) desks =
      ⟨[], (g.finishConvergence c s flight desks.head.recording).1⟩ := by
    rw [life_of_done rfl, record_finishConvergence]
    rfl
  refine ⟨_, whole _, ?_⟩
  rcases sent : (g.call (postCreateCall c) seen).1.1 with _ | flight
  · exact .givenUp declared (reply_of_givenUp sent desks.head)
  · have landing : (Fleet.land desks.head.recording.fleet flight).1 = (Fleet.land desks.head.fleet flight).1 := rfl
    have replied := reply_of_flight sent desks.head
    rw [outcome_finishConvergence, landing]
    rcases landed : (Fleet.land desks.head.fleet flight).1 with e | receipt
    · exact .failed declared e (replied.trans (congrArg some landed))
    · exact .finished declared receipt (replied.trans (congrArg some landed))

/-- A resource that has come up is finished, and that is how the life ends. -/
theorem life_settled {s : LifecycleState} (seen : g.seen? c.key (Fleet.find desks.head.fleet c.key).1 = some s)
    (moves : ¬ Terminal (g.catalog.get? c.key.kind) s) (settled : Settled (g.catalog.get? c.key.kind) s) :
    ∃ calls outcome, g.life (.polling c) desks = ⟨.lookup c.key :: calls.map .call, outcome⟩ ∧
      g.Finishes c.key c.payload s (g.observe c.key desks.head).2 desks.tail.head calls outcome := by
  let settling : Convergence := { c with attempts := c.attempts + 1, lastSeen := some s }
  let later : Desk (Recorded σ) := (g.observe c.key desks.head.recording).2
  have turn : g.advance (.polling c) desks.head.recording = g.settle settling s later :=
    poll_of_settled seen moves settled
  cases declared : Fleet.supports (g.observe c.key desks.head).2.fleet c.key.backend
      (Operation.postCreate c.key.kind).name with
  | false =>
    have done : g.settle settling s later = ended (lift settling (.converged s) later) :=
      if_neg (ne_true_of_eq_false declared)
    refine ⟨[], .converged s, ?_, .undeclared declared⟩
    rw [life_of_done (turn.trans done)]
    rfl
  | true =>
    have waiting : g.settle settling s later =
        (.waiting (.finishing settling s (g.call (postCreateCall settling) later).1.1)
          (g.call (postCreateCall settling) later).1.2, (g.call (postCreateCall settling) later).2) :=
      if_pos declared
    have rest : ∃ outcome, g.life (.finishing settling s (g.call (postCreateCall settling) later).1.1) desks.tail =
        ⟨[], outcome⟩ ∧ g.Finishes c.key c.payload s (g.observe c.key desks.head).2 desks.tail.head
          [postCreateCall c] outcome := life_finishing (c := settling) declared
    obtain ⟨outcome, rest, finishes⟩ := rest
    refine ⟨[postCreateCall c], outcome, ?_, finishes⟩
    rw [life_of_waiting (turn.trans waiting), rest]
    rfl

/-- A turn that decides nothing costs a lookup and an attempt. -/
theorem life_waits
    (unsettled : ∀ s, g.seen? c.key (Fleet.find desks.head.fleet c.key).1 = some s →
      ¬ Terminal (g.catalog.get? c.key.kind) s ∧ ¬ Settled (g.catalog.get? c.key.kind) s)
    (unknown : (Fleet.find desks.head.fleet c.key).1 = .ok none → c.lastSeen = none)
    (more : c.attempts + 1 < g.plan.maxAttempts) :
    g.life (.polling c) desks =
      (g.life (.polling (g.keepOn c (Fleet.find desks.head.fleet c.key).1)) desks.tail).prepend [.lookup c.key] := by
  have undecided : g.poll c desks.head.recording = _ := poll_of_undecided unsettled unknown
  have turn : g.advance (.polling c) desks.head.recording =
      (.waiting (.polling (g.keepOn c (Fleet.find desks.head.fleet c.key).1)) g.plan.interval,
        (g.observe c.key desks.head.recording).2) := undecided.trans (if_pos more)
  rw [life_of_waiting turn]
  rfl

/-- Without an attempt left, such a turn is the last one. -/
theorem life_exhausted
    (unsettled : ∀ s, g.seen? c.key (Fleet.find desks.head.fleet c.key).1 = some s →
      ¬ Terminal (g.catalog.get? c.key.kind) s ∧ ¬ Settled (g.catalog.get? c.key.kind) s)
    (unknown : (Fleet.find desks.head.fleet c.key).1 = .ok none → c.lastSeen = none)
    (last : ¬ c.attempts + 1 < g.plan.maxAttempts) :
    g.life (.polling c) desks =
      ⟨[.lookup c.key], .exhausted g.plan.maxAttempts
        ((g.seen? c.key (Fleet.find desks.head.fleet c.key).1).or c.lastSeen)⟩ := by
  let kept := g.keepOn c (Fleet.find desks.head.fleet c.key).1
  have undecided : g.poll c desks.head.recording = _ := poll_of_undecided unsettled unknown
  have turn : g.advance (.polling c) desks.head.recording =
      ended (fail c (exhaustionReason g.plan.maxAttempts kept.lastSeen)
        (.exhausted g.plan.maxAttempts kept.lastSeen) (g.observe c.key desks.head.recording).2) :=
    undecided.trans (if_neg last)
  rw [life_of_done turn]
  rfl

end

/-! ## A whole life -/

/-- What the lookups of a resource answer on the desks of a stream. -/
def answers (key : ResourceKey) (desks : Stream' (Desk σ)) : Stream' (BackendResult (Option Resource)) :=
  desks.map fun desk => (Fleet.find desk.fleet key).1

/-- A convergence after `n` lookups that have decided nothing. -/
def after (g : Gateway) (key : ResourceKey) (payload : Payload)
    (answered : Stream' (BackendResult (Option Resource))) (n : Nat) : Convergence :=
  ⟨key, payload, n, g.lastSeen key answered n⟩

section

variable {g : Gateway} {key : ResourceKey} {desks : Stream' (Desk σ)} {n : Nat}

theorem unsettled_of_not_decides (undecided : ¬ g.Decides key (answers key desks) n) :
    ∀ s, g.seen? key (Fleet.find (desks.drop n).head.fleet key).1 = some s →
      ¬ Terminal (g.catalog.get? key.kind) s ∧ ¬ Settled (g.catalog.get? key.kind) s := by
  intro s seen
  rw [Stream'.head_drop] at seen
  constructor
  · exact fun terminal => undecided (.inl ⟨s, seen, .inl terminal⟩)
  · exact fun settled => undecided (.inl ⟨s, seen, .inr settled⟩)

theorem unknown_of_not_decides (undecided : ¬ g.Decides key (answers key desks) n)
    (absent : (Fleet.find (desks.drop n).head.fleet key).1 = .ok none) :
    g.lastSeen key (answers key desks) n = none := by
  rw [Stream'.head_drop] at absent
  rw [← Option.not_isSome_iff_eq_none, lastSeen_isSome]
  exact fun before => undecided (.inr ⟨absent, before⟩)

/-- As long as nothing decides, a life is made of lookups, and goes on with what the last of them has shown. -/
theorem life_undecided (payload : Payload) (more : n < g.plan.maxAttempts)
    (undecided : ∀ k < n, ¬ g.Decides key (answers key desks) k) :
    g.life (.polling (.begin key payload)) desks =
      (g.life (.polling (g.after key payload (answers key desks) n)) (desks.drop n)).prepend
        (List.replicate n (.lookup key)) := by
  induction n with
  | zero => rfl
  | succ n ih =>
    have now := undecided n (Nat.lt_succ_self n)
    have turn := life_waits (c := g.after key payload (answers key desks) n) (unsettled_of_not_decides now)
      (unknown_of_not_decides now) more
    rw [ih (Nat.lt_of_succ_lt more) fun k hk => undecided k (Nat.lt_succ_of_lt hk), turn, Life.prepend_prepend,
      List.replicate_succ', Stream'.tail_drop', Stream'.head_drop]
    rfl

/-- If no attempt decides, all of them are used up. -/
theorem life_of_not_decides (payload : Payload)
    (undecided : ∀ n < g.plan.maxAttempts, ¬ g.Decides key (answers key desks) n) :
    g.life (.polling (.begin key payload)) desks =
      ⟨List.replicate g.plan.maxAttempts (.lookup key),
        .exhausted g.plan.maxAttempts (g.lastSeen key (answers key desks) g.plan.maxAttempts)⟩ := by
  obtain ⟨n, hn⟩ : ∃ n, g.plan.maxAttempts = n + 1 := Nat.exists_eq_add_one.mpr g.attempts_pos
  have lt : n < g.plan.maxAttempts := by omega
  have now := undecided n lt
  rw [life_undecided payload lt fun k hk => undecided k (Nat.lt_trans hk lt),
    life_exhausted (unsettled_of_not_decides now) (unknown_of_not_decides now) (by simp [after, hn]), hn,
    List.replicate_succ', lastSeen, Stream'.head_drop]
  rfl

/-- How the first answer that decides ends a life, with the calls that are still made. -/
inductive Closes (g : Gateway) (key : ResourceKey) (payload : Payload) (answer : BackendResult (Option Resource))
    (seen later : Desk σ) : List Call → Outcome → Prop where
  | destroyed (s : LifecycleState) (shown : g.seen? key answer = some s)
      (terminal : Terminal (g.catalog.get? key.kind) s) : Closes g key payload answer seen later [] (.removed (some s))
  | vanished (absent : answer = .ok none) : Closes g key payload answer seen later [] (.removed none)
  | cameUp (s : LifecycleState) (shown : g.seen? key answer = some s)
      (moves : ¬ Terminal (g.catalog.get? key.kind) s) (settled : Settled (g.catalog.get? key.kind) s)
      (calls : List Call) (outcome : Outcome) (finishes : g.Finishes key payload s seen later calls outcome) :
      Closes g key payload answer seen later calls outcome

/-- A life that has lasted until some answer ends with it, if it decides. -/
theorem life_of_decides (payload : Payload) (decides : g.Decides key (answers key desks) n) :
    ∃ calls outcome, g.life (.polling (g.after key payload (answers key desks) n)) (desks.drop n) =
        ⟨.lookup key :: calls.map .call, outcome⟩ ∧
      g.Closes key payload ((answers key desks).get n) (g.observe key (desks.get n)).2 (desks.get (n + 1))
        calls outcome := by
  have now : (Fleet.find (desks.drop n).head.fleet key).1 = (answers key desks).get n := by
    rw [Stream'.head_drop]
    rfl
  rcases decides with ⟨s, shown, ends⟩ | ⟨absent, before⟩
  · have seen : g.seen? key (Fleet.find (desks.drop n).head.fleet key).1 = some s := now ▸ shown
    by_cases terminal : Terminal (g.catalog.get? key.kind) s
    · exact ⟨[], _, life_terminal (c := g.after key payload _ n) seen terminal, .destroyed s shown terminal⟩
    · have settled := ends.resolve_left terminal
      obtain ⟨calls, outcome, life, finishes⟩ :=
        life_settled (c := g.after key payload (answers key desks) n) seen terminal settled
      rw [Stream'.head_drop, Stream'.tail_drop', Stream'.head_drop] at finishes
      exact ⟨calls, outcome, life, .cameUp s shown terminal settled calls outcome finishes⟩
  · have known := lastSeen_isSome.mpr before
    exact ⟨[], _, life_vanished (c := g.after key payload _ n) (now.trans absent) known, .vanished absent⟩

/-- The first answer that decides closes a life. -/
theorem life_closes (payload : Payload) (more : n < g.plan.maxAttempts) (decides : g.Decides key (answers key desks) n)
    (undecided : ∀ k < n, ¬ g.Decides key (answers key desks) k) :
    ∃ calls, (g.life (.polling (.begin key payload)) desks).asked =
        List.replicate (n + 1) (.lookup key) ++ calls.map .call ∧
      g.Closes key payload ((answers key desks).get n) (g.observe key (desks.get n)).2 (desks.get (n + 1)) calls
        (g.life (.polling (.begin key payload)) desks).outcome := by
  have until_then := life_undecided payload more undecided
  obtain ⟨calls, outcome, rest, closes⟩ := life_of_decides payload decides
  rw [rest] at until_then
  refine ⟨calls, ?_, ?_⟩
  · rw [until_then, List.replicate_succ', List.append_assoc]
    rfl
  · rw [until_then]
    exact closes

end

end Gateway

/-! ## Lives in traffic -/

namespace Traffic

open Gateway

/-- What is left of a life after some desks, on which it has come to this phase. -/
def Lived (g : Gateway) (seen : List (Desk σ)) (phase : Phase φ) : Prop :=
  ∃ payload, ∀ rest : Stream' (Desk σ), ∃ asked,
    g.life (.polling (.begin phase.convergence.key payload)) (seen ++ₛ rest) = (g.life phase rest).prepend asked

theorem lived_begin (g : Gateway) (key : ResourceKey) (payload : Payload) :
    Lived (σ := σ) (φ := φ) g [] (.polling (.begin key payload)) := ⟨payload, fun _ => ⟨[], rfl⟩⟩

theorem Lived.step {g : Gateway} {seen : List (Desk σ)} {phase rest : Phase φ} {time : Duration} {desk later : Desk σ}
    (h : Lived g seen phase) (turn : g.advance phase desk = (.waiting rest time, later)) :
    Lived g (seen ++ [desk]) rest := by
  have same : rest.convergence.key = phase.convergence.key := by
    have leaves := g.leaves_advance phase desk
    rw [turn] at leaves
    exact leaves.1
  have recorded : (g.advance phase desk.recording).1 = .waiting rest time :=
    (g.advance_bare phase desk.recording).symm.trans (congrArg Prod.fst turn)
  obtain ⟨payload, lived⟩ := h
  refine ⟨payload, fun stream => ?_⟩
  obtain ⟨asked, upToNow⟩ := lived (.cons desk stream)
  have now : g.life phase (.cons desk stream) = _ := life_of_waiting (Prod.ext recorded rfl)
  rw [same, Stream'.append_append_stream]
  exact ⟨_, upToNow.trans ((congrArg _ now).trans (Life.prepend_prepend _ _ _))⟩

theorem Lived.outcome {g : Gateway} {seen : List (Desk σ)} {phase : Phase φ} {outcome : Outcome} {desk later : Desk σ}
    (h : Lived g seen phase) (turn : g.advance phase desk = (.done outcome, later)) :
    ∃ payload, ∀ rest : Stream' (Desk σ),
      (g.life (.polling (.begin phase.convergence.key payload)) (seen ++ [desk] ++ₛ rest)).outcome = outcome := by
  have recorded : (g.advance phase desk.recording).1 = .done outcome :=
    (g.advance_bare phase desk.recording).symm.trans (congrArg Prod.fst turn)
  obtain ⟨payload, lived⟩ := h
  refine ⟨payload, fun stream => ?_⟩
  obtain ⟨asked, upToNow⟩ := lived (.cons desk stream)
  have now : g.life phase (.cons desk stream) = _ := life_of_done (Prod.ext recorded rfl)
  rw [Stream'.append_append_stream]
  exact (congrArg Life.outcome upToNow).trans (congrArg Life.outcome now)

/-- Every convergence on its way has lived on some of the desks of its traffic. -/
theorem exists_lived (g : Gateway) (moves : List (Move σ)) (desk : Desk σ) :
    ∀ job ∈ (run g moves (begin desk : Traffic σ φ)).2.jobs, ∀ phase, job = .converging phase →
      ∃ seen, seen.Sublist (desks g moves (begin desk : Traffic σ φ)) ∧ Lived g seen phase := by
  induction moves using List.reverseRecOn with
  | nil => exact List.forall_mem_nil _
  | append_singleton moves move ih =>
    rw [run_concat, desks_append]
    refine forall_jobs_step ?_ ?_ ?_
    · intro job mem phase on
      obtain ⟨seen, sub, lived⟩ := ih job mem phase on
      exact ⟨seen, sub.trans (List.sublist_append_left _ _), lived⟩
    · rintro demand job next phase rfl
      have taken := g.accepted (φ := φ) demand (run g moves (begin desk : Traffic σ φ)).2.desk
      generalize (g.accept demand _ : Stretch σ φ) = s at taken next
      cases taken with
      | claimed key payload _ =>
        cases next
        exact ⟨[], List.nil_sublist _, lived_begin g key payload⟩
      | _ => cases next
    · rintro job mem _ next later phase rfl
      have gone := g.resumed job (run g moves (begin desk : Traffic σ φ)).2.desk
      generalize (g.resume job _ : Stretch σ φ) = s at gone later
      cases gone with
      | provisioned request flight =>
        obtain ⟨c, started, new⟩ := Option.map_eq_some_iff.mp later
        obtain ⟨id, rfl⟩ := started_finishCreate started
        cases new
        exact ⟨[], List.nil_sublist _, lived_begin g _ request.payload⟩
      | going before rest time desk' turn =>
        cases later
        obtain ⟨seen, sub, lived⟩ := ih _ mem before rfl
        exact ⟨_, sub.append_right _, lived.step turn⟩
      | _ => cases later

theorem exists_life_of_ended {g : Gateway} {moves : List (Move σ)} {desk : Desk σ} {key : ResourceKey}
    {outcome : Outcome} (h : .ended key outcome ∈ (run g moves (begin desk : Traffic σ φ)).1) :
    ∃ payload seen, seen.Sublist (desks g moves (begin desk : Traffic σ φ)) ∧
      ∀ rest : Stream' (Desk σ), (g.life (.polling (.begin key payload)) (seen ++ₛ rest)).outcome = outcome := by
  obtain ⟨earlier, move, sub, shown⟩ := exists_step_of_mem h
  obtain ⟨place, phase, later, _, at_place, rfl, turn⟩ := converging_of_ended shown
  obtain ⟨seen, sub', lived⟩ := exists_lived g earlier desk _ (List.mem_of_getElem? at_place) phase rfl
  obtain ⟨payload, lives⟩ := lived.outcome turn
  exact ⟨payload, _, (sub'.append_right _).trans sub.sublist, lives⟩

end Traffic

/-- **The outcome of a convergence.** Over any fleet, on whatever desks it is taken up, and whatever the lookups there
answer:

1. if some answer within the attempts decides, the convergence makes the lookups up to the first such answer and no
   more, and ends as that answer says: the resource is gone if it shows it in a terminal state or no longer shows it,
   and otherwise the rest depends on the step that finishes it alone;
2. if none decides, it makes as many lookups as there are attempts, and ends with the last state that they have shown;
3. every convergence that comes to its end in some traffic has had such a life on some of the desks there. -/
theorem Gateway.life_decided (g : Gateway) (key : ResourceKey) (payload : Payload) (desks : Stream' (Desk σ)) :
    let answered := answers key desks
    let life := g.life (.polling (.begin key payload)) desks
    (∀ n < g.plan.maxAttempts, g.Decides key answered n → (∀ k < n, ¬ g.Decides key answered k) →
      ∃ calls, life.asked = List.replicate (n + 1) (.lookup key) ++ calls.map .call ∧
        g.Closes key payload (answered.get n) (g.observe key (desks.get n)).2 (desks.get (n + 1)) calls
          life.outcome) ∧
    ((∀ n < g.plan.maxAttempts, ¬ g.Decides key answered n) →
      life = ⟨List.replicate g.plan.maxAttempts (.lookup key),
        .exhausted g.plan.maxAttempts (g.lastSeen key answered g.plan.maxAttempts)⟩) ∧
    (∀ moves (desk : Desk σ) outcome, .ended key outcome ∈ (Traffic.run g moves (.begin desk)).1 →
      ∃ payload seen, seen.Sublist (Traffic.desks g moves (.begin desk)) ∧
        ∀ rest : Stream' (Desk σ),
          (g.life (.polling (.begin key payload)) (seen ++ₛ rest)).outcome = outcome) := by
  intro answered life
  refine ⟨?_, life_of_not_decides payload, fun moves desk outcome => Traffic.exists_life_of_ended⟩
  intro n more decides undecided
  exact life_closes payload more decides undecided

end CloudLifecycle
