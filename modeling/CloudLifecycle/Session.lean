import CloudLifecycle.Gateway.Converge
import CloudLifecycle.Gateway.Create
import CloudLifecycle.Gateway.Read

/-!
# Sessions

A gateway in time. One caller works through requests in the foreground while the convergences that they start run
in the background. The clock stands still as long as anyone can go on, and then moves to the next moment at which
someone can: so a session needs no real time, and comes out the same whenever it is run.

Two rules decide who goes on when several can. Convergences that are due at one moment go on in the order in which
they were started; and the caller, when a wait of its own ends, goes before those that are due at that very
moment.

A session comes to an end because every round of the background leaves it less to do (`rank_round`).
-/

namespace CloudLifecycle

variable {σ φ : Type}

/-- A convergence in the background. -/
structure Background (φ : Type) where
  /-- The number under which its outcome can be asked for. -/
  handle : Nat
  phase : Phase φ
  /-- The moment at which it can go on, counted from the start of the session. -/
  due : Duration

/-- The state of a session. -/
structure Session (σ φ : Type) where
  /-- The time since the session began. -/
  now : Duration
  desk : Desk σ
  /-- The convergences in the background, in the order in which they were started. -/
  background : List (Background φ)
  /-- The outcomes that nobody has asked for yet. -/
  outcomes : Std.ExtTreeMap Nat Outcome
  /-- The handle of the next convergence. -/
  nextHandle : Nat

namespace Session

/-- A session that has not begun. -/
def begin (desk : Desk σ) : Session σ φ := ⟨.zero, desk, [], ∅, 0⟩

/-- The first moment at which a convergence can go on. -/
def nextDue? (s : Session σ φ) : Option Duration :=
  s.background.foldl
    (fun first t =>
      match first with
      | none => some t.due
      | some d => if t.due < d then some t.due else some d)
    none

/-- A moment that is the next is one at which some convergence can go on. -/
theorem exists_of_nextDue? (s : Session σ φ) (d : Duration) (h : s.nextDue? = some d) :
    ∃ t ∈ s.background, t.due = d := by
  have general : ∀ (tasks : List (Background φ)) (first : Option Duration),
      tasks.foldl
        (fun first t =>
          match first with
          | none => some t.due
          | some d => if t.due < d then some t.due else some d)
        first = some d →
      first = some d ∨ ∃ t ∈ tasks, t.due = d := by
    intro tasks
    induction tasks with
    | nil => intro first h; exact .inl h
    | cons task tasks ih =>
      intro first h
      rw [List.foldl_cons] at h
      rcases ih _ h with hd | ⟨t, ht, hd⟩
      · cases first with
        | none => exact .inr ⟨task, List.mem_cons_self, by simpa using hd⟩
        | some e =>
          simp only at hd
          split at hd
          · exact .inr ⟨task, List.mem_cons_self, by simpa using hd⟩
          · exact .inl hd
      · exact .inr ⟨t, List.mem_cons_of_mem _ ht, hd⟩
  rcases general s.background none h with h | h
  · cases h
  · exact h

/-- The session with the clock moved on to the moment `d`; the clock never goes back. -/
def moveTo (s : Session σ φ) (d : Duration) : Session σ φ :=
  if s.now < d then { s with now := d } else s

variable [Fleet σ φ]

/-! ## The background -/

/-- Takes a convergence up until it ends or waits for a later moment. -/
def turn (g : Gateway) (phase : Phase φ) (desk : Desk σ) : Progress (Phase φ) Outcome × Desk σ :=
  match _h : g.advance phase desk with
  | (.done outcome, desk) => (.done outcome, desk)
  | (.waiting rest time, desk) =>
    if time.nanos = 0 then turn g rest desk else (.waiting rest time, desk)
termination_by g.rank phase
decreasing_by exact g.rank_advance phase _ rest time (by rw [_h])

/-- What is left of a convergence after a turn is less than before. -/
theorem rank_turn (g : Gateway) (phase : Phase φ) (desk : Desk σ) (rest : Phase φ) (time : Duration)
    (h : (turn g phase desk).1 = .waiting rest time) : g.rank rest < g.rank phase := by
  fun_induction turn g phase desk with
  | case1 => simp at h
  | case2 phase desk rest' time' desk' hadv hzero ih =>
    exact Nat.lt_trans (ih h) (g.rank_advance phase desk rest' time' (by rw [hadv]))
  | case3 phase desk rest' time' desk' hadv hpos =>
    simp only [Progress.waiting.injEq] at h
    exact g.rank_advance phase desk rest time (by rw [hadv, h.1, h.2])

/-- What a round leaves of the background. -/
structure Round (σ φ : Type) where
  background : List (Background φ)
  ended : List (Nat × Outcome)
  desk : Desk σ

/-- Gives a turn to each convergence that can go on at the moment `now`. -/
def runDue (g : Gateway) (now : Duration) : List (Background φ) → Desk σ → Round σ φ
  | [], desk => ⟨[], [], desk⟩
  | task :: tasks, desk =>
    if task.due ≤ now then
      match turn g task.phase desk with
      | (.done outcome, desk) =>
        let round := runDue g now tasks desk
        { round with ended := (task.handle, outcome) :: round.ended }
      | (.waiting phase time, desk) =>
        let round := runDue g now tasks desk
        { round with background := ⟨task.handle, phase, now + time⟩ :: round.background }
    else
      let round := runDue g now tasks desk
      { round with background := task :: round.background }

/-- The number of steps that the background may still take. -/
def rankOf (g : Gateway) : List (Background φ) → Nat
  | [] => 0
  | task :: tasks => g.rank task.phase + rankOf g tasks

theorem rank_runDue_le (g : Gateway) (now : Duration) (tasks : List (Background φ)) (desk : Desk σ) :
    rankOf g (runDue g now tasks desk).background ≤ rankOf g tasks := by
  induction tasks generalizing desk with
  | nil => simp [runDue]
  | cons task tasks ih =>
    simp only [runDue]
    split
    · split
      · next outcome desk' h =>
        have := ih desk'
        simp only [rankOf] at this ⊢
        omega
      · next phase time desk' h =>
        have := ih desk'
        have := rank_turn g task.phase desk phase time (by rw [h])
        simp only [rankOf] at *
        omega
    · have := ih desk
      simp only [rankOf] at *
      omega

/-- A round in which some convergence can go on leaves less to do. -/
theorem rank_runDue_lt (g : Gateway) (now : Duration) (tasks : List (Background φ)) (desk : Desk σ)
    (h : ∃ t ∈ tasks, t.due ≤ now) : rankOf g (runDue g now tasks desk).background < rankOf g tasks := by
  induction tasks generalizing desk with
  | nil => simp at h
  | cons task tasks ih =>
    simp only [runDue]
    split
    · split
      · next outcome desk' ht =>
        have := rank_runDue_le g now tasks desk'
        have := g.rank_pos task.phase
        simp only [rankOf] at *
        omega
      · next phase time desk' ht =>
        have := rank_runDue_le g now tasks desk'
        have := rank_turn g task.phase desk phase time (by rw [ht])
        simp only [rankOf] at *
        omega
    · next hdue =>
      have hrest : ∃ t ∈ tasks, t.due ≤ now := by
        obtain ⟨t, ht, hle⟩ := h
        rcases List.mem_cons.1 ht with rfl | ht
        · exact absurd hle hdue
        · exact ⟨t, ht, hle⟩
      have := ih desk hrest
      simp only [rankOf] at *
      omega

/-- Gives a turn to every convergence that can go on now. -/
def round (g : Gateway) (s : Session σ φ) : Session σ φ :=
  let r := runDue g s.now s.background s.desk
  { s with
    desk := r.desk
    background := r.background
    outcomes := r.ended.foldl (fun outcomes e => outcomes.insert e.1 e.2) s.outcomes }

/-- The number of steps that the background of a session may still take. -/
def rank (g : Gateway) (s : Session σ φ) : Nat := rankOf g s.background

/-- A round at the next moment at which some convergence can go on leaves less to do. -/
theorem rank_round (g : Gateway) (s : Session σ φ) (d : Duration) (h : s.nextDue? = some d) :
    rank g (round g (s.moveTo d)) < rank g s := by
  obtain ⟨t, ht, rfl⟩ := s.exists_of_nextDue? d h
  have hb : (s.moveTo t.due).background = s.background := by
    unfold moveTo
    split <;> rfl
  have hn : t.due ≤ (s.moveTo t.due).now := by
    unfold moveTo
    split
    · exact Nat.le_refl _
    · next hlt => exact Nat.le_of_not_lt hlt
  have := rank_runDue_lt g (s.moveTo t.due).now (s.moveTo t.due).background (s.moveTo t.due).desk
    ⟨t, hb ▸ ht, hn⟩
  rw [hb] at this
  simpa only [rank, round, hb] using this

/-- Lets time pass up to the moment `target`. All that is due before it goes on; what is due then does not yet. -/
def passTo (g : Gateway) (target : Duration) (s : Session σ φ) : Session σ φ :=
  match _h : s.nextDue? with
  | some due => if due < target then passTo g target (round g (s.moveTo due)) else s.moveTo target
  | none => s.moveTo target
termination_by rank g s
decreasing_by exact rank_round g s due _h

/-- Lets some time pass. -/
def pass (g : Gateway) (time : Duration) (s : Session σ φ) : Session σ φ := passTo g (s.now + time) s

/-- Waits in the foreground; what is due when the wait ends goes on as well. -/
def wait (g : Gateway) (time : Duration) (s : Session σ φ) : Session σ φ := round g (pass g time s)

/-- Works on the desk without any time passing. -/
def atDesk {α : Type} (f : Desk σ → α × Desk σ) (s : Session σ φ) : α × Session σ φ :=
  let (a, desk) := f s.desk
  (a, { s with desk := desk })

/-! ## Requests -/

/-- Runs an action on a resource. -/
def dispatch (g : Gateway) (request : ActionRequest) (s : Session σ φ) : ActionResult × Session σ φ :=
  match atDesk (g.dispatch request) s with
  | (.done result, s) => (result, s)
  | (.waiting flight time, s) => atDesk (g.finishAction request flight) (pass g time s)

/-- Starts a convergence in the background. It can go on at once, and has a handle. -/
def start (c : Convergence) (s : Session σ φ) : Nat × Session σ φ :=
  (s.nextHandle,
    { s with
      background := s.background ++ [⟨s.nextHandle, .polling c, s.now⟩]
      nextHandle := s.nextHandle + 1 })

/-- Starts the convergence of a new resource, if there is one. -/
def provision (p : Provisioning) (s : Session σ φ) : (ActionResult × Option Nat) × Session σ φ :=
  match p.started with
  | some c =>
    let (handle, s) := start c s
    ((p.result, some handle), s)
  | none => ((p.result, none), s)

/-- Makes a new resource. The handle is that of its convergence. -/
def create (g : Gateway) (request : CreateRequest) (s : Session σ φ) :
    (ActionResult × Option Nat) × Session σ φ :=
  match atDesk (g.create request) s with
  | (.done p, s) => provision p s
  | (.waiting flight time, s) =>
    let (p, s) := atDesk (g.finishCreate request flight) (pass g time s)
    provision p s

/-- Takes a convergence through to its end in the foreground. -/
def drive (g : Gateway) (phase : Phase φ) (s : Session σ φ) : Outcome × Session σ φ :=
  match _h : g.advance phase s.desk with
  | (.done outcome, desk) => (outcome, { s with desk := desk })
  | (.waiting rest time, desk) => drive g rest (pass g time { s with desk := desk })
termination_by g.rank phase
decreasing_by exact g.rank_advance phase _ rest time (by rw [_h])

/-- Brings a resource up in the foreground. -/
def converge (g : Gateway) (key : ResourceKey) (payload : Payload) (s : Session σ φ) : Outcome × Session σ φ :=
  match atDesk (g.converge key payload) s with
  | (.done outcome, s) => (outcome, s)
  | (.waiting phase time, s) => drive g phase (pass g time s)

/-- Calls a backend and waits for its answer however long it takes. -/
def call (g : Gateway) (c : Call) (s : Session σ φ) : BackendResult Receipt × Session σ φ :=
  let ((time, flight), fleet) := Fleet.launch s.desk.fleet c
  let s := pass g time { s with desk := { s.desk with fleet := fleet } }
  let (answer, fleet) := Fleet.land s.desk.fleet flight
  (answer, { s with desk := { s.desk with fleet := fleet } })

/-! ## Outcomes -/

/-- Whether a convergence has ended. Nothing is said of one whose outcome has been asked for. -/
def finished? (handle : Nat) (s : Session σ φ) : Option Bool :=
  if s.outcomes.contains handle then some true
  else if s.background.any (·.handle = handle) then some false
  else none

/-- Lets time pass until the convergence has ended, with those that go on at the same moment. -/
def runUntil (g : Gateway) (handle : Nat) (s : Session σ φ) : Session σ φ :=
  if s.outcomes.contains handle then s
  else
    match _h : s.nextDue? with
    | some due => runUntil g handle (round g (s.moveTo due))
    | none => s
termination_by rank g s
decreasing_by exact rank_round g s due _h

/-- Waits for the outcome of a convergence. It can be asked for once. -/
def await (g : Gateway) (handle : Nat) (s : Session σ φ) : Option Outcome × Session σ φ :=
  match s.finished? handle with
  | none => (none, s)
  | some _ =>
    let s := runUntil g handle s
    (s.outcomes[handle]?, { s with outcomes := s.outcomes.erase handle })

end Session

end CloudLifecycle
