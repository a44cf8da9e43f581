import CloudLifecycle.Backend.Park
import CloudLifecycle.Proofs.Gateway.Recorded
import CloudLifecycle.Proofs.Gateway.Standing
import Mathlib.Data.List.Induction

/-!
# Owners of guards

Who is behind a guard? Two answers, both read off the standing of a resource.

1. A guard is never orphaned (`guards_accounted`). Over a registry that starts empty, a resource under guard has a
   convergence on its way, whatever order the moves come in and whatever ids the backends make up. A guard without
   one is a failure, left by the last convergence of that resource to end, and nothing has happened to it since.
2. The owner of a guard is the only one exactly as long as no backend makes up an id of which a convergence is still
   on its way (`single_owner_iff`). A convergence in the foreground is refused where it would be the second one;
   a new resource is not, whatever the guard said when it was put up (`two_owners`).

The first invariant is `Standing.Owned`, the second `Standing.Single`. A convergence that is refused makes no lookup
and leaves the guards as they are.
-/

namespace CloudLifecycle

variable {σ φ : Type}

theorem Traffic.inFlight_pos {t : Traffic σ φ} {key : ResourceKey} :
    1 ≤ t.inFlight key ↔ ∃ phase, .converging phase ∈ t.jobs ∧ phase.convergence.key = key := by
  unfold inFlight
  rw [Nat.one_le_iff_ne_zero, ← Nat.pos_iff_ne_zero, List.countP_pos_iff]
  constructor
  · rintro ⟨job, mem, on⟩
    cases job with
    | converging phase => exact ⟨phase, mem, by simpa [Job.isOn] using on⟩
    | looking _ _ | acting _ _ | creating _ _ | asking _ | listing _ => simp [Job.isOn] at on
  · rintro ⟨phase, mem, rfl⟩
    exact ⟨_, mem, by simp [Job.isOn]⟩

theorem Outcome.leftover_eq_failed {outcome : Outcome} {reason : String} :
    outcome.leftover = some (.failed reason) ↔
      outcome = .postCreateFailed reason ∨
        ∃ attempts lastSeen, outcome = .exhausted attempts lastSeen ∧
          reason = exhaustionReason attempts lastSeen := by
  cases outcome <;> simp [leftover, eq_comm]

namespace Standing

variable {key : ResourceKey} {s s' : Standing} {events : List Event}

/-! ## No guard without an owner -/

/-- A resource under guard has a convergence on its way. -/
def Owned (s : Standing) : Prop := s.entry = some .converging → 1 ≤ s.inFlight

theorem Owned.step {event : Option Event} (h : s.Owned) (hs : Step key s event s') : s'.Owned := by
  unfold Owned at h ⊢
  cases hs with
  | quiet _ _ _ => exact h
  | provisioned _ _ _ _ | claimed _ _ =>
    intro _
    show 1 ≤ s.inFlight + 1
    omega
  | ended entry n outcome =>
    intro hl
    cases outcome <;> simp [Outcome.leftover] at hl
  | forgotten reason n => exact nofun

theorem Owned.run (h : s.Owned) (hr : Run key s events s') : s'.Owned := by
  induction hr with
  | nil _ => exact h
  | cons hs _ ih => exact ih (h.step hs)

/-- The last that the events show of a resource is that a convergence of it ended in a failure, for that reason. -/
def FailedLast (key : ResourceKey) (reason : String) (events : List Event) : Prop :=
  ∃ before outcome after, events = before ++ .ended key outcome :: after ∧
    (outcome = .postCreateFailed reason ∨
      ∃ attempts lastSeen, outcome = .exhausted attempts lastSeen ∧ reason = exhaustionReason attempts lastSeen) ∧
    ∀ event ∈ after, event.subject? ≠ some key

/-- A failure was there from the beginning, and then nothing has happened to the resource, or the last convergence
to end has left it. -/
theorem Run.failedLast (hr : Run key s events s') {reason : String} (h : s'.entry = some (.failed reason)) :
    s.entry = some (.failed reason) ∧ (∀ event ∈ events, event.subject? ≠ some key) ∨
      FailedLast key reason events := by
  induction hr with
  | nil s => exact .inl ⟨h, List.forall_mem_nil _⟩
  | @cons s s₁ s' event events hs rest ih =>
    rcases ih h with ⟨failed, untouched⟩ | ⟨before, outcome, after, rfl, ho, ha⟩
    · cases hs with
      | quiet _ _ unconcerned =>
        exact .inl ⟨failed, List.forall_mem_cons.mpr ⟨unconcerned, untouched⟩⟩
      | provisioned _ _ _ _ | claimed _ _ => cases failed
      | ended entry n outcome =>
        exact .inr ⟨[], outcome, events, rfl, Outcome.leftover_eq_failed.mp failed, untouched⟩
      | forgotten reason' n => cases failed
    · exact .inr ⟨event :: before, outcome, after, rfl, ho, ha⟩

/-! ## No second owner -/

/-- At most one convergence of the resource is on its way, and the resource is under guard if there is one. -/
def Single (s : Standing) : Prop := s.inFlight ≤ 1 ∧ (s.inFlight = 1 → s.entry = some .converging)

theorem Single.step {event : Option Event} (h : s.Single) (hs : Step key s event s')
    (fresh : ∀ request provisioning, event = some (.provisioned request provisioning) →
      provisioning.made? request = some key → s.inFlight = 0) : s'.Single := by
  obtain ⟨atMost, guarded⟩ := h
  cases hs with
  | quiet _ _ _ => exact ⟨atMost, guarded⟩
  | provisioned _ request provisioning made =>
    have none_yet := fresh request provisioning rfl made
    exact ⟨by simp [none_yet], fun _ => rfl⟩
  | claimed _ free =>
    have none_yet : s.inFlight = 0 := by
      by_contra some_yet
      exact free (guarded (by omega))
    exact ⟨by simp [none_yet], fun _ => rfl⟩
  | ended entry n outcome =>
    have last : n = 0 := by
      have : n + 1 ≤ 1 := atMost
      omega
    subst last
    exact ⟨by simp, by simp⟩
  | forgotten reason n =>
    have idle : n ≠ 1 := fun one => nomatch guarded one
    exact ⟨atMost, fun one => absurd one idle⟩

end Standing

namespace Traffic

variable [Fleet σ φ]

/-- **No orphaned guard.** Over a registry that starts empty, every resource under guard has a convergence on its way,
after whatever moves. A failure was left by the last convergence of its resource to end, for the reason that it gives,
and nothing has happened to the resource since. So once no convergence is on its way, only failures are left. -/
theorem guards_accounted (g : Gateway) (fleet : σ) (moves : List (Move σ)) (key : ResourceKey) :
    let started : Traffic σ φ := begin ⟨.empty, fleet⟩
    let t := (run g moves started).2
    (t.desk.guards.get? key = some .converging →
      ∃ phase, .converging phase ∈ t.jobs ∧ phase.convergence.key = key) ∧
    (∀ reason, t.desk.guards.get? key = some (.failed reason) →
      Standing.FailedLast key reason (run g moves started).1) ∧
    ((∀ phase, .converging phase ∉ t.jobs) → ∀ entry, t.desk.guards.get? key = some entry →
      ∃ reason, entry = .failed reason ∧ Standing.FailedLast key reason (run g moves started).1) := by
  intro started t
  have hr : Standing.Run key ⟨none, 0⟩ (run g moves started).1 (t.standing key) := run_standing g moves started key
  have owned : t.desk.guards.get? key = some .converging →
      ∃ phase, .converging phase ∈ t.jobs ∧ phase.convergence.key = key := by
    have ho : Standing.Owned ⟨none, 0⟩ := nofun
    exact fun h => inFlight_pos.mp (ho.run hr h)
  have failed : ∀ reason, t.desk.guards.get? key = some (.failed reason) →
      Standing.FailedLast key reason (run g moves started).1 := by
    intro reason h
    rcases hr.failedLast h with ⟨absent, _⟩ | last
    · cases absent
    · exact last
  refine ⟨owned, failed, ?_⟩
  intro settled entry h
  cases entry with
  | converging =>
    obtain ⟨phase, mem, _⟩ := owned h
    exact absurd mem (settled phase)
  | failed reason => exact ⟨reason, rfl, failed reason h⟩

/-- No backend answers a request for a new resource with the id of one of which a convergence is on its way. -/
def Fresh (g : Gateway) (moves : List (Move σ)) (t : Traffic σ φ) : Prop :=
  ∀ earlier move, earlier ++ [move] <+: moves → ∀ request provisioning key,
    (step g move (run g earlier t).2).1 = some (.provisioned request provisioning) →
      provisioning.made? request = some key → (run g earlier t).2.inFlight key = 0

theorem Fresh.of_prefix {g : Gateway} {moves moves' : List (Move σ)} {t : Traffic σ φ} (h : Fresh g moves t)
    (hp : moves' <+: moves) : Fresh g moves' t :=
  fun earlier move he => h earlier move (he.trans hp)

theorem fresh_nil (g : Gateway) (t : Traffic σ φ) : Fresh g [] t := by
  intro earlier move hp
  simp at hp

/-- Whether a schedule is fresh can be checked move by move. -/
theorem fresh_cons {g : Gateway} {move : Move σ} {moves : List (Move σ)} {t : Traffic σ φ} :
    Fresh g (move :: moves) t ↔
      (∀ request provisioning key, (step g move t).1 = some (.provisioned request provisioning) →
        provisioning.made? request = some key → t.inFlight key = 0) ∧
      Fresh g moves (step g move t).2 := by
  constructor
  · intro h
    refine ⟨h [] move (List.prefix_append [move] moves), ?_⟩
    intro earlier move' hp
    exact h (move :: earlier) move' (List.cons_prefix_cons.mpr ⟨rfl, hp⟩)
  · rintro ⟨now, later⟩ earlier move' hp
    rcases earlier with _ | ⟨first, earlier⟩
    · obtain ⟨rfl, _⟩ := List.cons_prefix_cons.mp hp
      exact now
    · obtain ⟨rfl, hp'⟩ := List.cons_prefix_cons.mp hp
      exact later earlier move' hp'

/-- Whether a move brings no resource of which a convergence is on its way. -/
def bringsFresh (g : Gateway) (move : Move σ) (t : Traffic σ φ) : Bool :=
  match (step g move t).1 with
  | some (.provisioned request provisioning) => (provisioning.made? request).all fun key => t.inFlight key = 0
  | _ => true

theorem bringsFresh_iff {g : Gateway} {move : Move σ} {t : Traffic σ φ} :
    bringsFresh g move t = true ↔ ∀ request provisioning key,
      (step g move t).1 = some (.provisioned request provisioning) → provisioning.made? request = some key →
        t.inFlight key = 0 := by
  unfold bringsFresh
  split
  · next request provisioning brought =>
    rw [brought]
    constructor
    · rintro fresh _ _ key ⟨⟩ made
      rw [made] at fresh
      exact of_decide_eq_true fresh
    · intro fresh
      cases made : provisioning.made? request with
      | none => rfl
      | some key => exact decide_eq_true (fresh request provisioning key rfl made)
  · next other => exact ⟨fun _ request provisioning _ brought => absurd brought (other request provisioning), fun _ => rfl⟩

instance Fresh.decidable (g : Gateway) : (moves : List (Move σ)) → (t : Traffic σ φ) → Decidable (Fresh g moves t)
  | [], t => isTrue (fresh_nil g t)
  | move :: moves, t =>
    have : Decidable (Fresh g moves (step g move t).2) := Fresh.decidable g moves _
    decidable_of_iff (bringsFresh g move t = true ∧ Fresh g moves (step g move t).2)
      ((and_congr_left' bringsFresh_iff).trans fresh_cons.symm)

theorem single_of_fresh {g : Gateway} {moves : List (Move σ)} {desk : Desk σ}
    (h : Fresh g moves (begin desk : Traffic σ φ)) (key : ResourceKey) :
    ((run g moves (begin desk : Traffic σ φ)).2.standing key).Single := by
  induction moves using List.reverseRecOn with
  | nil => exact ⟨Nat.zero_le 1, nofun⟩
  | append_singleton moves move ih =>
    have before := ih (h.of_prefix (List.prefix_append moves [move]))
    have hs := step_standing g move (run g moves (begin desk : Traffic σ φ)).2 key
    rw [run_concat]
    exact before.step hs fun request provisioning he made =>
      h moves move (List.prefix_refl _) request provisioning key he made

/-- A convergence of a resource under guard is refused: nothing is asked of the fleet, and nothing changes. -/
theorem converge_refused {g : Gateway} {t : Traffic σ φ} {key : ResourceKey}
    (h : t.desk.guards.get? key = some .converging) (payload : Payload) :
    step g (.demand (.converge key payload)) t = (some (.refused key), t) ∧
      g.converge key payload t.desk = (.done .alreadyConverging, t.desk) := by
  have hc := Gateway.claim_of_converging h payload
  constructor
  · simp [step, Gateway.accept, hc]
  · simp [Gateway.converge, hc]

/-- **The owner of a guard.** Over any registry, at most one convergence of each resource is ever on its way if and
only if the schedule is fresh. Then a convergence in the foreground that would be the second is refused: it makes no
lookup, and the desk stays as it is. A request for a new resource that is answered with the id of one on its way
leaves all guards as they are as well, but it makes two of them. -/
theorem single_owner_iff (g : Gateway) (desk : Desk σ) (moves : List (Move σ)) :
    let started : Traffic σ φ := begin desk
    let t := (run g moves started).2
    (Fresh g moves started ↔ ∀ earlier, earlier <+: moves → ∀ key, (run g earlier started).2.inFlight key ≤ 1) ∧
    (Fresh g moves started → ∀ key, t.inFlight key = 1 →
      (∀ payload, step g (.demand (.converge key payload)) t = (some (.refused key), t) ∧
        g.converge key payload t.desk = (.done .alreadyConverging, t.desk)) ∧
      ∀ move request provisioning, (step g move t).1 = some (.provisioned request provisioning) →
        provisioning.made? request = some key →
          (step g move t).2.inFlight key = 2 ∧
            ∀ k, (step g move t).2.desk.guards.get? k = t.desk.guards.get? k) := by
  intro started t
  refine ⟨⟨?_, ?_⟩, ?_⟩
  · intro fresh earlier hp key
    exact (single_of_fresh (fresh.of_prefix hp) key).1
  · intro atMost earlier move hp request provisioning key he made
    have after : (step g move (run g earlier started).2).2.inFlight key ≤ 1 := by
      have := atMost _ hp key
      rwa [run_concat] at this
    have hs := step_standing g move (run g earlier started).2 key
    rw [he] at hs
    have one_more : (step g move (run g earlier started).2).2.inFlight key =
        (run g earlier started).2.inFlight key + 1 := congrArg Standing.inFlight (hs.of_begun made)
    omega
  · intro fresh key one
    have guarded := (single_of_fresh fresh key).2 one
    refine ⟨converge_refused guarded, ?_⟩
    intro move request provisioning he made
    have hs : ∀ k, Standing.Step k (t.standing k) (some (.provisioned request provisioning))
        ((step g move t).2.standing k) := fun k => he ▸ step_standing g move t k
    have one_more : (step g move t).2.inFlight key = t.inFlight key + 1 :=
      congrArg Standing.inFlight ((hs key).of_begun made)
    refine ⟨by omega, fun k => ?_⟩
    by_cases hk : key = k
    · subst hk
      have under_guard : (step g move t).2.desk.guards.get? key = some .converging :=
        congrArg Standing.entry ((hs key).of_begun made)
      exact under_guard.trans guarded.symm
    · have other : (Option.bind (some (Event.provisioned request provisioning)) Event.subject?) ≠ some k := by
        show provisioning.made? request ≠ some k
        rw [made]
        exact fun same => hk (Option.some.inj same)
      exact congrArg Standing.entry ((hs k).of_unconcerned other)

end Traffic

/-! ## Two owners -/

namespace Stubborn

/-- A backend that gives every new server the same id. -/
def backend : ScriptedBackend :=
  { ScriptedBackend.new "b" "B" .empty with
    capabilities := CapabilitySet.empty.insert (Operation.create .server).name
    replies := Std.ExtTreeMap.empty.insert (Operation.create .server).name [⟨.status "pending" (some "x"), .zero⟩] }

/-- A park of that backend alone. -/
def park : Park := Park.routing ⟨⟨Std.ExtTreeMap.empty.insert "b" (.scripted backend)⟩, .empty, ⟨0, 0⟩⟩ ["b"]

/-- The server that the backend has to offer. -/
def server : ResourceKey := ⟨"b", .server, "x"⟩

/-- A gateway without machines. -/
def gateway : Gateway :=
  ⟨.empty, .empty, Gateway.standardTimeout, .standard, Gateway.standardTimeout_pos, PollingPlan.maxAttempts_standard_pos⟩

/-- A new server is asked for and made, and then another one. -/
def moves : List (Move (Recorded Park)) :=
  [.demand (.create ⟨"b", .server, .none, .null⟩), .resume 0,
    .demand (.create ⟨"b", .server, .none, .null⟩), .resume 1]

/-- A gateway before that park, over a registry that is empty. -/
def start : Traffic (Recorded Park) Flight := .begin ⟨.empty, park, []⟩

/-- Two convergences of one resource are on their way, and each goes on to look it up. -/
theorem two_owners :
    (Traffic.run gateway moves start).2.inFlight server = 2 ∧
      (Traffic.run gateway (moves ++ [.resume 0, .resume 1]) start).2.desk.fleet.record.filterMap Ask.key? =
        [server, server] := by
  decide

end Stubborn

end CloudLifecycle
