import CloudLifecycle.Proofs.Gateway.Foreground

/-!
# Sessions without company

A session in which at most one convergence is in the background, and the caller does nothing but wait for it, goes by what
the desk is like, whatever the clock says.

1. With nothing in the background, time passes without anything happening, and a request is dealt with as if it took no time
   (`pass_of_quiet`, `dispatch_of_quiet`, `create_of_quiet`).
2. A convergence that has the background for itself is taken through to its end as it would be in the foreground with nobody
   else at work, even where it waits for no time at all and takes several of its turns at one moment (`await_of_lonely`).
-/

namespace CloudLifecycle

variable {σ φ : Type} [Fleet σ φ]

namespace Gateway

/-- A convergence that is taken through to its end with nobody else at work: its outcome, and the desk as it leaves it. -/
def undisturbed (g : Gateway) (phase : Phase φ) (desk : Desk σ) : Outcome × Desk σ :=
  let passage := g.carry phase (Stream'.const id) desk
  (passage.life.outcome, passage.desk)

section

variable {g : Gateway} {phase rest : Phase φ} {desk later : Desk σ} {outcome : Outcome} {time : Duration}

theorem undisturbed_of_done (turn : g.advance phase desk = (.done outcome, later)) :
    g.undisturbed phase desk = (outcome, later) := by
  obtain ⟨recorded, whole, rfl⟩ := recording_of_advance turn
  simp only [undisturbed, carry_of_done whole]

theorem undisturbed_of_waiting (turn : g.advance phase desk = (.waiting rest time, later)) :
    g.undisturbed phase desk = g.undisturbed rest later := by
  obtain ⟨recorded, whole, rfl⟩ := recording_of_advance turn
  simp only [undisturbed, carry_of_waiting whole]
  rfl

end

end Gateway

namespace Session

/-- Several turns at one moment are turns all the same. -/
theorem undisturbed_turn (g : Gateway) (phase : Phase φ) (desk : Desk σ) :
    g.undisturbed phase desk =
      match turn g phase desk with
      | (.done outcome, later) => (outcome, later)
      | (.waiting rest _, later) => g.undisturbed rest later := by
  fun_induction turn g phase desk with
  | case1 phase desk outcome later step => exact Gateway.undisturbed_of_done step
  | case2 phase desk rest time later step _ ih => rw [Gateway.undisturbed_of_waiting step, ih]
  | case3 phase desk rest time later step _ => exact Gateway.undisturbed_of_waiting step

/-! ## Nothing in the background -/

section

variable {g : Gateway} {s : Session σ φ}

omit [Fleet σ φ] in
theorem exists_moveTo (s : Session σ φ) (d : Duration) : ∃ now, s.moveTo d = { s with now := now } := by
  unfold moveTo
  split
  · exact ⟨d, rfl⟩
  · exact ⟨s.now, rfl⟩

/-- Where nothing is in the background, only the clock moves. -/
theorem pass_of_quiet (g : Gateway) (time : Duration) (quiet : s.background = []) :
    ∃ now, pass g time s = { s with now := now } := by
  have idle : s.nextDue? = none := by rw [nextDue?, quiet]; rfl
  rw [pass, passTo]
  split
  · next due => rw [idle] at due; cases due
  · exact s.exists_moveTo _

theorem round_of_quiet (g : Gateway) (quiet : s.background = []) : round g s = s := by
  obtain ⟨now, desk, background, outcomes, nextHandle⟩ := s
  cases quiet
  rfl

theorem wait_of_quiet (g : Gateway) (time : Duration) (quiet : s.background = []) :
    ∃ now, wait g time s = { s with now := now } := by
  obtain ⟨now, waited⟩ := pass_of_quiet g time quiet
  refine ⟨now, ?_⟩
  rw [wait, waited]
  exact round_of_quiet g quiet

/-- A request that reaches its backend is ended on the desk on which its call was sent off. -/
theorem dispatch_of_quiet {request : ActionRequest} {flight : Option φ} {time : Duration} {sent : Desk σ}
    (quiet : s.background = []) (goes : g.dispatch request s.desk = (.waiting flight time, sent)) :
    ∃ s', dispatch g request s = ((g.finishAction request flight sent).1, s') ∧ s'.background = [] ∧
      s'.desk = (g.finishAction request flight sent).2 := by
  obtain ⟨now, waited⟩ := pass_of_quiet (s := { s with desk := sent }) g time quiet
  refine ⟨{ s with now := now, desk := (g.finishAction request flight sent).2 }, ?_, quiet, rfl⟩
  simp only [dispatch, atDesk, goes, waited]

/-- A resource that is made has its convergence in the background, and nothing else is there. -/
theorem create_of_quiet {request : CreateRequest} {flight : Option φ} {time : Duration} {sent made : Desk σ}
    {result : ActionResult} {c : Convergence} (quiet : s.background = [])
    (goes : g.create request s.desk = (.waiting flight time, sent))
    (comes : g.finishCreate request flight sent = (⟨result, some c⟩, made)) :
    ∃ s' due, create g request s = ((result, some s.nextHandle), s') ∧
      s'.background = [⟨s.nextHandle, .polling c, due⟩] ∧ s'.outcomes = s.outcomes ∧ s'.desk = made := by
  obtain ⟨now, waited⟩ := pass_of_quiet (s := { s with desk := sent }) g time quiet
  refine ⟨(start c { s with now := now, desk := made }).2, now, ?_, ?_, rfl, rfl⟩
  · simp only [create, atDesk, goes, waited, comes]
    rfl
  · simp only [start, quiet, List.nil_append]

end

/-! ## One convergence in the background -/

section

variable {g : Gateway} {s : Session σ φ} {handle : Nat} {phase : Phase φ} {due : Duration}

/-- A round in which the convergence goes on. -/
theorem round_of_lonely (lonely : s.background = [⟨handle, phase, due⟩]) (ready : due ≤ s.now) :
    round g s =
      match turn g phase s.desk with
      | (.done outcome, later) =>
        { s with desk := later, background := [], outcomes := s.outcomes.insert handle outcome }
      | (.waiting rest time, later) =>
        { s with desk := later, background := [⟨handle, rest, s.now + time⟩] } := by
  simp only [round, lonely, runDue, if_pos ready]
  rcases turn g phase s.desk with ⟨outcome | ⟨rest, time⟩, later⟩ <;> rfl

omit [Fleet σ φ] in
/-- The clock has come to the moment to which it is moved, or is past it. -/
theorem le_now_moveTo (s : Session σ φ) (d : Duration) : d ≤ (s.moveTo d).now := by
  unfold moveTo
  split
  · exact Nat.le_refl _
  · next past => exact Nat.le_of_not_lt past

theorem runUntil_of_lonely (lonely : s.background = [⟨handle, phase, due⟩])
    (unheard : s.outcomes.contains handle = false) :
    let s' := runUntil g handle s
    s'.background = [] ∧ s'.outcomes[handle]? = some (g.undisturbed phase s.desk).1 ∧
      s'.desk = (g.undisturbed phase s.desk).2 := by
  fun_induction runUntil g handle s generalizing phase due with
  | case1 s heard => rw [unheard] at heard; cases heard
  | case2 s _ d next ih =>
    obtain rfl : due = d := by
      rw [nextDue?, lonely] at next
      exact Option.some.inj next
    have round := round_of_lonely (g := g) ((s.background_moveTo due).trans lonely) (s.le_now_moveTo due)
    rw [undisturbed_turn]
    rw [desk_moveTo] at round
    rcases step : turn g phase s.desk with ⟨outcome | ⟨rest, time⟩, later⟩
    · rw [step] at round
      rw [round, runUntil, if_pos (by simp)]
      simp
    · rw [step] at round
      rw [round] at ih ⊢
      obtain ⟨now, moved⟩ := s.exists_moveTo due
      exact ih rfl (by rw [moved]; exact unheard)
  | case3 s _ next =>
    rw [nextDue?, lonely] at next
    cases next

/-- Whoever waits for the convergence is told what it comes to. -/
theorem await_of_lonely (lonely : s.background = [⟨handle, phase, due⟩])
    (unheard : s.outcomes.contains handle = false) :
    ∃ s', await g handle s = (some (g.undisturbed phase s.desk).1, s') ∧ s'.background = [] ∧
      s'.desk = (g.undisturbed phase s.desk).2 := by
  obtain ⟨quiet, outcome, desk⟩ := runUntil_of_lonely (g := g) lonely unheard
  have pending : s.finished? handle = some false := by simp [finished?, unheard, lonely]
  refine ⟨{ runUntil g handle s with outcomes := (runUntil g handle s).outcomes.erase handle }, ?_, quiet, desk⟩
  simp only [await, pending, outcome]

end

end Session

end CloudLifecycle
