import CloudLifecycle.Proofs.Gateway.Owners
import CloudLifecycle.Session

/-!
# Sessions as traffic

A session is one way in which the work of a gateway may be scheduled: one caller, and a clock that says when the
convergences in the background go on. Whatever is asked of it, what it does is a run of moves (`Course.reaches`), so
that all that holds after every schedule holds in every session.

The convergences in the background are the first jobs, in their order, and the work of the caller is the last one.
Letting time pass gives turns to the former only; no job is started meanwhile, so the caller's stays the last.
-/

namespace CloudLifecycle

variable {σ φ : Type} [Fleet σ φ]

namespace Traffic

/-- Some moves lead from one state to another. -/
def Reaches (g : Gateway) (t t' : Traffic σ φ) : Prop := ∃ moves, (run g moves t).2 = t'

theorem Reaches.refl (g : Gateway) (t : Traffic σ φ) : Reaches g t t := ⟨[], rfl⟩

theorem Reaches.trans {g : Gateway} {t t' t'' : Traffic σ φ} (h : Reaches g t t') (h' : Reaches g t' t'') :
    Reaches g t t'' := by
  obtain ⟨moves, rfl⟩ := h
  obtain ⟨moves', rfl⟩ := h'
  exact ⟨moves ++ moves', by rw [run_append]⟩

theorem Reaches.step (g : Gateway) (move : Move σ) (t : Traffic σ φ) : Reaches g t (step g move t).2 :=
  ⟨[move], rfl⟩

theorem Reaches.demand (g : Gateway) (demand : Demand) (desk : Desk σ) (jobs : List (Job φ)) :
    Reaches g ⟨desk, jobs⟩
      ⟨(g.accept demand desk : Stretch σ φ).desk, jobs ++ (g.accept demand desk : Stretch σ φ).next.toList⟩ :=
  Reaches.step g (.demand demand) ⟨desk, jobs⟩

/-- A job goes on where it stands among the others. -/
theorem Reaches.resume (g : Gateway) (job : Job φ) (desk : Desk σ) (before after : List (Job φ)) :
    Reaches g ⟨desk, before ++ job :: after⟩
      ⟨(g.resume job desk).desk, before ++ ((g.resume job desk).next.toList ++ after)⟩ := by
  have h := Reaches.step g (.resume before.length) ⟨desk, before ++ job :: after⟩
  simpa [Traffic.step] using h

end Traffic

namespace Session

open Traffic (Reaches)

/-- A session among whose jobs are those of the caller. -/
def traffic (s : Session σ φ) (fore : List (Job φ)) : Traffic σ φ :=
  ⟨s.desk, s.background.map (fun b => .converging b.phase) ++ fore⟩

/-- What is left of a convergence. -/
def left : Progress (Phase φ) Outcome → List (Job φ)
  | .done _ => []
  | .waiting rest _ => [.converging rest]

theorem resume_converging (g : Gateway) (phase : Phase φ) (desk : Desk σ) :
    (g.resume (.converging phase) desk).desk = (g.advance phase desk).2 ∧
      (g.resume (.converging phase) desk).next.toList = left (g.advance phase desk).1 := by
  rcases h : g.advance phase desk with ⟨outcome | ⟨rest, time⟩, later⟩ <;> simp [Gateway.resume, h, left]

theorem advance_reaches (g : Gateway) (phase : Phase φ) (desk : Desk σ) (before after : List (Job φ)) :
    Reaches g ⟨desk, before ++ .converging phase :: after⟩
      ⟨(g.advance phase desk).2, before ++ (left (g.advance phase desk).1 ++ after)⟩ := by
  have h := Reaches.resume g (.converging phase) desk before after
  rwa [(resume_converging g phase desk).1, (resume_converging g phase desk).2] at h

/-! ## The background -/

theorem turn_reaches (g : Gateway) (phase : Phase φ) (desk : Desk σ) (before after : List (Job φ)) :
    Reaches g ⟨desk, before ++ .converging phase :: after⟩
      ⟨(turn g phase desk).2, before ++ (left (turn g phase desk).1 ++ after)⟩ := by
  fun_induction turn g phase desk with
  | case1 phase desk outcome later h =>
    have first := advance_reaches g phase desk before after
    rwa [h] at first
  | case2 phase desk rest time later h zero ih =>
    have first := advance_reaches g phase desk before after
    rw [h] at first
    exact first.trans ih
  | case3 phase desk rest time later h positive =>
    have first := advance_reaches g phase desk before after
    rwa [h] at first

theorem runDue_reaches (g : Gateway) (now : Duration) (tasks : List (Background φ)) (desk : Desk σ)
    (before after : List (Job φ)) :
    Reaches g ⟨desk, before ++ (tasks.map (fun b => .converging b.phase) ++ after)⟩
      ⟨(runDue g now tasks desk).desk,
        before ++ ((runDue g now tasks desk).background.map (fun b => .converging b.phase) ++ after)⟩ := by
  induction tasks generalizing desk before with
  | nil => exact Reaches.refl g _
  | cons task tasks ih =>
    rw [runDue]
    split
    · have first := turn_reaches g task.phase desk before (tasks.map (fun b => .converging b.phase) ++ after)
      rcases h : turn g task.phase desk with ⟨outcome | ⟨rest, time⟩, later⟩
      · rw [h] at first
        exact first.trans (ih later before)
      · rw [h] at first
        have others := ih later (before ++ [.converging rest])
        simp only [List.append_assoc, List.singleton_append] at others
        exact first.trans others
    · have others := ih desk (before ++ [.converging task.phase])
      simp only [List.append_assoc, List.singleton_append] at others
      exact others

theorem round_reaches (g : Gateway) (s : Session σ φ) (fore : List (Job φ)) :
    Reaches g (s.traffic fore) ((round g s).traffic fore) :=
  runDue_reaches g s.now s.background s.desk [] fore

omit [Fleet σ φ] in
theorem traffic_moveTo (s : Session σ φ) (d : Duration) (fore : List (Job φ)) :
    (s.moveTo d).traffic fore = s.traffic fore := by
  unfold moveTo
  split <;> rfl

theorem passTo_reaches (g : Gateway) (target : Duration) (s : Session σ φ) (fore : List (Job φ)) :
    Reaches g (s.traffic fore) ((passTo g target s).traffic fore) := by
  fun_induction passTo g target s with
  | case1 s due _ _ ih =>
    have first := round_reaches g (s.moveTo due) fore
    rw [traffic_moveTo] at first
    exact first.trans ih
  | case2 s due _ _ =>
    rw [traffic_moveTo]
    exact Reaches.refl g _
  | case3 s _ =>
    rw [traffic_moveTo]
    exact Reaches.refl g _

theorem pass_reaches (g : Gateway) (time : Duration) (s : Session σ φ) (fore : List (Job φ)) :
    Reaches g (s.traffic fore) ((pass g time s).traffic fore) := passTo_reaches g (s.now + time) s fore

/-! ## The caller -/

/-- The caller comes with a demand. -/
theorem accept_reaches (g : Gateway) (demand : Demand) (s : Session σ φ) :
    Reaches g (s.traffic [])
      (traffic { s with desk := (g.accept demand s.desk : Stretch σ φ).desk }
        (g.accept demand s.desk : Stretch σ φ).next.toList) := by
  have h := Reaches.demand g demand s.desk (s.background.map fun b => .converging b.phase)
  simpa [traffic] using h

/-- The caller's own job goes on. -/
theorem resume_reaches (g : Gateway) (job : Job φ) (s : Session σ φ) :
    Reaches g (s.traffic [job])
      (traffic { s with desk := (g.resume job s.desk).desk } (g.resume job s.desk).next.toList) := by
  have h := Reaches.resume g job s.desk (s.background.map fun b => .converging b.phase) []
  rwa [List.append_nil] at h

theorem dispatch_reaches (g : Gateway) (request : ActionRequest) (s : Session σ φ) :
    Reaches g (s.traffic []) ((dispatch g request s).2.traffic []) := by
  have asked := accept_reaches g (.dispatch request) s
  cases he : g.enter request s.desk.fleet with
  | error result =>
    simp only [Gateway.accept, he] at asked
    simpa [dispatch, atDesk, Gateway.dispatch, he] using asked
  | ok machine =>
    simp only [Gateway.accept, he] at asked
    have judged := resume_reaches g (.looking request machine) s
    rcases hj : g.judge request machine s.desk with ⟨result | ⟨flight, time⟩, later⟩
    · simp only [Gateway.resume, hj] at judged
      simpa [dispatch, atDesk, Gateway.dispatch, he, hj] using asked.trans judged
    · simp only [Gateway.resume, hj] at judged
      have waited := pass_reaches g time { s with desk := later } [.acting request flight]
      have ended := resume_reaches g (.acting request flight) (pass g time { s with desk := later })
      simp only [dispatch, atDesk, Gateway.dispatch, he, hj]
      exact ((asked.trans judged).trans waited).trans ended

omit [Fleet σ φ] in
theorem traffic_provision (p : Provisioning) (s : Session σ φ) :
    (provision p s).2.traffic [] = s.traffic (p.started.map fun c => .converging (.polling c)).toList := by
  unfold provision
  cases p.started <;> simp [traffic, start]

theorem create_reaches (g : Gateway) (request : CreateRequest) (s : Session σ φ) :
    Reaches g (s.traffic []) ((create g request s).2.traffic []) := by
  have asked := accept_reaches g (.create request) s
  by_cases h : Fleet.supports s.desk.fleet request.backend request.operation.name = true
  · rcases hs : g.call (Gateway.createCall request) s.desk with ⟨⟨flight, time⟩, later⟩
    have hc : g.create request s.desk = (.waiting flight time, later) := by
      simp only [Gateway.create, h, hs, if_true]
    simp only [Gateway.accept, hc] at asked
    have waited := pass_reaches g time { s with desk := later } [.creating request flight]
    have ended := resume_reaches g (.creating request flight) (pass g time { s with desk := later })
    simp only [create, atDesk, hc, traffic_provision]
    exact (asked.trans waited).trans ended
  · have hc : g.create request s.desk =
        (.done ⟨.notSupported request.backend request.operation, none⟩, s.desk) := by
      simp only [Gateway.create, h]
      rfl
    simp only [Gateway.accept, hc] at asked
    simp only [create, atDesk, hc, traffic_provision]
    exact asked

theorem drive_reaches (g : Gateway) (phase : Phase φ) (s : Session σ φ) :
    Reaches g (s.traffic [.converging phase]) ((drive g phase s).2.traffic []) := by
  fun_induction drive g phase s with
  | case1 phase s outcome later h =>
    have first := resume_reaches g (.converging phase) s
    simp only [Gateway.resume, h] at first
    exact first
  | case2 phase s rest time later h ih =>
    have first := resume_reaches g (.converging phase) s
    simp only [Gateway.resume, h] at first
    exact (first.trans (pass_reaches g time { s with desk := later } [.converging rest])).trans ih

theorem converge_reaches (g : Gateway) (key : ResourceKey) (payload : Payload) (s : Session σ φ) :
    Reaches g (s.traffic []) ((converge g key payload s).2.traffic []) := by
  have asked := accept_reaches g (.converge key payload) s
  rcases hc : Gateway.claim key payload s.desk with ⟨_ | c, later⟩
  · simp only [Gateway.accept, hc] at asked
    simp only [converge, atDesk, Gateway.converge, hc]
    exact asked
  · simp only [Gateway.accept, hc] at asked
    have first := resume_reaches g (.converging (.polling c)) { s with desk := later }
    rcases hp : g.poll c later with ⟨outcome | ⟨rest, time⟩, last⟩
    · simp only [Gateway.resume, Gateway.advance, hp] at first
      simp only [converge, atDesk, Gateway.converge, hc, hp]
      exact asked.trans first
    · simp only [Gateway.resume, Gateway.advance, hp] at first
      have waited := pass_reaches g time { s with desk := last } [.converging rest]
      simp only [converge, atDesk, Gateway.converge, hc, hp]
      exact ((asked.trans first).trans waited).trans (drive_reaches g rest _)

theorem currentState_reaches (g : Gateway) (key : ResourceKey) (s : Session σ φ) :
    Reaches g (s.traffic []) ((atDesk (g.currentState key) s).2.traffic []) := by
  have asked := accept_reaches g (.currentState key) s
  cases ho : s.desk.guards.overlay key with
  | some state =>
    simp only [Gateway.accept, ho] at asked
    simp only [atDesk, Gateway.currentState, ho]
    exact asked
  | none =>
    simp only [Gateway.accept, ho] at asked
    simp only [atDesk, Gateway.currentState, ho]
    exact asked.trans (resume_reaches g (.asking key) s)

theorem availableActions_reaches (g : Gateway) (key : ResourceKey) (s : Session σ φ) :
    Reaches g (s.traffic []) ((atDesk (g.availableActions key) s).2.traffic []) := by
  have asked := accept_reaches g (.availableActions key) s
  cases ho : s.desk.guards.overlay key with
  | some state =>
    simp only [Gateway.accept, ho] at asked
    simp only [atDesk, Gateway.availableActions, Gateway.currentState, ho]
    exact asked
  | none =>
    simp only [Gateway.accept, ho] at asked
    simp only [atDesk, Gateway.availableActions, Gateway.currentState, ho]
    exact asked.trans (resume_reaches g (.listing key) s)

theorem clearFailure_reaches (g : Gateway) (key : ResourceKey) (s : Session σ φ) :
    Reaches g (s.traffic []) ((atDesk (Gateway.clearFailure key) s).2.traffic []) :=
  accept_reaches g (.clearFailure key) s

/-! ## Outcomes -/

theorem runUntil_reaches (g : Gateway) (handle : Nat) (s : Session σ φ) :
    Reaches g (s.traffic []) ((runUntil g handle s).traffic []) := by
  fun_induction runUntil g handle s with
  | case1 s _ => exact Reaches.refl g _
  | case2 s _ due _ ih =>
    have first := round_reaches g (s.moveTo due) []
    rw [traffic_moveTo] at first
    exact first.trans ih
  | case3 s _ _ => exact Reaches.refl g _

theorem await_reaches (g : Gateway) (handle : Nat) (s : Session σ φ) :
    Reaches g (s.traffic []) ((await g handle s).2.traffic []) := by
  unfold await
  split
  · exact Reaches.refl g _
  · exact runUntil_reaches g handle s

/-! ## Whole sessions -/

/-- The sessions that come of requests to a gateway, of waiting, and of backends that change by themselves. -/
inductive Course (g : Gateway) (desk : Desk σ) : Session σ φ → Prop where
  | begin : Course g desk (begin desk)
  | dispatch {s : Session σ φ} (request : ActionRequest) (h : Course g desk s) :
      Course g desk (dispatch g request s).2
  | create {s : Session σ φ} (request : CreateRequest) (h : Course g desk s) :
      Course g desk (create g request s).2
  | converge {s : Session σ φ} (key : ResourceKey) (payload : Payload) (h : Course g desk s) :
      Course g desk (converge g key payload s).2
  | currentState {s : Session σ φ} (key : ResourceKey) (h : Course g desk s) :
      Course g desk (atDesk (g.currentState key) s).2
  | availableActions {s : Session σ φ} (key : ResourceKey) (h : Course g desk s) :
      Course g desk (atDesk (g.availableActions key) s).2
  | clearFailure {s : Session σ φ} (key : ResourceKey) (h : Course g desk s) :
      Course g desk (atDesk (Gateway.clearFailure key) s).2
  | await {s : Session σ φ} (handle : Nat) (h : Course g desk s) : Course g desk (await g handle s).2
  | pass {s : Session σ φ} (time : Duration) (h : Course g desk s) : Course g desk (pass g time s)
  | round {s : Session σ φ} (h : Course g desk s) : Course g desk (round g s)
  | drift {s : Session σ φ} (fleet : σ) (h : Course g desk s) :
      Course g desk { s with desk := { s.desk with fleet := fleet } }

/-- **Sessions are traffic.** What a session does is a run of moves from a gateway with nothing to do. -/
theorem Course.reaches {g : Gateway} {desk : Desk σ} {s : Session σ φ} (h : Course g desk s) :
    Reaches g (Traffic.begin desk) (s.traffic []) := by
  induction h with
  | begin => exact Reaches.refl g _
  | dispatch request _ ih => exact ih.trans (dispatch_reaches g request _)
  | create request _ ih => exact ih.trans (create_reaches g request _)
  | converge key payload _ ih => exact ih.trans (converge_reaches g key payload _)
  | currentState key _ ih => exact ih.trans (currentState_reaches g key _)
  | availableActions key _ ih => exact ih.trans (availableActions_reaches g key _)
  | clearFailure key _ ih => exact ih.trans (clearFailure_reaches g key _)
  | await handle _ ih => exact ih.trans (await_reaches g handle _)
  | pass time _ ih => exact ih.trans (pass_reaches g time _ [])
  | round _ ih => exact ih.trans (round_reaches g _ [])
  | drift fleet _ ih => exact ih.trans (Reaches.step g (.drift fleet) _)

/-- In a session over a registry that was empty, every resource under guard has a convergence in the background. -/
theorem Course.exists_background {g : Gateway} {fleet : σ} {s : Session σ φ} (h : Course g ⟨.empty, fleet⟩ s)
    {key : ResourceKey} (guarded : s.desk.guards.get? key = some .converging) :
    ∃ b ∈ s.background, b.phase.convergence.key = key := by
  obtain ⟨moves, reached⟩ := h.reaches
  have hr := Traffic.run_standing g moves (Traffic.begin ⟨.empty, fleet⟩ : Traffic σ φ) key
  rw [reached] at hr
  have none_yet : Standing.Owned ((Traffic.begin ⟨.empty, fleet⟩ : Traffic σ φ).standing key) := nofun
  obtain ⟨phase, mem, on⟩ := Traffic.inFlight_pos.mp (none_yet.run hr guarded)
  simp only [traffic, List.append_nil, List.mem_map, Job.converging.injEq] at mem
  obtain ⟨b, hb, rfl⟩ := mem
  exact ⟨b, hb, on⟩

end Session

end CloudLifecycle
