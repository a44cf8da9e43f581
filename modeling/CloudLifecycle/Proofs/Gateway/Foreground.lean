import CloudLifecycle.Proofs.Gateway.Endings
import CloudLifecycle.Session

/-!
# Convergences in the foreground

A convergence that someone has asked for and waits for is taken through to its end. While it waits others may do to the
desk what they like (`Meanwhile`), and what comes of it is its `Passage`.

1. A passage is a life on the desks on which the convergence is taken up (`carry_life`), so all that is known of lives
   holds of it.
2. The call that finishes the resource is due if the first lookup that decides shows that it has come up, and its
   backend declares the call then (`FinishDue`). A life makes that call exactly if it is due, and what becomes of the call
   decides between the two outcomes that are left (`life_of_finishDue`, `life_of_not_finishDue`).
3. The last turn alone says what guard the resource is left with, and no turn touches another guard (`carry_leaves`,
   `carry_frame`).
4. The caller of a session who brings a resource up goes through such a passage, where the others are the convergences
   in the background; they leave alone what is not theirs (`drive_passes`, `Session.Apart`).

`bringUp_accords` puts these together.
-/

namespace CloudLifecycle

variable {σ φ : Type} [Fleet σ φ]

/-- What others do to a desk, wait after wait. -/
abbrev Meanwhile (σ : Type) := Stream' (Desk σ → Desk σ)

/-- What a convergence comes to: its life, and the desk as it leaves it. -/
structure Passage (σ : Type) where
  life : Life
  desk : Desk σ

namespace Gateway

/-- Takes a convergence through to its end. -/
def carry (g : Gateway) (phase : Phase φ) (meanwhile : Meanwhile σ) (desk : Desk σ) : Passage σ :=
  match _h : g.advance phase desk.recording with
  | (.done outcome, later) => ⟨⟨later.fleet.record, outcome⟩, later.bare⟩
  | (.waiting rest _, later) =>
    let passage := carry g rest meanwhile.tail (meanwhile.head later.bare)
    { passage with life := passage.life.prepend later.fleet.record }
termination_by g.rank phase
decreasing_by exact g.rank_advance phase _ rest _ (by rw [_h])

/-- Brings a resource up, unless a convergence of it is on its way already. -/
def bringUp (g : Gateway) (key : ResourceKey) (payload : Payload) (meanwhile : Meanwhile σ) (desk : Desk σ) :
    Passage σ :=
  match claim key payload desk with
  | (some c, desk) => g.carry (.polling c) meanwhile desk
  | (none, desk) => ⟨⟨[], .alreadyConverging⟩, desk⟩

/-- The desks on which a convergence is taken up, the first one given. What follows its last turn does not matter. -/
def taken (g : Gateway) (phase : Phase φ) (meanwhile : Meanwhile σ) (desk : Desk σ) : Stream' (Desk σ)
  | 0 => desk
  | n + 1 =>
    match g.advance phase desk with
    | (.done _, later) => later
    | (.waiting rest _, later) => taken g rest meanwhile.tail (meanwhile.head later) n

/-- The desks on which the lookups for a resource are made that is brought up. -/
def bringUpDesks (g : Gateway) (key : ResourceKey) (payload : Payload) (meanwhile : Meanwhile σ) (desk : Desk σ) :
    Stream' (Desk σ) :=
  g.taken (.polling (.begin key payload)) meanwhile { desk with guards := (desk.guards.begin key).2 }

/-! ## Passages are lives -/

theorem settle_bare_desk (g : Gateway) (c : Convergence) (state : LifecycleState) (desk : Desk (Recorded σ)) :
    (g.settle c state desk.bare).2 = (g.settle c state desk).2.bare := by
  have same : Fleet.supports desk.bare.fleet c.key.backend (Operation.postCreate c.key.kind).name =
      Fleet.supports desk.fleet c.key.backend (Operation.postCreate c.key.kind).name := rfl
  unfold settle
  rw [same]
  split <;> rfl

theorem finishConvergence_bare_desk (g : Gateway) (c : Convergence) (state : LifecycleState) (flight : Option φ)
    (desk : Desk (Recorded σ)) :
    (g.finishConvergence c state flight desk.bare).2 = (g.finishConvergence c state flight desk).2.bare := by
  cases flight with
  | none => rfl
  | some flight =>
    have same : (Fleet.land desk.bare.fleet flight).1 = (Fleet.land desk.fleet flight).1 := rfl
    unfold finishConvergence
    dsimp only
    rw [same]
    split <;> rfl

/-- A record changes nothing about the desk that a turn leaves. -/
theorem advance_bare_desk (g : Gateway) (phase : Phase φ) (desk : Desk (Recorded σ)) :
    (g.advance phase desk.bare).2 = (g.advance phase desk).2.bare := by
  cases phase with
  | polling c =>
    have same : (g.observe c.key desk.bare).1 = (g.observe c.key desk).1 := rfl
    unfold advance poll
    dsimp only
    rw [same]
    split
    · rfl
    · exact g.settle_bare_desk _ _ (g.observe c.key desk).2
    · split <;> rfl
  | finishing c state flight => exact g.finishConvergence_bare_desk c state flight desk

section

variable {g : Gateway} {phase rest : Phase φ} {meanwhile : Meanwhile σ} {desk : Desk σ} {later : Desk (Recorded σ)}
  {progress : Progress (Phase φ) Outcome} {outcome : Outcome} {time : Duration}

theorem advance_of_recording (turn : g.advance phase desk.recording = (progress, later)) :
    g.advance phase desk = (progress, later.bare) := by
  have first := g.advance_bare phase desk.recording
  have second := g.advance_bare_desk phase desk.recording
  rw [turn] at first second
  exact Prod.ext first second

theorem recording_of_advance {bare : Desk σ} (turn : g.advance phase desk = (progress, bare)) :
    ∃ later, g.advance phase desk.recording = (progress, later) ∧ later.bare = bare := by
  have same : g.advance phase desk = ((g.advance phase desk.recording).1, (g.advance phase desk.recording).2.bare) :=
    advance_of_recording rfl
  rw [turn] at same
  obtain ⟨step, left⟩ := Prod.mk.inj same
  exact ⟨_, Prod.ext step.symm rfl, left.symm⟩

theorem carry_of_done (turn : g.advance phase desk.recording = (.done outcome, later)) :
    g.carry phase meanwhile desk = ⟨⟨later.fleet.record, outcome⟩, later.bare⟩ := by
  rw [carry]
  split
  · next turn' =>
    rw [turn] at turn'
    cases turn'
    rfl
  · next turn' =>
    rw [turn] at turn'
    cases turn'

theorem carry_of_waiting (turn : g.advance phase desk.recording = (.waiting rest time, later)) :
    g.carry phase meanwhile desk =
      { g.carry rest meanwhile.tail (meanwhile.head later.bare) with
        life := (g.carry rest meanwhile.tail (meanwhile.head later.bare)).life.prepend later.fleet.record } := by
  rw [carry]
  split
  · next turn' =>
    rw [turn] at turn'
    cases turn'
  · next turn' =>
    rw [turn] at turn'
    cases turn'
    rfl

theorem taken_of_waiting (turn : g.advance phase desk.recording = (.waiting rest time, later)) :
    (g.taken phase meanwhile desk).tail = g.taken rest meanwhile.tail (meanwhile.head later.bare) := by
  funext n
  show g.taken phase meanwhile desk (n + 1) = _
  rw [taken, advance_of_recording turn]

/-- What a convergence asks for and comes to is its life on the desks on which it is taken up. -/
theorem carry_life (g : Gateway) (phase : Phase φ) (meanwhile : Meanwhile σ) (desk : Desk σ) :
    (g.carry phase meanwhile desk).life = g.life phase (g.taken phase meanwhile desk) := by
  fun_induction carry g phase meanwhile desk with
  | case1 phase meanwhile desk outcome later turn => exact (life_of_done turn).symm
  | case2 phase meanwhile desk rest time later turn passage ih =>
    rw [life_of_waiting turn, taken_of_waiting turn, ← ih]

/-! ## Guards -/

/-- The last turn leaves its resource with the guard that the outcome says. -/
theorem carry_leaves (g : Gateway) (phase : Phase φ) (meanwhile : Meanwhile σ) (desk : Desk σ) :
    (g.carry phase meanwhile desk).desk.guards.get? phase.convergence.key =
      (g.carry phase meanwhile desk).life.outcome.leftover := by
  fun_induction carry g phase meanwhile desk with
  | case1 phase meanwhile desk outcome later turn =>
    have leaves := g.leaves_advance phase desk.recording
    rw [turn] at leaves
    exact (leaves _).trans (if_pos rfl)
  | case2 phase meanwhile desk rest time later turn passage ih =>
    have leaves := g.leaves_advance phase desk.recording
    rw [turn] at leaves
    rw [← leaves.1]
    exact ih

end

end Gateway

/-- The others never touch the guard of a resource. -/
def Meanwhile.Spares (meanwhile : Meanwhile σ) (key : ResourceKey) : Prop :=
  ∀ n desk, ((meanwhile.get n) desk).guards.get? key = desk.guards.get? key

namespace Gateway

/-- A passage touches no guard but that of its resource. -/
theorem carry_frame (g : Gateway) (phase : Phase φ) (meanwhile : Meanwhile σ) (desk : Desk σ) {other : ResourceKey}
    (distinct : phase.convergence.key ≠ other) (spares : meanwhile.Spares other) :
    (g.carry phase meanwhile desk).desk.guards.get? other = desk.guards.get? other := by
  fun_induction carry g phase meanwhile desk with
  | case1 phase meanwhile desk outcome later turn =>
    have leaves := g.leaves_advance phase desk.recording
    rw [turn] at leaves
    exact (leaves _).trans (if_neg distinct)
  | case2 phase meanwhile desk rest time later turn passage ih =>
    have leaves := g.leaves_advance phase desk.recording
    rw [turn] at leaves
    obtain ⟨same, untouched⟩ := leaves
    have others : (meanwhile.head later.bare).guards.get? other = desk.guards.get? other :=
      (spares 0 later.bare).trans (congrArg (Guards.get? · other) untouched)
    exact (ih (same ▸ distinct) fun n => spares (n + 1)).trans others

/-! ## The call that finishes a resource -/

/-- The call that finishes a resource is due after the lookup `n`: that is the first to decide, it shows that the
resource has come up, and the backend declares the call then. -/
structure FinishDue (g : Gateway) (key : ResourceKey) (desks : Stream' (Desk σ)) (n : Nat) (s : LifecycleState) :
    Prop where
  shown : ∃ resource, g.Shows key (answers key desks) n resource s
  comesUp : g.ComesUp key.kind s
  declared : Fleet.supports (g.observe key (desks.get n)).2.fleet key.backend (Operation.postCreate key.kind).name = true

section

variable {g : Gateway} {key : ResourceKey} {payload : Payload} {desks : Stream' (Desk σ)} {n : Nat}
  {s : LifecycleState}

/-- A call that is due is made, and nothing after it. Its answer says how the life ends. -/
theorem life_of_finishDue (payload : Payload) (due : g.FinishDue key desks n s) :
    let life := g.life (.polling (.begin key payload)) desks
    let call : Call := ⟨key.backend, .postCreate key.kind, some key.id, payload⟩
    let reply := g.reply call (g.observe key (desks.get n)).2 (desks.get (n + 1))
    life.asked = List.replicate (n + 1) (.lookup key) ++ [.call call] ∧
      ((life.outcome = .converged s ∧ ∃ receipt, reply = some (.ok receipt)) ∨
        ((∃ reason, life.outcome = .postCreateFailed reason) ∧ (reply = none ∨ ∃ e, reply = some (.error e)))) := by
  intro life call reply
  obtain ⟨resource, shown⟩ := due.shown
  obtain ⟨calls, asked, finishes⟩ : ∃ calls, life.asked = List.replicate (n + 1) (.lookup key) ++ calls.map .call ∧
      g.Finishes key payload s (g.observe key (desks.get n)).2 (desks.get (n + 1)) calls life.outcome :=
    finishes_of_shows shown due.comesUp
  have declared := due.declared
  generalize life.outcome = outcome at finishes ⊢
  cases finishes with
  | undeclared shut =>
    rw [shut] at declared
    cases declared
  | finished _ receipt answered => exact ⟨asked, .inl ⟨rfl, receipt, answered⟩⟩
  | failed _ e answered => exact ⟨asked, .inr ⟨⟨_, rfl⟩, .inr ⟨e, answered⟩⟩⟩
  | givenUp _ late => exact ⟨asked, .inr ⟨⟨_, rfl⟩, .inl late⟩⟩

/-- Where no call is ever due, a life is made of lookups, and does not fail for a call. -/
theorem life_of_not_finishDue (payload : Payload) (never : ∀ n s, ¬ g.FinishDue key desks n s) :
    let life := g.life (.polling (.begin key payload)) desks
    (∃ lookups ≤ g.plan.maxAttempts, life.asked = List.replicate lookups (.lookup key)) ∧
      ∀ reason, life.outcome ≠ .postCreateFailed reason := by
  intro life
  rcases g.closes_or_exhausted key payload desks with ⟨n, more, undecided, calls, asked, closes⟩ | exhausted
  · have lookups (none : calls = []) : life.asked = List.replicate (n + 1) (.lookup key) := by
      rw [show life.asked = _ from asked, none]
      exact List.append_nil _
    have outcome : (g.life (.polling (.begin key payload)) desks).outcome = life.outcome := rfl
    rw [outcome] at closes
    generalize life.outcome = outcome at closes ⊢
    cases closes with
    | destroyed _ _ _ | vanished _ => exact ⟨⟨n + 1, more, lookups rfl⟩, nofun⟩
    | cameUp s shown moves settled _ _ finishes =>
      obtain ⟨resource, answer, means⟩ := seen?_eq_some.mp shown
      have shows : g.Shows key (answers key desks) n resource s := ⟨more, undecided, answer, means⟩
      have due (declared : Fleet.supports (g.observe key (desks.get n)).2.fleet key.backend
          (Operation.postCreate key.kind).name = true) : g.FinishDue key desks n s :=
        ⟨⟨resource, shows⟩, ⟨settled, moves⟩, declared⟩
      cases finishes with
      | undeclared _ => exact ⟨⟨n + 1, more, lookups rfl⟩, nofun⟩
      | finished declared _ _ | failed declared _ _ | givenUp declared _ => exact absurd (due declared) (never n s)
  · rw [show life = _ from exhausted]
    exact ⟨⟨_, Nat.le_refl _, rfl⟩, nofun⟩

/-- What a life asks for is some lookups within the attempts, and the call that finishes the resource if that is due. -/
theorem asked_accords (g : Gateway) (key : ResourceKey) (payload : Payload) (desks : Stream' (Desk σ)) :
    ∃ lookups ≤ g.plan.maxAttempts, ∃ calls,
      (g.life (.polling (.begin key payload)) desks).asked =
          List.replicate lookups (.lookup key) ++ calls.map .call ∧
        ((calls = [⟨key.backend, .postCreate key.kind, some key.id, payload⟩] ∧
            ∃ n s, g.FinishDue key desks n s ∧ lookups = n + 1) ∨
          (calls = [] ∧ ∀ n s, ¬ g.FinishDue key desks n s)) := by
  by_cases due : ∃ n s, g.FinishDue key desks n s
  · obtain ⟨n, s, due⟩ := due
    obtain ⟨_, shown⟩ := due.shown
    exact ⟨n + 1, shown.inTime, [_], (life_of_finishDue payload due).1, .inl ⟨rfl, n, s, due, rfl⟩⟩
  · have never : ∀ n s, ¬ g.FinishDue key desks n s := fun n s h => due ⟨n, s, h⟩
    obtain ⟨⟨lookups, inTime, asked⟩, _⟩ := life_of_not_finishDue payload never
    exact ⟨lookups, inTime, [], asked.trans (List.append_nil _).symm, .inr ⟨rfl, never⟩⟩

/-- A resource could not be finished exactly if the call that does so was due and did not succeed in time. -/
theorem postCreateFailed_iff :
    (∃ reason, (g.life (.polling (.begin key payload)) desks).outcome = .postCreateFailed reason) ↔
      ∃ n s, g.FinishDue key desks n s ∧
        let reply := g.reply ⟨key.backend, .postCreate key.kind, some key.id, payload⟩
          (g.observe key (desks.get n)).2 (desks.get (n + 1))
        reply = none ∨ ∃ e, reply = some (.error e) := by
  constructor
  · rintro ⟨reason, failed⟩
    by_contra none
    by_cases due : ∃ n s, g.FinishDue key desks n s
    · obtain ⟨n, s, due⟩ := due
      rcases (life_of_finishDue payload due).2 with ⟨converged, _⟩ | ⟨_, bad⟩
      · rw [failed] at converged
        cases converged
      · exact none ⟨n, s, due, bad⟩
    · exact (life_of_not_finishDue payload fun n s h => due ⟨n, s, h⟩).2 reason failed
  · rintro ⟨n, s, due, bad⟩
    rcases (life_of_finishDue payload due).2 with ⟨_, receipt, good⟩ | ⟨failed, _⟩
    · rcases bad with late | ⟨e, bad⟩
      · cases good.symm.trans late
      · cases good.symm.trans bad
    · exact failed

/-- No call is made for a resource that is gone, or has not come up within the attempts. -/
theorem asked_of_gone
    (h : (∃ s, (g.life (.polling (.begin key payload)) desks).outcome = .removed s) ∨
      ∃ attempts lastSeen, (g.life (.polling (.begin key payload)) desks).outcome = .exhausted attempts lastSeen) :
    ∀ asked ∈ (g.life (.polling (.begin key payload)) desks).asked, asked = .lookup key := by
  by_cases due : ∃ n s, g.FinishDue key desks n s
  · obtain ⟨n, s, due⟩ := due
    have ends := (life_of_finishDue payload due).2
    rcases h with ⟨_, gone⟩ | ⟨_, _, gone⟩
    all_goals
      rw [gone] at ends
      rcases ends with ⟨converged, _⟩ | ⟨⟨_, failed⟩, _⟩
      · cases converged
      · cases failed
  · obtain ⟨⟨lookups, _, asked⟩, _⟩ := life_of_not_finishDue payload fun n s h => due ⟨n, s, h⟩
    rw [asked]
    exact fun _ mem => List.eq_of_mem_replicate mem

theorem life_ne_alreadyConverging : (g.life (.polling (.begin key payload)) desks).outcome ≠ .alreadyConverging := by
  rcases g.closes_or_exhausted key payload desks with ⟨n, _, _, calls, _, closes⟩ | exhausted
  · intro already
    rw [already] at closes
    cases closes with
    | cameUp _ _ _ _ _ _ finishes => cases finishes
  · rw [exhausted]
    exact nofun

end

end Gateway

/-! ## Sessions -/

namespace Session

/-- No convergence of the resource is in the background. -/
def Apart (key : ResourceKey) (background : List (Background φ)) : Prop :=
  ∀ b ∈ background, b.phase.convergence.key ≠ key

section

variable {key : ResourceKey}

theorem turn_apart (g : Gateway) (phase : Phase φ) (desk : Desk σ) (distinct : phase.convergence.key ≠ key) :
    (turn g phase desk).2.guards.get? key = desk.guards.get? key ∧
      ∀ rest time, (turn g phase desk).1 = .waiting rest time → rest.convergence.key ≠ key := by
  fun_induction turn g phase desk with
  | case1 phase desk outcome later h =>
    have leaves := g.leaves_advance phase desk
    rw [h] at leaves
    refine ⟨(leaves key).trans (if_neg distinct), ?_⟩
    rintro _ _ ⟨⟩
  | case2 phase desk rest time later h _ ih =>
    have leaves := g.leaves_advance phase desk
    rw [h] at leaves
    obtain ⟨same, untouched⟩ := leaves
    rw [← same] at distinct
    rw [← untouched]
    exact ih distinct
  | case3 phase desk rest time later h _ =>
    have leaves := g.leaves_advance phase desk
    rw [h] at leaves
    obtain ⟨same, untouched⟩ := leaves
    refine ⟨congrArg (Guards.get? · key) untouched, ?_⟩
    rintro _ _ ⟨⟩
    rw [same]
    exact distinct

theorem runDue_apart (g : Gateway) (now : Duration) (tasks : List (Background φ)) (desk : Desk σ)
    (apart : Apart key tasks) :
    (runDue g now tasks desk).desk.guards.get? key = desk.guards.get? key ∧
      Apart key (runDue g now tasks desk).background := by
  induction tasks generalizing desk with
  | nil => exact ⟨rfl, apart⟩
  | cons task tasks ih =>
    obtain ⟨distinct, rest⟩ := List.forall_mem_cons.mp apart
    rw [runDue]
    split
    · have own := turn_apart g task.phase desk distinct
      rcases h : turn g task.phase desk with ⟨outcome | ⟨phase, time⟩, later⟩
      · rw [h] at own
        exact ⟨(ih later rest).1.trans own.1, (ih later rest).2⟩
      · rw [h] at own
        exact ⟨(ih later rest).1.trans own.1, List.forall_mem_cons.mpr ⟨own.2 phase time rfl, (ih later rest).2⟩⟩
    · exact ⟨(ih desk rest).1, List.forall_mem_cons.mpr ⟨distinct, (ih desk rest).2⟩⟩

omit [Fleet σ φ] in
@[simp] theorem desk_moveTo (s : Session σ φ) (d : Duration) : (s.moveTo d).desk = s.desk := by
  unfold moveTo
  split <;> rfl

omit [Fleet σ φ] in
@[simp] theorem background_moveTo (s : Session σ φ) (d : Duration) : (s.moveTo d).background = s.background := by
  unfold moveTo
  split <;> rfl

theorem round_apart (g : Gateway) (s : Session σ φ) (apart : Apart key s.background) :
    (round g s).desk.guards.get? key = s.desk.guards.get? key ∧ Apart key (round g s).background :=
  runDue_apart g s.now s.background s.desk apart

/-- Letting time pass leaves alone the guard of a resource that is not coming up in the background. -/
theorem passTo_apart (g : Gateway) (target : Duration) (s : Session σ φ) (apart : Apart key s.background) :
    (passTo g target s).desk.guards.get? key = s.desk.guards.get? key ∧ Apart key (passTo g target s).background := by
  have moved (s : Session σ φ) (d : Duration) (apart : Apart key s.background) :
      (s.moveTo d).desk.guards.get? key = s.desk.guards.get? key ∧ Apart key (s.moveTo d).background :=
    ⟨congrArg (·.guards.get? key) (s.desk_moveTo d), s.background_moveTo d ▸ apart⟩
  fun_induction passTo g target s with
  | case1 s due _ _ ih =>
    obtain ⟨same, apart⟩ := moved s due apart
    obtain ⟨same', apart⟩ := round_apart g (s.moveTo due) apart
    exact ⟨(ih apart).1.trans (same'.trans same), (ih apart).2⟩
  | case2 s due _ _ => exact moved s target apart
  | case3 s _ => exact moved s target apart

end

/-- A session ends as some passage does, if the others of that are the convergences in the background. -/
def Passes (background : List (Background φ)) (passage : Meanwhile σ → Passage σ) (ended : Outcome × Session σ φ) :
    Prop :=
  ∃ meanwhile, (passage meanwhile).life.outcome = ended.1 ∧ (passage meanwhile).desk = ended.2.desk ∧
    ∀ key, Apart key background → meanwhile.Spares key

/-- A convergence in the foreground is a passage between whose turns those in the background go on. -/
theorem drive_passes (g : Gateway) (phase : Phase φ) (s : Session σ φ) :
    Passes s.background (g.carry phase · s.desk) (drive g phase s) := by
  fun_induction drive g phase s with
  | case1 phase s outcome later turn =>
    obtain ⟨recorded, whole, rfl⟩ := Gateway.recording_of_advance turn
    refine ⟨Stream'.const id, ?_, ?_, fun key _ n desk => rfl⟩
    · simp only [Gateway.carry_of_done whole]
    · simp only [Gateway.carry_of_done whole]
  | case2 phase s rest time later turn ih =>
    obtain ⟨recorded, whole, rfl⟩ := Gateway.recording_of_advance turn
    obtain ⟨meanwhile, outcome, desk, spares⟩ := ih
    let waited (desk : Desk σ) : Session σ φ := pass g time { s with desk := desk }
    refine ⟨.cons (fun desk => (waited desk).desk) meanwhile, ?_, ?_, ?_⟩
    · simp only [Gateway.carry_of_waiting whole]
      exact outcome
    · simp only [Gateway.carry_of_waiting whole]
      exact desk
    · intro key apart n desk
      cases n with
      | zero => exact (passTo_apart g (s.now + time) { s with desk := desk } apart).1
      | succ n =>
        have still := (passTo_apart g (s.now + time) { s with desk := recorded.bare } apart).2
        exact spares key still n desk

theorem drive_of_done {g : Gateway} {phase : Phase φ} {s : Session σ φ} {outcome : Outcome} {later : Desk σ}
    (turn : g.advance phase s.desk = (.done outcome, later)) : drive g phase s = (outcome, { s with desk := later }) := by
  rw [drive]
  split
  · next turn' =>
    rw [turn] at turn'
    cases turn'
    rfl
  · next turn' =>
    rw [turn] at turn'
    cases turn'

theorem drive_of_waiting {g : Gateway} {phase rest : Phase φ} {s : Session σ φ} {time : Duration} {later : Desk σ}
    (turn : g.advance phase s.desk = (.waiting rest time, later)) :
    drive g phase s = drive g rest (pass g time { s with desk := later }) := by
  rw [drive]
  split
  · next turn' =>
    rw [turn] at turn'
    cases turn'
  · next turn' =>
    rw [turn] at turn'
    cases turn'
    rfl

theorem converge_of_free {g : Gateway} {key : ResourceKey} {payload : Payload} {s : Session σ φ} {c : Convergence}
    {later : Desk σ} (claimed : Gateway.claim key payload s.desk = (some c, later)) :
    converge g key payload s = drive g (.polling c) { s with desk := later } := by
  rcases turn : g.poll c later with ⟨outcome | ⟨rest, time⟩, last⟩
  · rw [drive_of_done (show g.advance (.polling c) later = _ from turn)]
    simp only [converge, atDesk, Gateway.converge, claimed, turn]
  · rw [drive_of_waiting (show g.advance (.polling c) later = _ from turn)]
    simp only [converge, atDesk, Gateway.converge, claimed, turn]

/-- Whoever brings a resource up in a session waits for such a passage. -/
theorem converge_passes (g : Gateway) (key : ResourceKey) (payload : Payload) (s : Session σ φ) :
    Passes s.background (g.bringUp key payload · s.desk) (converge g key payload s) := by
  rcases hc : Gateway.claim key payload s.desk with ⟨_ | c, later⟩
  · refine ⟨Stream'.const id, ?_, ?_, fun key _ n desk => rfl⟩
    · simp only [Gateway.bringUp, converge, atDesk, Gateway.converge, hc]
    · simp only [Gateway.bringUp, converge, atDesk, Gateway.converge, hc]
  · have driven := drive_passes g (.polling c) { s with desk := later }
    simp only [Passes, Gateway.bringUp, hc]
    rw [converge_of_free hc]
    exact driven

end Session

namespace Gateway

section

variable {g : Gateway} {key : ResourceKey} {payload : Payload} {meanwhile : Meanwhile σ} {desk : Desk σ}

theorem bringUp_of_converging (h : desk.guards.get? key = some .converging) :
    g.bringUp key payload meanwhile desk = ⟨⟨[], .alreadyConverging⟩, desk⟩ := by
  simp only [bringUp, claim_of_converging h]

theorem bringUp_of_free (h : desk.guards.get? key ≠ some .converging) :
    g.bringUp key payload meanwhile desk =
      g.carry (.polling (.begin key payload)) meanwhile { desk with guards := (desk.guards.begin key).2 } := by
  simp only [bringUp, claim_of_free h]

/-- A resource that is brought up has a life on the desks there. -/
theorem bringUp_life (h : desk.guards.get? key ≠ some .converging) :
    (g.bringUp key payload meanwhile desk).life =
      g.life (.polling (.begin key payload)) (g.bringUpDesks key payload meanwhile desk) := by
  rw [bringUp_of_free h, carry_life]
  rfl

theorem bringUp_refused_iff :
    (g.bringUp key payload meanwhile desk).life.outcome = .alreadyConverging ↔
      desk.guards.get? key = some .converging := by
  constructor
  · intro refused
    by_contra free
    rw [bringUp_life free] at refused
    exact life_ne_alreadyConverging refused
  · intro converging
    rw [bringUp_of_converging converging]

theorem bringUp_leaves (h : desk.guards.get? key ≠ some .converging) :
    (g.bringUp key payload meanwhile desk).desk.guards.get? key =
      (g.bringUp key payload meanwhile desk).life.outcome.leftover := by
  rw [bringUp_of_free h]
  exact g.carry_leaves (.polling (.begin key payload)) meanwhile _

theorem bringUp_frame {other : ResourceKey} (distinct : other ≠ key) (spares : meanwhile.Spares other) :
    (g.bringUp key payload meanwhile desk).desk.guards.get? other = desk.guards.get? other := by
  by_cases h : desk.guards.get? key = some .converging
  · rw [bringUp_of_converging h]
  · rw [bringUp_of_free h]
    have framed := g.carry_frame (.polling (.begin key payload)) meanwhile
      { desk with guards := (desk.guards.begin key).2 } distinct.symm spares
    exact framed.trans ((desk.guards.get?_begin key other).trans (if_neg distinct.symm))

end

end Gateway

/-- **Guard, outcome and last call.** Whoever asks a gateway to bring a resource up, whatever is under guard there, and
whatever others do and the backends answer until it is done:

1. is refused exactly if a convergence of the resource is on its way, and then nothing is asked and nothing changed;
2. leaves the resource otherwise with the guard that the outcome says: none if it has come up or is gone, and a failure
   if the attempts ran out or it could not be finished; any other guard stays as it is if the others leave it alone;
3. makes some lookups, within the attempts, and then the call that finishes the resource, with its id and the payload
   given, if that is due, but no call at all otherwise;
4. is told that the resource could not be finished exactly if that call was due and failed or was given up.
   If the resource is gone, or the attempts ran out, no call was made.

5. This is so in sessions, where the others are the convergences in the background. -/
theorem Gateway.bringUp_accords (g : Gateway) (key : ResourceKey) (payload : Payload) (meanwhile : Meanwhile σ)
    (desk : Desk σ) :
    let passage := g.bringUp key payload meanwhile desk
    let desks := g.bringUpDesks key payload meanwhile desk
    let call : Call := ⟨key.backend, .postCreate key.kind, some key.id, payload⟩
    let reply (n : Nat) := g.reply call (g.observe key (desks.get n)).2 (desks.get (n + 1))
    let outcome := passage.life.outcome
    (outcome = .alreadyConverging ↔ desk.guards.get? key = some .converging) ∧
    (outcome = .alreadyConverging → passage.life.asked = [] ∧ passage.desk = desk) ∧
    (outcome ≠ .alreadyConverging →
      passage.desk.guards.get? key = outcome.leftover ∧
      (∃ lookups ≤ g.plan.maxAttempts, ∃ calls,
        passage.life.asked = List.replicate lookups (.lookup key) ++ calls.map .call ∧
          ((calls = [call] ∧ ∃ n s, g.FinishDue key desks n s ∧ lookups = n + 1) ∨
            (calls = [] ∧ ∀ n s, ¬ g.FinishDue key desks n s))) ∧
      ((∃ reason, outcome = .postCreateFailed reason) ↔
        ∃ n s, g.FinishDue key desks n s ∧ (reply n = none ∨ ∃ e, reply n = some (.error e))) ∧
      ((∃ s, outcome = .removed s) ∨ (∃ attempts lastSeen, outcome = .exhausted attempts lastSeen) →
        ∀ asked ∈ passage.life.asked, asked = .lookup key)) ∧
    (∀ other ≠ key, meanwhile.Spares other → passage.desk.guards.get? other = desk.guards.get? other) ∧
    ∀ s : Session σ φ, Session.Passes s.background (g.bringUp key payload · s.desk) (Session.converge g key payload s) := by
  intro passage desks call reply outcome
  refine ⟨?_, ?_, ?_, ?_, Session.converge_passes g key payload⟩
  · exact bringUp_refused_iff
  · intro refused
    rw [bringUp_refused_iff] at refused
    simp only [passage, bringUp_of_converging refused, and_self]
  · intro accepted
    have free := mt bringUp_refused_iff.mpr accepted
    have life : passage.life = g.life (.polling (.begin key payload)) desks := bringUp_life free
    refine ⟨bringUp_leaves free, ?_⟩
    simp only [outcome, life]
    exact ⟨g.asked_accords key payload desks, postCreateFailed_iff, asked_of_gone⟩
  · exact fun other distinct spares => bringUp_frame distinct spares

end CloudLifecycle
