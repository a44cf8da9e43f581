import CloudLifecycle.Backend.Builtin
import CloudLifecycle.Proofs.Gateway.Turns
import Mathlib.Data.List.Induction

/-!
# Interleavings

Work for different resources does not interfere. What it shows for each resource, and what it leaves, does not depend on
how the turns about the resources are interleaved (`interleavings_agree`), with one exception: a planned failure strikes
the next call of its operation, whichever resource that is about. So where one is planned, the order of what touches it
must be the same.

1. The failures that calls about a resource meet can be told from the touches of each planned failure alone
   (`met_eq_replies`), and so can what is left of it (`failure?_play`).
2. Two schedules with the same turns about a resource, in which its calls meet the same failures, show the same for it
   and leave the same of it (`AgreeOn.play`). This is an induction on the one schedule, in which the other is taken apart
   at its next turn about the resource (`exists_first`); the turns before that are about others.
3. Without turns at the other backends everything at a backend goes the same way (`AgreeAt.play`).
-/

namespace CloudLifecycle

/-- The backend at which a turn is. -/
def Turn.backend : Turn → String
  | demand key _ _ | resume key _ | inspect key => key.backend
  | plan backend _ _ => backend

/-- Whether a turn is at the backend. -/
def Turn.isAt (backend : String) (turn : Turn) : Bool := turn.backend = backend

theorem Turn.isAbout_iff {key : ResourceKey} {turn : Turn} : turn.isAbout key = true ↔ turn.key? = some key :=
  decide_eq_true_iff

theorem Turn.isAt_iff {backend : String} {turn : Turn} : turn.isAt backend = true ↔ turn.backend = backend :=
  decide_eq_true_iff

theorem Turn.backend_of_key {key : ResourceKey} {turn : Turn} (about : turn.key? = some key) :
    turn.backend = key.backend := by
  cases turn with
  | plan => cases about
  | demand | resume | inspect =>
    cases about
    rfl

namespace Touch

/-- The failures that the calls about a resource meet, from all that touches them. -/
def replies (key : ResourceKey) (there : Bool) : Option BackendError → List Touch → List (Option BackendError)
  | _, [] => []
  | cell, touch :: touches =>
    (if touch = .called key then [cell] else []) ++ replies key there (touch.leaves there cell) touches

end Touch

namespace Traffic

/-- The desk and the jobs after some turns. -/
def play (g : Gateway) (turns : List Turn) (t : Traffic Park Flight) : Traffic Park Flight :=
  turns.foldl (fun t turn => (act g turn t).2) t

/-- What is noted of each turn when it comes, the earliest first. -/
def notes {α : Type} (g : Gateway) (note : Turn → Traffic Park Flight → Option α) :
    List Turn → Traffic Park Flight → List α
  | [], _ => []
  | turn :: turns, t => (note turn t).toList ++ notes g note turns (act g turn t).2

/-- What the turns about a resource show, turn by turn. -/
def answers (g : Gateway) (key : ResourceKey) : List Turn → Traffic Park Flight → List (Option Shown) :=
  notes g fun turn t => if turn.isAbout key then some (act g turn t).1 else none

/-- All that touches the failure that a backend has planned for an operation. -/
def touches (g : Gateway) (backend operation : String) : List Turn → Traffic Park Flight → List Touch :=
  notes g fun turn t => turn.touch? backend operation t

/-- The failures that the calls of an operation about a resource meet. -/
def met (g : Gateway) (key : ResourceKey) (operation : String) :
    List Turn → Traffic Park Flight → List (Option BackendError) :=
  notes g fun turn t =>
    if turn.touch? key.backend operation t = some (.called key) then
      some (t.desk.fleet.failure? key.backend operation)
    else none

/-- A gateway before simulated backends may come to this, whatever is demanded of it. Meanwhile the backends may change as
they like, as long as they stay simulated: resources are put there, failures are planned, calls take more time. -/
def Reached (g : Gateway) (t : Traffic Park Flight) : Prop :=
  ∃ (desk : Desk Park) (moves : List (Move Park)), desk.fleet.Simulated ∧
    (∀ fleet, .drift fleet ∈ moves → fleet.Simulated) ∧ t = (run g moves (begin desk)).2

/-- Two desks and the work at them are the same as far as one backend goes: the backend itself, with its resources and
planned failures, and where lookups for it go, and of its resources the guards and the jobs. -/
structure AgreeAt (backend : String) (t t' : Traffic Park Flight) : Prop where
  registered : t.desk.fleet.registry.get? backend = t'.desk.fleet.registry.get? backend
  target : t.desk.fleet.router.target? backend = t'.desk.fleet.router.target? backend
  guards : ∀ key : ResourceKey, key.backend = backend → t.desk.guards.get? key = t'.desk.guards.get? key
  jobs : ∀ key : ResourceKey, key.backend = backend → t.about key = t'.about key

section

variable {g : Gateway} {turns turns' : List Turn} {t t' : Traffic Park Flight} {key : ResourceKey}

theorem notes_append {α : Type} (note : Turn → Traffic Park Flight → Option α) (turns turns' : List Turn)
    (t : Traffic Park Flight) :
    notes g note (turns ++ turns') t = notes g note turns t ++ notes g note turns' (play g turns t) := by
  induction turns generalizing t with
  | nil => rfl
  | cons turn turns ih =>
    rw [List.cons_append, notes, notes, ih, List.append_assoc]
    rfl

theorem play_append (turns turns' : List Turn) (t : Traffic Park Flight) :
    play g (turns ++ turns') t = play g turns' (play g turns t) := List.foldl_append

theorem answers_of_about {turn : Turn} (about : turn.key? = some key) (turns : List Turn) (t : Traffic Park Flight) :
    answers g key (turn :: turns) t = (act g turn t).1 :: answers g key turns (act g turn t).2 := by
  unfold answers
  rw [notes, if_pos (Turn.isAbout_iff.mpr about)]
  rfl

theorem answers_of_other {turn : Turn} (ne : turn.key? ≠ some key) (turns : List Turn) (t : Traffic Park Flight) :
    answers g key (turn :: turns) t = answers g key turns (act g turn t).2 := by
  unfold answers
  rw [notes, if_neg (Turn.isAbout_iff.not.mpr ne)]
  rfl

theorem met_of_called {turn : Turn} {operation : String}
    (called : turn.touch? key.backend operation t = some (.called key)) (turns : List Turn) :
    met g key operation (turn :: turns) t =
      t.desk.fleet.failure? key.backend operation :: met g key operation turns (act g turn t).2 := by
  unfold met
  rw [notes, if_pos called]
  rfl

theorem met_of_not_called {turn : Turn} {operation : String}
    (not : turn.touch? key.backend operation t ≠ some (.called key)) (turns : List Turn) :
    met g key operation (turn :: turns) t = met g key operation turns (act g turn t).2 := by
  unfold met
  rw [notes, if_neg not]
  rfl

theorem Reached.sound (h : Reached g t) : t.Sound := by
  obtain ⟨desk, moves, simulated, drifts, rfl⟩ := h
  induction moves using List.reverseRecOn with
  | nil => exact ⟨simulated, List.forall_mem_nil _⟩
  | append_singleton moves move ih =>
    rw [run_concat]
    refine (ih fun fleet mem => drifts fleet (List.mem_append_left _ mem)).step ?_
    rintro fleet rfl
    exact drifts fleet (List.mem_append_right _ List.mem_cons_self)

theorem Sound.play (h : t.Sound) (g : Gateway) (turns : List Turn) : (play g turns t).Sound := by
  induction turns generalizing t with
  | nil => exact h
  | cons turn turns ih => exact ih (h.act g turn)

/-! ## Failures -/

theorem touch?_ne_called {turn : Turn} (ne : turn.key? ≠ some key) (backend operation : String) :
    turn.touch? backend operation t ≠ some (.called key) := by
  intro touched
  cases turn with
  | demand | inspect => cases touched
  | resume own place =>
    obtain ⟨flight, _, called⟩ := Option.bind_eq_some_iff.mp touched
    split at called
    · cases called
      exact ne rfl
    · cases called
  | plan id name e =>
    simp only [Turn.touch?] at touched
    split at touched <;> cases touched

theorem touch?_eq_planned {turn : Turn} {backend operation : String} {e : BackendError}
    (touched : turn.touch? backend operation t = some (.planned e)) : turn = .plan backend operation e := by
  cases turn with
  | demand | inspect => cases touched
  | resume own place =>
    obtain ⟨flight, _, called⟩ := Option.bind_eq_some_iff.mp touched
    split at called <;> cases called
  | plan id name e =>
    simp only [Turn.touch?] at touched
    split at touched
    · next own =>
      obtain ⟨rfl, rfl⟩ := own
      cases touched
      rfl
    · cases touched

theorem isSome_profile?_act (h : t.Sound) (turn : Turn) (backend : String) :
    ((act g turn t).2.desk.fleet.profile? backend).isSome = (t.desk.fleet.profile? backend).isSome := by
  rw [(h.alike_act g turn).profile?]

theorem met_eq_replies (h : t.Sound) (key : ResourceKey) (operation : String) :
    met g key operation turns t =
      Touch.replies key (t.desk.fleet.profile? key.backend).isSome (t.desk.fleet.failure? key.backend operation)
        (touches g key.backend operation turns t) := by
  induction turns generalizing t with
  | nil => rfl
  | cons turn turns ih =>
    have left := failure?_act h g turn key.backend operation
    have rest := ih (h.act g turn)
    rw [isSome_profile?_act h, left] at rest
    unfold met touches at rest ⊢
    unfold notes
    rw [rest]
    cases touched : turn.touch? key.backend operation t with
    | none => rfl
    | some touch =>
      simp only [Option.map_some, Option.getD_some, Option.toList_some, List.singleton_append, Touch.replies,
        Option.some.injEq]
      split <;> rfl

theorem failure?_play (h : t.Sound) (backend operation : String) :
    (play g turns t).desk.fleet.failure? backend operation =
      (touches g backend operation turns t).foldl (Touch.leaves (t.desk.fleet.profile? backend).isSome)
        (t.desk.fleet.failure? backend operation) := by
  induction turns generalizing t with
  | nil => rfl
  | cons turn turns ih =>
    have left := failure?_act h g turn backend operation
    have rest := ih (h.act g turn)
    rw [isSome_profile?_act h, left] at rest
    unfold touches at rest ⊢
    unfold notes
    rw [List.foldl_append]
    cases touched : turn.touch? backend operation t with
    | none =>
      rw [touched] at rest
      exact rest
    | some touch =>
      rw [touched] at rest
      exact rest

/-- Where no failure is planned, none is met, and none is there in the end. -/
theorem unmet (h : t.Sound) (g : Gateway) (turns : List Turn) {backend operation : String}
    (free : t.desk.fleet.failure? backend operation = none) (unplanned : ∀ e, .plan backend operation e ∉ turns) :
    (play g turns t).desk.fleet.failure? backend operation = none ∧
      ∀ key : ResourceKey, key.backend = backend → ∀ n, (met g key operation turns t).getD n none = none := by
  induction turns generalizing t with
  | nil => exact ⟨free, fun _ _ _ => rfl⟩
  | cons turn turns ih =>
    have later : (act g turn t).2.desk.fleet.failure? backend operation = none := by
      rw [failure?_act h, free]
      rcases touched : turn.touch? backend operation t with _ | ⟨e⟩ | ⟨key⟩
      · rfl
      · exact absurd List.mem_cons_self (touch?_eq_planned touched ▸ unplanned e)
      · rfl
    obtain ⟨last, none⟩ := ih (h.act g turn) later fun e mem => unplanned e (List.mem_cons_of_mem _ mem)
    refine ⟨last, ?_⟩
    rintro key rfl n
    by_cases called : turn.touch? key.backend operation t = some (.called key)
    · rw [met_of_called called, free]
      cases n with
      | zero => rfl
      | succ n => exact none key rfl n
    · rw [met_of_not_called called]
      exact none key rfl n

/-! ## One resource -/

/-- Turns about others leave a resource as it is, and nothing is shown of it or met by its calls. -/
theorem play_of_others (h : t.Sound) (g : Gateway) (others : ∀ turn ∈ turns, turn.key? ≠ some key) :
    AgreeOn key (play g turns t) t ∧ answers g key turns t = [] ∧ ∀ operation, met g key operation turns t = [] := by
  induction turns generalizing t with
  | nil => exact ⟨.refl key t, rfl, fun _ => rfl⟩
  | cons turn turns ih =>
    rw [List.forall_mem_cons] at others
    obtain ⟨same, silent, unmet⟩ := ih (h.act g turn) others.2
    refine ⟨same.trans (agreeOn_act h g others.1), ?_, ?_⟩
    · rw [answers_of_other others.1]
      exact silent
    · intro operation
      rw [met_of_not_called (touch?_ne_called others.1 key.backend operation)]
      exact unmet operation

/-- A schedule may be taken up at its first turn about a resource. -/
theorem exists_first (h : t.Sound) (g : Gateway) {turn : Turn} {rest : List Turn}
    (first : turns.filter (Turn.isAbout key) = turn :: rest) :
    ∃ (there : Traffic Park Flight) (after : List Turn), there.Sound ∧ AgreeOn key there t ∧
      after.filter (Turn.isAbout key) = rest ∧ play g turns t = play g (turn :: after) there ∧
      answers g key turns t = answers g key (turn :: after) there ∧
      ∀ operation, met g key operation turns t = met g key operation (turn :: after) there := by
  obtain ⟨before, after, rfl, others, _, same⟩ := List.filter_eq_cons_iff.mp first
  obtain ⟨left, silent, unmet⟩ := play_of_others h g fun turn mem => Turn.isAbout_iff.not.mp (others turn mem)
  refine ⟨Traffic.play g before t, after, h.play g before, left, same, play_append before _ t, ?_, fun operation => ?_⟩
  · unfold answers at silent ⊢
    rw [notes_append, silent, List.nil_append]
  · have none := unmet operation
    unfold met at none ⊢
    rw [notes_append, none, List.nil_append]

/-- Two schedules with the same turns about a resource, in which its calls meet the same failures, show the same for it
and leave the same of it. -/
theorem AgreeOn.play (agree : AgreeOn key t t') (sound : t.Sound) (sound' : t'.Sound) (g : Gateway)
    (same : turns.filter (Turn.isAbout key) = turns'.filter (Turn.isAbout key))
    (meets : ∀ operation n, (met g key operation turns t).getD n none = (met g key operation turns' t').getD n none) :
    answers g key turns t = answers g key turns' t' ∧ AgreeOn key (play g turns t) (play g turns' t') := by
  induction turns generalizing t t' turns' with
  | nil =>
    have others : ∀ turn ∈ turns', turn.key? ≠ some key := by
      intro turn mem
      exact Turn.isAbout_iff.not.mp (List.filter_eq_nil_iff.mp same.symm turn mem)
    obtain ⟨left, silent, _⟩ := play_of_others sound' g others
    exact ⟨silent.symm, agree.trans left.symm⟩
  | cons turn turns ih =>
    by_cases about : turn.key? = some key
    · rw [List.filter_cons_of_pos (Turn.isAbout_iff.mpr about)] at same
      obtain ⟨there, after, here, left, rest, played, told, met'⟩ := exists_first sound' g same.symm
      have agree' := agree.trans left.symm
      have touched (operation : String) := agree'.touch? about key.backend operation
      simp only [met'] at meets
      obtain ⟨shown, agree''⟩ := agree'.act sound here g about fun operation called => by
        have first := meets operation 0
        rw [met_of_called called, met_of_called (touched operation ▸ called)] at first
        exact first
      obtain ⟨later, last⟩ := ih agree'' (sound.act g turn) (here.act g turn) rest.symm fun operation n => by
        by_cases called : turn.touch? key.backend operation t = some (.called key)
        · have next := meets operation (n + 1)
          rw [met_of_called called, met_of_called (touched operation ▸ called)] at next
          exact next
        · have next := meets operation n
          rw [met_of_not_called called, met_of_not_called (touched operation ▸ called)] at next
          exact next
      rw [told, played, answers_of_about about, answers_of_about about, shown, later]
      exact ⟨rfl, last⟩
    · rw [List.filter_cons_of_neg (Turn.isAbout_iff.not.mpr about)] at same
      have kept := agreeOn_act sound g about
      obtain ⟨later, last⟩ := ih (kept.trans agree) (sound.act g turn) sound' same fun operation n => by
        have next := meets operation n
        rw [met_of_not_called (touch?_ne_called about key.backend operation)] at next
        exact next
      rw [answers_of_other about]
      exact ⟨later, last⟩

/-! ## One backend -/

theorem AgreeAt.trans {backend : String} {t'' : Traffic Park Flight} (h : AgreeAt backend t t')
    (h' : AgreeAt backend t' t'') : AgreeAt backend t t'' where
  registered := h.registered.trans h'.registered
  target := h.target.trans h'.target
  guards := fun key own => (h.guards key own).trans (h'.guards key own)
  jobs := fun key own => (h.jobs key own).trans (h'.jobs key own)

/-- Two desks agree at a backend exactly if they agree on each of its resources and on its planned failures. -/
theorem agreeAt_iff (h : t.Sound) (h' : t'.Sound) {backend : String} :
    AgreeAt backend t t' ↔ (∀ key : ResourceKey, key.backend = backend → AgreeOn key t t') ∧
      ∀ operation, t.desk.fleet.failure? backend operation = t'.desk.fleet.failure? backend operation := by
  constructor
  · intro agree
    refine ⟨?_, fun operation => ?_⟩
    · rintro key rfl
      refine ⟨agree.guards key rfl, ?_, agree.jobs key rfl⟩
      unfold Park.corner
      rw [agree.target, agree.registered]
    · unfold Park.failure?
      rw [agree.registered]
  · rintro ⟨keys, failures⟩
    refine ⟨?_, ?_, fun key own => (keys key own).guard, fun key own => (keys key own).jobs⟩
    · exact Park.get?_of_corners h.simulated h'.simulated (fun key own => (keys key own).corner) failures
    · exact congrArg Corner.target (keys ⟨backend, .server, ""⟩ rfl).corner

theorem touch?_of_away (h : t.Sound) {turn : Turn} {backend : String} (away : turn.backend ≠ backend)
    (operation : String) : turn.touch? backend operation t = none := by
  cases turn with
  | demand | inspect => rfl
  | resume key place =>
    refine Option.bind_eq_none_iff.mpr fun flight on_its_way => if_neg fun called => away ?_
    obtain ⟨job, there, flies⟩ := Option.bind_eq_some_iff.mp on_its_way
    obtain ⟨id, _, rfl⟩ := Option.map_eq_some_iff.mp (h.key_flight there flies)
    exact called.1
  | plan id name e => exact if_neg fun own => away own.1

/-- A turn at one backend leaves all others as they are. -/
theorem agreeAt_act (h : t.Sound) (g : Gateway) {turn : Turn} {backend : String} (away : turn.backend ≠ backend) :
    AgreeAt backend (act g turn t).2 t := by
  refine (agreeAt_iff (h.act g turn) h).mpr ⟨?_, fun operation => ?_⟩
  · rintro key rfl
    exact agreeOn_act h g fun about => away (Turn.backend_of_key about)
  · rw [failure?_act h, touch?_of_away h away]
    rfl

/-- A turn at a backend shows the same and leaves the same of it where everything about the backend is the same. -/
theorem AgreeAt.act {turn : Turn} (agree : AgreeAt turn.backend t t') (sound : t.Sound) (sound' : t'.Sound)
    (g : Gateway) :
    (Traffic.act g turn t).1 = (Traffic.act g turn t').1 ∧
      AgreeAt turn.backend (Traffic.act g turn t).2 (Traffic.act g turn t').2 := by
  obtain ⟨keys, failures⟩ := (agreeAt_iff sound sound').mp agree
  have touched (operation : String) :
      turn.touch? turn.backend operation t = turn.touch? turn.backend operation t' := by
    rcases about : turn.key? with _ | key
    · cases turn with
      | plan => rfl
      | demand | resume | inspect => cases about
    · exact (keys key (Turn.backend_of_key about).symm).touch? about turn.backend operation
  have own (key : ResourceKey) (about : turn.key? = some key) :=
    (keys key (Turn.backend_of_key about).symm).act sound sound' g about fun operation _ =>
      Turn.backend_of_key about ▸ failures operation
  refine ⟨?_, (agreeAt_iff (sound.act g turn) (sound'.act g turn)).mpr ⟨fun key at_backend => ?_, fun operation => ?_⟩⟩
  · rcases about : turn.key? with _ | key
    · cases turn with
      | plan => rfl
      | demand | resume | inspect => cases about
    · exact (own key about).1
  · by_cases about : turn.key? = some key
    · exact (own key about).2
    · exact (agreeOn_act sound g about).trans ((keys key at_backend).trans (agreeOn_act sound' g about).symm)
  · have there : t.desk.fleet.profile? turn.backend = t'.desk.fleet.profile? turn.backend := by
      unfold Park.profile?
      rw [agree.registered]
    rw [failure?_act sound g turn, failure?_act sound' g turn, touched operation, failures operation, there]

/-- What goes on at a backend is the same without all turns at others. -/
theorem AgreeAt.play {backend : String} (agree : AgreeAt backend t t') (sound : t.Sound) (sound' : t'.Sound)
    (g : Gateway) (turns : List Turn) :
    (∀ key : ResourceKey, key.backend = backend →
      answers g key turns t = answers g key (turns.filter (Turn.isAt backend)) t') ∧
    AgreeAt backend (play g turns t) (play g (turns.filter (Turn.isAt backend)) t') := by
  induction turns generalizing t t' with
  | nil => exact ⟨fun _ _ => rfl, agree⟩
  | cons turn turns ih =>
    by_cases here : turn.backend = backend
    · subst here
      rw [List.filter_cons_of_pos (Turn.isAt_iff.mpr rfl)]
      obtain ⟨shown, after⟩ := agree.act sound sound' g
      obtain ⟨told, last⟩ := ih after (sound.act g turn) (sound'.act g turn)
      refine ⟨fun key at_backend => ?_, last⟩
      by_cases about : turn.key? = some key
      · rw [answers_of_about about, answers_of_about about, shown, told key at_backend]
      · rw [answers_of_other about, answers_of_other about, told key at_backend]
    · rw [List.filter_cons_of_neg (Turn.isAt_iff.not.mpr here)]
      have kept := agreeAt_act sound g here
      obtain ⟨told, last⟩ := ih (kept.trans agree) (sound.act g turn) sound'
      refine ⟨?_, last⟩
      rintro key rfl
      rw [answers_of_other fun about => here (Turn.backend_of_key about)]
      exact told key rfl

/-! ## All resources -/

theorem ids_play (h : t.Sound) : (play g turns t).desk.fleet.ids = t.desk.fleet.ids := by
  induction turns generalizing t with
  | nil => rfl
  | cons turn turns ih => exact (ih (h.act g turn)).trans (h.ids_act g turn)

/-- Two desks are the same if they are as far as each resource and each planned failure goes. -/
theorem desk_eq (h : t.Sound) (h' : t'.Sound) (keys : ∀ key, AgreeOn key t t')
    (failures : ∀ backend operation, t.desk.fleet.failure? backend operation = t'.desk.fleet.failure? backend operation)
    (ids : t.desk.fleet.ids = t'.desk.fleet.ids) : t.desk = t'.desk := by
  have guards : t.desk.guards.entries = t'.desk.guards.entries :=
    Std.ExtTreeMap.ext_getElem? fun key => (keys key).guard
  have fleet := Park.eq_of_corners h.simulated h'.simulated (fun key => (keys key).corner) failures ids
  obtain ⟨⟨⟨_⟩, _⟩, _⟩ := t
  obtain ⟨⟨⟨_⟩, _⟩, _⟩ := t'
  cases guards
  cases fleet
  rfl

end

/-- **Isolation.** A gateway before simulated backends has come to some desk, with some jobs that wait to go on.

1. The turns about each resource come in their order, interleaved in two ways, and in between failures are planned. For
   each operation of a backend for which a failure was planned before or is planned now, if there is any, both schedules
   have the same order of the plans and of the calls of that operation that land. Then each turn shows the same in both,
   and both leave the same desk, with all guards, resources and planned failures, and the same jobs.
2. What goes on at a backend goes on in the same way without all turns at others, and from any desk that is the same as
   far as this backend goes. So turns at one backend neither read nor change another, whatever the kinds and ids of the
   resources there. -/
theorem interleavings_agree (g : Gateway) (t : Traffic Park Flight) (reached : Reached g t) :
    (∀ turns turns' : List Turn,
      (∀ key, turns.filter (Turn.isAbout key) = turns'.filter (Turn.isAbout key)) →
      (∀ backend operation,
        t.desk.fleet.failure? backend operation ≠ none ∨ (∃ e, .plan backend operation e ∈ turns ++ turns') →
          touches g backend operation turns t = touches g backend operation turns' t) →
      (∀ key, answers g key turns t = answers g key turns' t) ∧ (play g turns t).desk = (play g turns' t).desk ∧
        ∀ key, (play g turns t).about key = (play g turns' t).about key) ∧
    ∀ (backend : String) (t' : Traffic Park Flight), Reached g t' → AgreeAt backend t t' → ∀ turns : List Turn,
      (∀ key : ResourceKey, key.backend = backend →
        answers g key turns t = answers g key (turns.filter (Turn.isAt backend)) t') ∧
      AgreeAt backend (play g turns t) (play g (turns.filter (Turn.isAt backend)) t') := by
  have sound := reached.sound
  refine ⟨?_, fun backend t' reached' agree turns => agree.play sound reached'.sound g turns⟩
  intro turns turns' same ordered
  have failures (backend operation : String) :
      (play g turns t).desk.fleet.failure? backend operation =
          (play g turns' t).desk.fleet.failure? backend operation ∧
        ∀ key : ResourceKey, key.backend = backend → ∀ n,
          (met g key operation turns t).getD n none = (met g key operation turns' t).getD n none := by
    by_cases injected : t.desk.fleet.failure? backend operation ≠ none ∨
        ∃ e, .plan backend operation e ∈ turns ++ turns'
    · have touched := ordered backend operation injected
      refine ⟨?_, ?_⟩
      · rw [failure?_play sound, failure?_play sound, touched]
      · rintro key rfl n
        rw [met_eq_replies sound, met_eq_replies sound, touched]
    · obtain ⟨free, unplanned⟩ := not_or.mp injected
      have free := not_not.mp free
      obtain ⟨last, silent⟩ := unmet sound g turns free fun e mem =>
        unplanned ⟨e, List.mem_append_left _ mem⟩
      obtain ⟨last', silent'⟩ := unmet sound g turns' free fun e mem =>
        unplanned ⟨e, List.mem_append_right _ mem⟩
      exact ⟨last.trans last'.symm, fun key own n => (silent key own n).trans (silent' key own n).symm⟩
  have each (key : ResourceKey) := (AgreeOn.refl key t).play sound sound g (same key) fun operation n =>
    (failures key.backend operation).2 key rfl n
  refine ⟨fun key => (each key).1, ?_, fun key => (each key).2.jobs⟩
  exact desk_eq (sound.play g turns) (sound.play g turns') (fun key => (each key).2)
    (fun backend operation => (failures backend operation).1) ((ids_play sound).trans (ids_play sound).symm)

end Traffic

namespace Neighbours

open Traffic

/-- The plain profile, for two backends. -/
def profiles : List Profile := [Profile.mock.withId "east", Profile.mock.withId "west"]

/-- The park of the two. -/
def park : Park :=
  match Park.mount profiles 0 with
  | .ok park => park
  | .error _ => ⟨.empty, .empty, ⟨0, 0⟩⟩

theorem new_park : park.registry.New := by
  unfold park
  split
  · next mounted => exact Park.new_of_mount mounted
  · exact Registry.new_empty

/-- A gateway before that park. -/
def gateway : Gateway :=
  ⟨.standard, park.normalizer, Gateway.standardTimeout, .standard, Gateway.standardTimeout_pos,
    PollingPlan.maxAttempts_standard_pos⟩

/-- The server that goes by the same id at both backends. -/
def server (backend : String) : ResourceKey := ⟨backend, .server, "1"⟩

/-- A backend with that server in it. -/
def stocked (backend : String) : SimulatedBackend :=
  (SimulatedBackend.new (Profile.mock.withId backend)).insert (server backend).ref "running"

/-- The park with the server in both backends. -/
def inhabited : Park := (park.put "east" (stocked "east")).put "west" (stocked "west")

/-- The gateway before the inhabited park. -/
def morning : Traffic Park Flight := (run gateway [.drift inhabited] (begin ⟨.empty, park⟩)).2

theorem id_stocked (backend : String) : (stocked backend).profile.id = backend := rfl

theorem simulated_inhabited : inhabited.Simulated :=
  (new_park.simulated.set (id_stocked "east")).set (id_stocked "west")

theorem reached_morning : Reached gateway morning := by
  unfold morning
  refine ⟨⟨.empty, park⟩, [.drift inhabited], new_park.simulated, ?_, rfl⟩
  intro fleet mem
  cases List.mem_singleton.mp mem
  exact simulated_inhabited

/-- The server of a backend is stopped. -/
def stops (backend : String) : List Turn :=
  [.demand (server backend) (.dispatch ⟨backend, .server, "1", "stop", .none, .null⟩) rfl, .resume (server backend) 0,
    .resume (server backend) 0]

/-- A failure is planned for the next stop of a server at the one backend. -/
def trouble : Turn := .plan "east" "stop_instance" (.network "down")

/-- The one server is stopped after the other. -/
def inTurn : List Turn := trouble :: (stops "east" ++ stops "west")

/-- Both are stopped at the same time. -/
def together : List Turn := trouble :: ((stops "west").zip (stops "east")).flatMap fun pair => [pair.1, pair.2]

theorem same_turns (key : ResourceKey) : inTurn.filter (Turn.isAbout key) = together.filter (Turn.isAbout key) := by
  by_cases east : server "east" = key
  · subst east
    rfl
  · by_cases west : server "west" = key
    · subst west
      rfl
    · simp [inTurn, together, stops, trouble, Turn.isAbout, Turn.key?, east, west]

theorem failure?_morning (backend operation : String) : morning.desk.fleet.failure? backend operation = none := by
  show inhabited.failure? backend operation = none
  unfold inhabited
  rw [Park.failure?_put, Park.failure?_put]
  split
  · exact Std.ExtTreeMap.getElem?_empty
  · split
    · exact Std.ExtTreeMap.getElem?_empty
    · exact Park.failure?_of_new new_park backend operation

/-- The failure that is planned for the one server does not strike the other, whichever of them comes first. -/
theorem stopped_apart :
    (play gateway together morning).desk = (play gateway inTurn morning).desk ∧
      answers gateway (server "west") together morning = answers gateway (server "west") inTurn morning ∧
      (play gateway together morning).desk.fleet.rawStatus? (server "east") = some "running" ∧
      (play gateway together morning).desk.fleet.rawStatus? (server "west") = some "stopping" := by
  obtain ⟨told, desk, _⟩ := (interleavings_agree gateway morning reached_morning).1 together inTurn
    (fun key => (same_turns key).symm) (by
      rintro backend operation (planned | ⟨e, planned⟩)
      · exact absurd (failure?_morning backend operation) planned
      · obtain ⟨rfl, rfl, _⟩ : backend = "east" ∧ operation = "stop_instance" ∧ e = .network "down" := by
          simpa [inTurn, together, stops, trouble] using planned
        decide +kernel)
  have statuses : (play gateway inTurn morning).desk.fleet.rawStatus? (server "east") = some "running" ∧
      (play gateway inTurn morning).desk.fleet.rawStatus? (server "west") = some "stopping" := by decide +kernel
  rw [desk]
  exact ⟨rfl, told (server "west"), statuses⟩

end Neighbours

end CloudLifecycle
