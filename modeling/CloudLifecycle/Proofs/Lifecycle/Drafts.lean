import CloudLifecycle.Lifecycle.Machine
import CloudLifecycle.Proofs.Text.Folded

/-!
# From drafts to machines

A list of transitions is sound if every action in it has a name, nothing moves by itself to where it is, and neither an
action nor progress leads from one state to two (`Sound`). What makes one more transition break that is its fault
(`Faulty`). Both are read off the list alone.

1. A list is sound, or it has a first transition at fault (`sound_or_faulty`).
2. A machine takes every transition that is not at fault, and keeps it if it is new (`add_of_right`); so the machine of
   a sound list has what is declared there, each transition where it stands first (`build_of_sound`).
3. A transition at fault is refused with that fault, whatever follows it (`add_of_faulty`, `build_of_faulty`).

`build_decided` puts these together: it says of every draft what comes of it.
-/

namespace CloudLifecycle

namespace Transition

/-! ## Sound lists and faults -/

/-- What a machine can be built from. -/
structure Sound (ts : List Transition) : Prop where
  /-- Every action has a name. -/
  named : ∀ {source name target}, ⟨source, .action name, target⟩ ∈ ts → Text.trim name ≠ ""
  /-- Progress leads somewhere else. -/
  moving : ∀ {source target}, ⟨source, .automatic, target⟩ ∈ ts → source ≠ target
  /-- Neither an action nor progress leads from one state to two. -/
  single : ∀ {source trigger target target'}, ⟨source, trigger, target⟩ ∈ ts →
    ⟨source, trigger, target'⟩ ∈ ts → target = target'

/-- What is wrong with a transition that is declared after others. -/
inductive Faulty (kind : ResourceKind) (earlier : List Transition) : Transition → MachineFault → Prop
  | blank {source name target} (blank : Text.trim name = "") :
    Faulty kind earlier ⟨source, .action name, target⟩ (.blankAction kind source)
  | twoTargets {source name target first} (named : Text.trim name ≠ "")
      (there : ⟨source, .action name, first⟩ ∈ earlier) (apart : first ≠ target) :
    Faulty kind earlier ⟨source, .action name, target⟩ (.ambiguousAction kind name source first target)
  | selfLoop {state} : Faulty kind earlier ⟨state, .automatic, state⟩ (.selfLoop kind state)
  | twoSuccessors {source target first} (moving : source ≠ target)
      (there : ⟨source, .automatic, first⟩ ∈ earlier) (apart : first ≠ target) :
    Faulty kind earlier ⟨source, .automatic, target⟩ (.ambiguousProgress kind source first target)

section

variable {kind : ResourceKind} {ts ts' : List Transition} {t : Transition} {fault : MachineFault}

theorem sound_nil : Sound [] where
  named h := nomatch h
  moving h := nomatch h
  single h := nomatch h

/-- It does not matter in which order the transitions stand and how often, and fewer do no harm. -/
theorem Sound.mono (within : ∀ t ∈ ts', t ∈ ts) (h : Sound ts) : Sound ts' where
  named mem := h.named (within _ mem)
  moving mem := h.moving (within _ mem)
  single mem mem' := h.single (within _ mem) (within _ mem')

theorem Faulty.mono (within : ∀ t ∈ ts, t ∈ ts') (h : Faulty kind ts t fault) : Faulty kind ts' t fault := by
  cases h with
  | blank blank => exact .blank blank
  | twoTargets named there apart => exact .twoTargets named (within _ there) apart
  | selfLoop => exact .selfLoop
  | twoSuccessors moving there apart => exact .twoSuccessors moving (within _ there) apart

/-- No transition of a sound list is at fault after those before it. -/
theorem Sound.right (h : Sound (ts ++ [t])) : ¬ Faulty kind ts t fault := by
  have last : t ∈ ts ++ [t] := List.mem_append_right ts (List.mem_singleton_self t)
  intro faulty
  cases faulty with
  | blank blank => exact h.named last blank
  | twoTargets _ there apart => exact apart (h.single (List.mem_append_left [_] there) last)
  | selfLoop => exact h.moving last rfl
  | twoSuccessors _ there apart => exact apart (h.single (List.mem_append_left [_] there) last)

/-- A transition that leads elsewhere than an earlier one is at fault, if not for that then for itself. -/
theorem exists_faulty (kind : ResourceKind) {source first target : LifecycleState} {trigger : Trigger}
    (there : ⟨source, trigger, first⟩ ∈ ts) (apart : first ≠ target) :
    ∃ fault, Faulty kind ts ⟨source, trigger, target⟩ fault := by
  cases trigger with
  | action name =>
    by_cases blank : Text.trim name = ""
    · exact ⟨_, .blank blank⟩
    · exact ⟨_, .twoTargets blank there apart⟩
  | automatic =>
    by_cases still : source = target
    · subst still
      exact ⟨_, .selfLoop⟩
    · exact ⟨_, .twoSuccessors still there apart⟩

/-- A sound list stays so with one more transition that is not at fault. -/
theorem Sound.concat (h : Sound ts) (right : ∀ fault, ¬ Faulty kind ts t fault) : Sound (ts ++ [t]) where
  named mem := by
    rcases List.mem_append.mp mem with mem | mem
    · exact h.named mem
    · cases List.mem_singleton.mp mem
      exact fun blank => right _ (.blank blank)
  moving mem := by
    rcases List.mem_append.mp mem with mem | mem
    · exact h.moving mem
    · cases List.mem_singleton.mp mem
      rintro rfl
      exact right _ .selfLoop
  single mem mem' := by
    -- one of the two is the new one: were they apart, it would be at fault
    have agree {source first target trigger} (there : ⟨source, trigger, first⟩ ∈ ts)
        (new : ⟨source, trigger, target⟩ = t) : first = target := by
      subst new
      by_contra apart
      obtain ⟨fault, faulty⟩ := exists_faulty kind there apart
      exact right fault faulty
    rcases List.mem_append.mp mem with mem | mem <;> rcases List.mem_append.mp mem' with mem' | mem'
    · exact h.single mem mem'
    · exact agree mem (List.mem_singleton.mp mem')
    · exact (agree mem' (List.mem_singleton.mp mem)).symm
    · exact congrArg target ((List.mem_singleton.mp mem).trans (List.mem_singleton.mp mem').symm)

/-- Every list that is not sound has a first transition at fault. -/
theorem sound_or_faulty (kind : ResourceKind) (ts : List Transition) :
    Sound ts ∨ ∃ before t after fault, ts = before ++ t :: after ∧ Sound before ∧ Faulty kind before t fault := by
  induction ts using List.reverseRecOn with
  | nil => exact .inl sound_nil
  | append_singleton ts t ih =>
    rcases ih with sound | ⟨before, u, after, fault, rfl, sound, faulty⟩
    · by_cases wrong : ∃ fault, Faulty kind ts t fault
      · obtain ⟨fault, faulty⟩ := wrong
        exact .inr ⟨ts, t, [], fault, rfl, sound, faulty⟩
      · exact .inl (sound.concat (not_exists.mp wrong))
    · exact .inr ⟨before, u, after ++ [t], fault, by simp, sound, faulty⟩

/-! ## Where a trigger leads -/

theorem mem_of_targetIn {source target : LifecycleState} {trigger : Trigger}
    (h : targetIn ts source trigger = some target) : ⟨source, trigger, target⟩ ∈ ts := by
  obtain ⟨t, found, rfl⟩ := Option.map_eq_some_iff.mp h
  have fits := List.find?_some found
  simp only [decide_eq_true_eq] at fits
  obtain ⟨rfl, rfl⟩ := fits
  exact List.mem_of_find?_eq_some found

theorem not_mem_of_targetIn {source target : LifecycleState} {trigger : Trigger}
    (h : targetIn ts source trigger = none) : ⟨source, trigger, target⟩ ∉ ts := by
  intro mem
  exact absurd (List.find?_eq_none.mp (Option.map_eq_none_iff.mp h) _ mem) (by simp)

/-- In a sound list a trigger leads where it is declared to lead. -/
theorem Sound.targetIn_eq_some_iff (h : Sound ts) {source target : LifecycleState} {trigger : Trigger} :
    targetIn ts source trigger = some target ↔ ⟨source, trigger, target⟩ ∈ ts := by
  refine ⟨mem_of_targetIn, fun mem => ?_⟩
  cases found : targetIn ts source trigger with
  | none => exact absurd mem (not_mem_of_targetIn found)
  | some first => rw [h.single (mem_of_targetIn found) mem]

/-- What is declared last is kept if it is new. -/
theorem eraseDups_concat (ts : List Transition) (t : Transition) :
    (ts ++ [t]).eraseDups = if t ∈ ts then ts.eraseDups else ts.eraseDups ++ [t] := by
  rw [List.eraseDups_append]
  by_cases mem : t ∈ ts <;> simp [List.removeAll, List.eraseDups_cons, mem]

end

end Transition

namespace Machine

open Transition

/-! ## One transition -/

section

variable {m : Machine} {t : Transition} {fault : MachineFault}

/-- A transition at fault is refused, and the fault names the target that was declared first. -/
theorem add_of_faulty (sound : Sound m.transitions) (h : Faulty m.kind m.transitions t fault) :
    m.add t = .error fault := by
  cases h with
  | blank blank => simp [add, (Text.trim_eq_empty_iff _).mp blank]
  | @twoTargets source name target first named there apart =>
    have leads : m.target? source name = some first := by rw [target?_eq, sound.targetIn_eq_some_iff.mpr there]
    have visible : ¬ Text.isBlankText name = true := mt (Text.trim_eq_empty_iff _).mpr named
    simp only [add, if_neg visible]
    split
    · next earlier found =>
      rw [leads, Option.some.injEq] at found
      rw [← found, if_neg apart]
    · next none => exact absurd (leads.symm.trans none) (by simp)
  | selfLoop => simp [add]
  | @twoSuccessors source target first moving there apart =>
    have leads : m.successor? source = some first := by rw [successor?_eq, sound.targetIn_eq_some_iff.mpr there]
    simp only [add, if_neg moving]
    split
    · next earlier found =>
      rw [leads, Option.some.injEq] at found
      rw [← found, if_neg apart]
    · next none => exact absurd (leads.symm.trans none) (by simp)

/-- A transition that is not at fault is taken, and kept if the machine has none like it. -/
theorem add_of_right (right : ∀ fault, ¬ Faulty m.kind m.transitions t fault) :
    ∃ m', m.add t = .ok m' ∧ m'.kind = m.kind ∧ m'.initial = m.initial ∧
      m'.transitions = if t ∈ m.transitions then m.transitions else m.transitions ++ [t] := by
  obtain ⟨source, trigger, target⟩ := t
  -- an earlier target is the declared one, or the transition would be at fault
  have agrees {first} (there : ⟨source, trigger, first⟩ ∈ m.transitions) : first = target := by
    by_contra apart
    obtain ⟨fault, faulty⟩ := exists_faulty m.kind there apart
    exact right fault faulty
  cases trigger with
  | action name =>
    have visible : ¬ Text.isBlankText name = true := fun blank => right _ (.blank ((Text.trim_eq_empty_iff _).mpr blank))
    simp only [add, if_neg visible]
    split
    · next earlier found =>
      rw [target?_eq] at found
      cases agrees (mem_of_targetIn found)
      exact ⟨m, if_pos rfl, rfl, rfl, (if_pos (mem_of_targetIn found)).symm⟩
    · next new =>
      refine ⟨_, rfl, rfl, rfl, ?_⟩
      rw [target?_eq] at new
      rw [if_neg (not_mem_of_targetIn new), addAction]
  | automatic =>
    have moving : source ≠ target := by
      rintro rfl
      exact right _ .selfLoop
    simp only [add, if_neg moving]
    split
    · next earlier found =>
      rw [successor?_eq] at found
      cases agrees (mem_of_targetIn found)
      exact ⟨m, if_pos rfl, rfl, rfl, (if_pos (mem_of_targetIn found)).symm⟩
    · next new =>
      refine ⟨_, rfl, rfl, rfl, ?_⟩
      rw [successor?_eq] at new
      rw [if_neg (not_mem_of_targetIn new), addProgress]

end

/-! ## A whole draft -/

/-- A machine has what a draft declares: every transition once, where it stands first. -/
structure Declared (m : Machine) (d : MachineDraft) : Prop where
  kind : m.kind = d.kind
  initial : m.initial = d.initial
  transitions : m.transitions = d.transitions.eraseDups

section

variable {m m' : Machine} {d : MachineDraft} {kind : ResourceKind} {initial : LifecycleState}

theorem Declared.mem_transitions (h : m.Declared d) (t : Transition) : t ∈ m.transitions ↔ t ∈ d.transitions := by
  rw [h.transitions, List.mem_eraseDups]

theorem Declared.eq (h : m.Declared d) (h' : m'.Declared d) : m = m' :=
  eq_of_transitions (h.kind.trans h'.kind.symm) (h.initial.trans h'.initial.symm)
    (h.transitions.trans h'.transitions.symm)

theorem build_append (before after : List Transition) :
    build ⟨kind, initial, before ++ after⟩ = build ⟨kind, initial, before⟩ >>= fun m => after.foldlM add m :=
  List.foldlM_append

/-- A sound list makes a machine, which has what is declared there. -/
theorem build_of_sound (kind : ResourceKind) (initial : LifecycleState) {ts : List Transition} (sound : Sound ts) :
    ∃ m, build ⟨kind, initial, ts⟩ = .ok m ∧ m.Declared ⟨kind, initial, ts⟩ := by
  induction ts using List.reverseRecOn with
  | nil => exact ⟨bare kind initial, rfl, rfl, rfl, rfl⟩
  | append_singleton ts t ih =>
    obtain ⟨m, built, declared⟩ := ih (sound.mono fun _ mem => List.mem_append_left [t] mem)
    have right : ∀ fault, ¬ Faulty m.kind m.transitions t fault := fun fault faulty =>
      sound.right (faulty.mono fun u => (declared.mem_transitions u).mp)
    obtain ⟨m', added, sameKind, sameInitial, transitions⟩ := add_of_right right
    refine ⟨m', ?_, sameKind.trans declared.kind, sameInitial.trans declared.initial, ?_⟩
    · rw [build_append, built]
      show [t].foldlM add m = .ok m'
      rw [List.foldlM_cons, added]
      rfl
    · rw [transitions, eraseDups_concat, ← declared.transitions]
      simp only [declared.mem_transitions]

/-- The first transition at fault decides, whatever follows it. -/
theorem build_of_faulty (initial : LifecycleState) (after : List Transition) {before : List Transition} {t : Transition}
    {fault : MachineFault} (sound : Sound before) (faulty : Faulty kind before t fault) :
    build ⟨kind, initial, before ++ t :: after⟩ = .error fault := by
  obtain ⟨m, built, declared⟩ := build_of_sound kind initial sound
  have refused : m.add t = .error fault := by
    refine add_of_faulty (sound.mono fun u => (declared.mem_transitions u).mp) ?_
    rw [declared.kind]
    exact faulty.mono fun u => (declared.mem_transitions u).mpr
  rw [build_append, built]
  show (t :: after).foldlM add m = .error fault
  rw [List.foldlM_cons, refused]
  rfl

theorem build_eq_ok_iff : build d = .ok m ↔ Sound d.transitions ∧ m.Declared d := by
  constructor
  · intro built
    rcases sound_or_faulty d.kind d.transitions with sound | ⟨before, t, after, fault, same, sound, faulty⟩
    · obtain ⟨m', built', declared⟩ := build_of_sound d.kind d.initial sound
      cases built.symm.trans built'
      exact ⟨sound, declared⟩
    · have refused := build_of_faulty d.initial after sound faulty
      rw [← same] at refused
      cases built.symm.trans refused
  · rintro ⟨sound, declared⟩
    obtain ⟨m', built, declared'⟩ := build_of_sound d.kind d.initial sound
    rw [declared.eq declared']
    exact built

theorem build_eq_error_iff {fault : MachineFault} :
    build d = .error fault ↔ ∃ before t after, d.transitions = before ++ t :: after ∧ Sound before ∧
      Faulty d.kind before t fault := by
  constructor
  · intro refused
    rcases sound_or_faulty d.kind d.transitions with sound | ⟨before, t, after, first, same, sound, faulty⟩
    · obtain ⟨m, built, _⟩ := build_of_sound d.kind d.initial sound
      cases refused.symm.trans built
    · have decides := build_of_faulty d.initial after sound faulty
      rw [← same] at decides
      cases refused.symm.trans decides
      exact ⟨before, t, after, same, sound, faulty⟩
  · rintro ⟨before, t, after, same, sound, faulty⟩
    obtain ⟨kind, initial, ts⟩ := d
    cases same
    exact build_of_faulty _ _ sound faulty

/-- **What comes of a draft.** For every kind, initial state and list of declared transitions:

1. a machine is built exactly if no declared action is blank, no progress leads to where it starts, and neither an action
nor progress leads from one state to two;
2. it is the one machine that has the kind and the initial state of the draft and, in the order of their first
declarations, its transitions without repetitions;
3. the draft is refused with a fault exactly if that is the fault of its first transition that is blank, leads by itself
to where it starts or leads elsewhere than an earlier one; then the fault names the earlier target and the new one. -/
theorem build_decided (d : MachineDraft) :
    ((∃ m, build d = .ok m) ↔ Sound d.transitions) ∧
    (∀ m, build d = .ok m ↔ Sound d.transitions ∧ m.Declared d) ∧
    (∀ fault, build d = .error fault ↔ ∃ before t after, d.transitions = before ++ t :: after ∧ Sound before ∧
      Faulty d.kind before t fault) := by
  refine ⟨⟨?_, fun sound => ?_⟩, fun m => build_eq_ok_iff, fun fault => build_eq_error_iff⟩
  · rintro ⟨m, built⟩
    exact (build_eq_ok_iff.mp built).1
  · obtain ⟨m, built, _⟩ := build_of_sound d.kind d.initial sound
    exact ⟨m, built⟩

end

end Machine

end CloudLifecycle
