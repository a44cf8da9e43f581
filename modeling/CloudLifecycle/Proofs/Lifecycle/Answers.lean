import CloudLifecycle.Lifecycle.Catalog
import CloudLifecycle.Proofs.Lifecycle.Drafts

/-!
# What a machine answers

A machine answers some questions from its transitions and others from its tables, but all of them speak of the one
relation that its draft declares (`reflects_of_build`). Two drafts that declare the same transitions, in whatever order
and however often, both make a machine or both make none (`builds_of_rearranged`), and the two machines cannot be told
apart by asking (`Reflects.alike`).

`answers_declared` puts these together.
-/

namespace CloudLifecycle

open Transition

/-- The same transitions under the same kind and initial state, in whatever order and each of them once or more often. -/
structure MachineDraft.Rearranged (d d' : MachineDraft) : Prop where
  kind : d.kind = d'.kind
  initial : d.initial = d'.initial
  transitions : ∀ t, t ∈ d.transitions ↔ t ∈ d'.transitions

theorem MachineDraft.Rearranged.symm {d d' : MachineDraft} (h : d.Rearranged d') : d'.Rearranged d :=
  ⟨h.kind.symm, h.initial.symm, fun t => (h.transitions t).symm⟩

namespace Machine

/-- All answers of a machine follow from the transitions that its draft declares. -/
structure Reflects (m : Machine) (d : MachineDraft) : Prop where
  target : ∀ s action t, m.target? s action = some t ↔ ⟨s, .action action, t⟩ ∈ d.transitions
  successor : ∀ s t, m.successor? s = some t ↔ ⟨s, .automatic, t⟩ ∈ d.transitions
  ascending : ∀ s, (m.actionsFrom s).Pairwise (· < ·)
  actions : ∀ s action, action ∈ m.actionsFrom s ↔ ∃ t, m.target? s action = some t
  terminal : ∀ s, m.isTerminal s = true ↔ m.actionsFrom s = [] ∧ m.successor? s = none
  states : ∀ s, s ∈ m.states ↔ d.initial = s ∨ ∃ t ∈ d.transitions, t.source = s ∨ t.target = s
  settled : ∀ s, m.isSettled s = true ↔ s ∈ m.states ∧ m.successor? s = none

/-- Two machines that answer every question alike. -/
structure Alike (m m' : Machine) : Prop where
  target : ∀ s action, m.target? s action = m'.target? s action
  successor : ∀ s, m.successor? s = m'.successor? s
  actions : ∀ s, m.actionsFrom s = m'.actionsFrom s
  terminal : ∀ s, m.isTerminal s = m'.isTerminal s
  states : m.states = m'.states
  settled : ∀ s, m.isSettled s = m'.isSettled s

/-! ## One draft -/

section

variable {m m' : Machine} {d d' : MachineDraft}

/-- The machine of a draft answers what is declared there. -/
theorem reflects_of_build (built : build d = .ok m) : m.Reflects d := by
  obtain ⟨sound, declared⟩ := build_eq_ok_iff.mp built
  have kept : Sound m.transitions := sound.mono fun t => (declared.mem_transitions t).mp
  refine ⟨fun s action t => ?_, fun s t => ?_, m.pairwise_actionsFrom, fun s action => ?_, m.isTerminal_iff, fun s => ?_,
    m.isSettled_iff⟩
  · rw [target?_eq, kept.targetIn_eq_some_iff, declared.mem_transitions]
  · rw [successor?_eq, kept.targetIn_eq_some_iff, declared.mem_transitions]
  · rw [mem_actionsFrom, Option.isSome_iff_exists]
  · rw [mem_states, hasState_iff, declared.initial]
    simp only [declared.mem_transitions]

/-! ## Drafts that declare the same -/

/-- A draft makes a machine if one that declares the same does. -/
theorem builds_of_rearranged (same : d.Rearranged d') (built : build d = .ok m) : ∃ m', build d' = .ok m' := by
  have sound : Sound d'.transitions := (build_eq_ok_iff.mp built).1.mono fun t => (same.transitions t).mpr
  obtain ⟨m', built', _⟩ := build_of_sound d'.kind d'.initial sound
  exact ⟨m', built'⟩

/-- What reflects the same transitions cannot be told apart. -/
theorem Reflects.alike (same : d.Rearranged d') (h : m.Reflects d) (h' : m'.Reflects d') : m.Alike m' := by
  have target : ∀ s action, m.target? s action = m'.target? s action := fun s action =>
    Option.ext fun t => by rw [h.target, h'.target, same.transitions]
  have successor : ∀ s, m.successor? s = m'.successor? s := fun s =>
    Option.ext fun t => by rw [h.successor, h'.successor, same.transitions]
  have actions : ∀ s, m.actionsFrom s = m'.actionsFrom s := fun s =>
    (h.ascending s).eq_of_mem_iff (h'.ascending s) fun {action} => by rw [h.actions, h'.actions, target]
  have states : m.states = m'.states := by
    refine List.filter_congr fun s _ => Bool.eq_iff_iff.mpr ?_
    rw [← mem_states, ← mem_states, h.states, h'.states, same.initial]
    simp only [same.transitions]
  refine ⟨target, successor, actions, fun s => Bool.eq_iff_iff.mpr ?_, states, fun s => Bool.eq_iff_iff.mpr ?_⟩
  · rw [h.terminal, h'.terminal, actions, successor]
  · rw [h.settled, h'.settled, states, successor]

/-- **One relation behind all answers.** For every draft:

1. the machine that is built from it answers every question as its transitions are declared: an action or progress leads
to a state exactly if that is declared, the actions of a state are listed in ascending order and each once, a state is a
dead end exactly if nothing leads away from it, the states are the initial one and the ends of transitions, and those
of them that do not move by themselves are settled;
2. a draft that declares the same transitions in another order, or some of them more often, makes a machine exactly if
this one does, and the two machines answer every question alike. -/
theorem answers_declared (d : MachineDraft) :
    (∀ m, build d = .ok m → m.Reflects d) ∧
    (∀ d', d.Rearranged d' → ((∃ m, build d = .ok m) ↔ ∃ m', build d' = .ok m') ∧
      ∀ m m', build d = .ok m → build d' = .ok m' → m.Alike m') := by
  refine ⟨fun m => reflects_of_build, fun d' same => ⟨⟨?_, ?_⟩, fun m m' built built' => ?_⟩⟩
  · rintro ⟨m, built⟩
    exact builds_of_rearranged same built
  · rintro ⟨m', built'⟩
    exact builds_of_rearranged same.symm built'
  · exact (reflects_of_build built).alike same (reflects_of_build built')

/-- The machine for servers, written down backwards and then once more, is another one that answers alike. -/
theorem server_backwards :
    let d := Lifecycle.serverDraft
    let d' : MachineDraft := { d with transitions := d.transitions.reverse ++ d.transitions }
    ∃ m m', build d = .ok m ∧ build d' = .ok m' ∧ m ≠ m' ∧ m.Reflects d ∧ m.Alike m' := by
  intro d d'
  have built : build d = .ok ((build d).toOption.get (by decide +kernel)) := by decide +kernel
  have built' : build d' = .ok ((build d').toOption.get (by decide +kernel)) := by decide +kernel
  have same : d.Rearranged d' := ⟨rfl, rfl, fun t => by simp [d']⟩
  obtain ⟨reflects, rearranged⟩ := answers_declared d
  exact ⟨_, _, built, built', by decide +kernel, reflects _ built, (rearranged d' same).2 _ _ built built'⟩

end

end Machine

end CloudLifecycle
