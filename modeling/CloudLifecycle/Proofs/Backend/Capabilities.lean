import CloudLifecycle.Backend.Profile
import CloudLifecycle.Proofs.Status.Written

/-!
# Operations are told apart by their names

A backend declares an operation by a name, the action and the kind with an underscore between them. An action is any
text, with underscores and the names of kinds in it, and a kind may have an underscore in its name too. Still no two
operations have the same name (`Operation.name_inj`): both names end in an underscore and a kind, the shorter of these
endings is the end of the longer one, and no kind has a name for which that could be (`Operation.eq_of_ending_suffix`).

So what a set of names says about operations is as good as a set of operations. A name that is put in or taken out
changes the answer for its own operation only, and the last change of a name counts (`CapabilitySet.contains_changed`). A
profile supports what was declared for it and nothing else (`Profile.supports_built`).

`operations_apart` puts these together.
-/

namespace CloudLifecycle

/-! ## Names of operations -/

namespace Operation

/-- The end of the names of all operations on a kind. -/
def ending (kind : ResourceKind) : List Char := '_' :: kind.name.toList

theorem toList_name (o : Operation) : o.name.toList = o.action.toList ++ ending o.kind := by
  simp [name, ending]

/-- The ending of one kind is never the end of that of another. -/
theorem eq_of_ending_suffix {k l : ResourceKind} (h : ending k <:+ ending l) : k = l := by
  revert h
  cases k <;> cases l <;> decide

theorem name_inj {o p : Operation} (same : o.name = p.name) : o = p := by
  have whole : o.action.toList ++ ending o.kind = p.action.toList ++ ending p.kind := by
    rw [← toList_name, ← toList_name, same]
  have kinds : o.kind = p.kind := by
    have left : ending o.kind <:+ o.action.toList ++ ending o.kind := List.suffix_append ..
    have right : ending p.kind <:+ o.action.toList ++ ending o.kind := by
      rw [whole]
      exact List.suffix_append ..
    rcases List.suffix_or_suffix_of_suffix left right with ends | ends
    · exact eq_of_ending_suffix ends
    · exact (eq_of_ending_suffix ends).symm
  have actions : o.action = p.action := by
    rw [kinds] at whole
    exact String.toList_inj.mp (List.append_cancel_right whole)
  cases o
  cases p
  exact congr (congrArg mk kinds) actions

theorem name_eq_iff {o p : Operation} : o.name = p.name ↔ o = p :=
  ⟨name_inj, congrArg name⟩

/-- An action that ends like a kind does not pass for an operation on that kind. -/
example : name ⟨.loadBalancer, "stop_instance"⟩ ≠ name ⟨.server, "stop_instance_load_balancer"⟩ := by decide

end Operation

/-! ## Sets of names -/

namespace CapabilitySet

/-- A change of a set of names. -/
inductive Change where
  | insert (name : String)
  | erase (name : String)

/-- The name that is put in or taken out. -/
def Change.name : Change → String
  | insert name | erase name => name

/-- The set after a change. -/
def Change.apply (c : CapabilitySet) : Change → CapabilitySet
  | insert name => c.insert name
  | erase name => c.erase name

/-- The set after some changes, one after the other. -/
def changed (c : CapabilitySet) (changes : List Change) : CapabilitySet := changes.foldl Change.apply c

variable {c : CapabilitySet} {kind : ResourceKind} {action : String}

/-- The last change of a name decides whether it is there. -/
theorem contains_changed {changes : List Change} {name : String} :
    (c.changed changes).contains name = true ↔
      IsLast (·.name = name) changes (.insert name) ∨
        name ∉ changes.map Change.name ∧ c.contains name = true := by
  induction changes using List.reverseRecOn with
  | nil => simp [changed, not_isLast_nil]
  | append_singleton changes change ih =>
    rw [changed, List.foldl_concat, ← changed, isLast_concat, List.map_append, List.mem_append, List.map_singleton,
      List.mem_singleton]
    cases change with
    | insert new =>
      rw [Change.apply, contains_insert, ih]
      by_cases here : new = name <;> simp [Change.name, here, @eq_comm _ name]
    | erase old =>
      rw [Change.apply, contains_erase, ih]
      by_cases here : old = name <;> simp [Change.name, here, @eq_comm _ name]

theorem supports_insert_name (o : Operation) :
    (c.insert o.name).supports kind action = true ↔ o = ⟨kind, action⟩ ∨ c.supports kind action = true := by
  rw [supports, contains_insert, Operation.name_eq_iff, supports]

theorem supports_erase_name (o : Operation) :
    (c.erase o.name).supports kind action = true ↔ o ≠ ⟨kind, action⟩ ∧ c.supports kind action = true := by
  rw [supports, contains_erase, Ne, Operation.name_eq_iff, supports]

theorem supports_declare (k : ResourceKind) (actions : List String) :
    (c.declare k actions).supports kind action = true ↔ (k = kind ∧ action ∈ actions) ∨ c.supports kind action = true := by
  induction actions generalizing c with
  | nil => simp [declare]
  | cons first actions ih =>
    rw [declare, List.foldl_cons, ← declare, ih, supports_insert_name, Operation.mk.injEq, List.mem_cons, @eq_comm _ action]
    tauto

end CapabilitySet

/-! ## Profiles -/

namespace Profile

/-- One call on a profile that is being built. -/
inductive Call where
  | withId (id : String)
  | withDisplayName (name : String)
  | supports (kind : ResourceKind) (actions : List String)
  | createdAs (raw : String)
  | createdKindAs (kind : ResourceKind) (raw : String)
  | progress (source target : String)
  | reporting (action raw : String)

/-- The profile after a call. -/
def Call.apply (p : Profile) : Call → Profile
  | withId id => p.withId id
  | withDisplayName name => p.withDisplayName name
  | supports kind actions => p.supports kind actions
  | createdAs raw => p.createdAs raw
  | createdKindAs kind raw => p.createdKindAs kind raw
  | progress source target => p.progress source target
  | reporting action raw => p.reporting action raw

/-- The profile that is begun without operations and goes through some calls. -/
def built (id displayName : String) (table : StatusTable) (calls : List Call) : Profile :=
  calls.foldl Call.apply (new id displayName table)

/-- A profile supports what some call declared. -/
theorem supports_built {id displayName : String} {table : StatusTable} {calls : List Call} {kind : ResourceKind}
    {action : String} :
    (built id displayName table calls).capabilities.supports kind action = true ↔
      ∃ actions, .supports kind actions ∈ calls ∧ action ∈ actions := by
  induction calls using List.reverseRecOn with
  | nil => simp [built, new, CapabilitySet.supports, CapabilitySet.contains, CapabilitySet.empty]
  | append_singleton calls call ih =>
    rw [built, List.foldl_concat, ← built]
    cases call with
    | supports k actions =>
      rw [Call.apply, supports, CapabilitySet.supports_declare, ih]
      simp only [List.mem_append, List.mem_singleton, Call.supports.injEq]
      constructor
      · rintro (⟨rfl, mem⟩ | ⟨actions, declared, mem⟩)
        · exact ⟨actions, .inr ⟨rfl, rfl⟩, mem⟩
        · exact ⟨actions, .inl declared, mem⟩
      · rintro ⟨actions, declared | ⟨rfl, rfl⟩, mem⟩
        · exact .inr ⟨actions, declared, mem⟩
        · exact .inl ⟨rfl, mem⟩
    | withId | withDisplayName | createdAs | createdKindAs | progress | reporting => exact ih.trans (by simp)

end Profile

/-- **Operations are never confused.**

1. Two operations have the same name exactly if they have the same kind and the same action, whatever texts the actions are.
2. However a profile is built, it supports an action on a kind exactly if some call declared exactly that action for
exactly that kind.
3. After any changes of a set of names, an action on a kind is supported exactly if the last change of its name put it
in, or if it was there and no change had its name; and to put in or take out the name of an operation changes that for
its own action and kind only. -/
theorem operations_apart :
    (∀ k₁ k₂ a₁ a₂, Operation.name ⟨k₁, a₁⟩ = Operation.name ⟨k₂, a₂⟩ ↔ k₁ = k₂ ∧ a₁ = a₂) ∧
    (∀ id displayName table calls kind action,
      (Profile.built id displayName table calls).capabilities.supports kind action = true ↔
        ∃ actions, .supports kind actions ∈ calls ∧ action ∈ actions) ∧
    ∀ (c : CapabilitySet) changes kind action, let after := c.changed changes
      (after.supports kind action = true ↔
        IsLast (·.name = Operation.name ⟨kind, action⟩) changes (.insert (Operation.name ⟨kind, action⟩)) ∨
          Operation.name ⟨kind, action⟩ ∉ changes.map CapabilitySet.Change.name ∧ c.supports kind action = true) ∧
      ∀ k a,
        ((after.insert (Operation.name ⟨k, a⟩)).supports kind action = true ↔
          (k = kind ∧ a = action) ∨ after.supports kind action = true) ∧
        ((after.erase (Operation.name ⟨k, a⟩)).supports kind action = true ↔
          ¬ (k = kind ∧ a = action) ∧ after.supports kind action = true) := by
  refine ⟨fun k₁ k₂ a₁ a₂ => ?_, fun _ _ _ _ _ _ => Profile.supports_built, fun c changes kind action => ?_⟩
  · rw [Operation.name_eq_iff, Operation.mk.injEq]
  · refine ⟨CapabilitySet.contains_changed, fun k a => ?_⟩
    rw [← Operation.mk.injEq]
    exact ⟨CapabilitySet.supports_insert_name ⟨k, a⟩, CapabilitySet.supports_erase_name ⟨k, a⟩⟩

end CloudLifecycle
