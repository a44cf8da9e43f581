import CloudLifecycle.Proofs.Backend.Corners
import CloudLifecycle.Proofs.Status.Written

/-!
# Failures that are planned

A simulated backend is used by planning failures, by calls, by lookups and by putting resources there, in any order
(`Use`). Its failures are kept under names of operations, and all that counts of a history for a name is the last use
that is about it (`Use.IsAbout`): if that has planned a failure, it is there, and if it was a call, there is none
(`failures_after`).

1. A call is struck by a failure if that is its answer whatever resources there are, its own or none. This is so exactly
   if the failure stands under the name of its operation (`strikes_iff`).
2. A call that is struck changes nothing but the failures (`land_of_met`), and one that is not struck goes as if there
   were none (`land_withFailures`). In either case there is none for its operation afterwards (`failures_land`).
3. A use that is about another name goes as if the failure were not there, and leaves it there (`run_failNext`).

`failures_strike_once` puts these together.
-/

namespace CloudLifecycle

namespace SimulatedBackend

/-! ## Failures under their names -/

/-- The backend with other failures planned. -/
def withFailures (b : SimulatedBackend) (failures : Std.ExtTreeMap String BackendError) : SimulatedBackend :=
  { b with failures := failures }

/-- A call is struck by an error if it is answered with it whatever resources the backend has. -/
def Strikes (b : SimulatedBackend) (call : Call) (ids : IdSource) (e : BackendError) : Prop :=
  ∀ resources, (({ b with resources := resources } : SimulatedBackend).land call ids).1 = .error e

section

variable {b : SimulatedBackend} {call : Call} {ids : IdSource} {e : BackendError}

theorem invoke_withFailures (b : SimulatedBackend) (failures : Std.ExtTreeMap String BackendError)
    (operation : Operation) (id : String) :
    (b.withFailures failures).invoke operation id =
      ((b.invoke operation id).1, (b.invoke operation id).2.withFailures failures) := by
  simp only [invoke, withFailures]
  split
  · rfl
  · split <;> rfl

/-- A call that meets a failure is answered with it and lifts it. -/
theorem land_of_met (met : b.failures[call.operation.name]? = some e) :
    b.land call ids = (.error e, b.withFailures (b.failures.erase call.operation.name), ids) := by
  simp only [land, met]
  rfl

/-- A call that meets no failure goes in the same way whichever failures are planned for others. -/
theorem land_withFailures {failures : Std.ExtTreeMap String BackendError} (ids : IdSource)
    (unmet : b.failures[call.operation.name]? = none) (unmet' : failures[call.operation.name]? = none) :
    (b.withFailures failures).land call ids =
      ((b.land call ids).1, (b.land call ids).2.1.withFailures failures, (b.land call ids).2.2) := by
  have planned : (b.withFailures failures).failures = failures := rfl
  rcases named : call.resource with _ | id
  · simp only [land, planned, unmet, unmet', named]
    rfl
  · simp only [land, planned, unmet, unmet', named, invoke_withFailures]

/-- After a call nothing is planned for its operation; what is planned for others stays. -/
theorem failures_land (b : SimulatedBackend) (call : Call) (ids : IdSource) (operation : String) :
    (b.land call ids).2.1.failures[operation]? =
      if call.operation.name = operation then none else b.failures[operation]? := by
  rcases named : call.resource with _ | id
  · rcases met : b.failures[call.operation.name]? with _ | e
    · simp only [land, met, named, create]
      split
      · next same => rw [← same, met]
      · rfl
    · rw [land_of_met met]
      simp only [withFailures, Std.ExtTreeMap.getElem?_erase, Std.LawfulEqCmp.compare_eq_iff_eq]
  · obtain ⟨resources, failures, changed, _, lifted⟩ := b.land_changes ids named
    rw [changed]
    exact lifted operation

/-- Where the resource of a call is there, only a planned failure keeps the call from going well. -/
theorem strikes_iff : b.Strikes call ids e ↔ b.failures[call.operation.name]? = some e := by
  constructor
  · intro strikes
    rcases met : b.failures[call.operation.name]? with _ | planned
    · rcases named : call.resource with _ | id
      · have failed := strikes b.resources
        simp only [land, met, named] at failed
        cases failed
      · have failed := strikes (b.resources.insert ⟨call.operation.kind, id⟩ (.plain "" call.operation.kind id ""))
        simp only [land, met, named, invoke, Std.ExtTreeMap.getElem?_insert_self] at failed
        split at failed <;> cases failed
    · have failed := strikes b.resources
      rw [land_of_met met] at failed
      rw [Except.error.inj failed]
  · intro met resources
    exact congrArg Prod.fst (land_of_met (b := { b with resources := resources }) met)

end

/-! ## A failure that is planned before something else -/

section

variable {b : SimulatedBackend} {call : Call} {ids : IdSource} {operation other : String} {e planned : BackendError}

theorem failures_failNext (b : SimulatedBackend) (operation name : String) (e : BackendError) :
    (b.failNext operation e).failures[name]? = if operation = name then some e else b.failures[name]? := by
  simp only [failNext, Std.ExtTreeMap.getElem?_insert, Std.LawfulEqCmp.compare_eq_iff_eq]

theorem failNext_comm (b : SimulatedBackend) (apart : other ≠ operation) :
    (b.failNext operation e).failNext other planned = (b.failNext other planned).failNext operation e := by
  refine congrArg b.withFailures (Std.ExtTreeMap.ext_getElem? fun {name} => ?_)
  simp only [failNext, Std.ExtTreeMap.getElem?_insert, Std.LawfulEqCmp.compare_eq_iff_eq]
  by_cases here : other = name
  · rw [if_pos here, if_pos here, if_neg fun same => apart (here.trans same.symm)]
  · rw [if_neg here, if_neg here]

/-- A failure that another call lifts may be lifted before. -/
theorem lifted_failNext (b : SimulatedBackend) (apart : other ≠ operation) :
    (b.failNext operation e).withFailures ((b.failNext operation e).failures.erase other) =
      (b.withFailures (b.failures.erase other)).failNext operation e := by
  refine congrArg b.withFailures (Std.ExtTreeMap.ext_getElem? fun {name} => ?_)
  simp only [failNext, withFailures, Std.ExtTreeMap.getElem?_insert, Std.ExtTreeMap.getElem?_erase,
    Std.LawfulEqCmp.compare_eq_iff_eq]
  by_cases here : other = name
  · rw [if_pos here, if_pos here, if_neg fun same => apart (here.trans same.symm)]
  · rw [if_neg here, if_neg here]

theorem find_failNext (b : SimulatedBackend) (backend : String) (ref : ResourceRef) :
    (b.failNext operation e).find backend ref =
      ((b.find backend ref).1, (b.find backend ref).2.failNext operation e) := by
  simp only [find, failNext]
  by_cases own : backend = b.profile.id
  · simp only [own, if_true]
    split
    · rfl
    · split <;> rfl
  · simp only [own, if_false]

/-- A call of another operation does not see the failure, and leaves it there. -/
theorem land_failNext (apart : call.operation.name ≠ operation) :
    (b.failNext operation e).land call ids =
      ((b.land call ids).1, (b.land call ids).2.1.failNext operation e, (b.land call ids).2.2) := by
  have kept : (b.failNext operation e).failures[call.operation.name]? = b.failures[call.operation.name]? := by
    rw [failures_failNext, if_neg (Ne.symm apart)]
  rcases met : b.failures[call.operation.name]? with _ | planned
  · have unchanged : (b.land call ids).2.1.failures = b.failures := by
      refine Std.ExtTreeMap.ext_getElem? fun {name} => ?_
      rw [failures_land]
      split
      · next same => rw [← same, met]
      · rfl
    have landed := land_withFailures ids met (kept.trans met)
    simp only [failNext, withFailures, unchanged] at landed ⊢
    exact landed
  · rw [land_of_met met, land_of_met (kept.trans met), lifted_failNext b apart]

end

/-! ## Uses -/

/-- One use of a backend. -/
inductive Use where
  /-- A failure is planned for an operation. -/
  | failNext (operation : String) (e : BackendError)
  /-- A call arrives; one that names no resource makes a new one. -/
  | call (c : Call)
  /-- A resource is looked up for a backend. -/
  | find (backend : String) (ref : ResourceRef)
  /-- A resource is put there. -/
  | insert (ref : ResourceRef) (raw : String)

/-- What a backend answers to a use. -/
inductive Reply where
  | done
  | landed (answer : BackendResult Receipt)
  | found (resource : Option Resource)

namespace Use

/-- A use of a backend, which takes new ids from a source. -/
def run (b : SimulatedBackend) (ids : IdSource) : Use → Reply × SimulatedBackend × IdSource
  | failNext operation e => (.done, b.failNext operation e, ids)
  | call c => (.landed (b.land c ids).1, (b.land c ids).2)
  | find backend ref => (.found (b.find backend ref).1, (b.find backend ref).2, ids)
  | insert ref raw => (.done, b.insert ref raw, ids)

/-- A use calls an operation, on whichever resource. -/
def Calls (operation : String) : Use → Prop
  | call c => c.operation.name = operation
  | failNext .. | find .. | insert .. => False

/-- A use is about an operation if it calls it or plans a failure for it. -/
def IsAbout (operation : String) : Use → Prop
  | failNext planned _ => planned = operation
  | call c => c.operation.name = operation
  | find .. | insert .. => False

/-- What is planned for an operation after a use, from what was planned before. -/
def planned (operation : String) (before : Option BackendError) : Use → Option BackendError
  | failNext other e => if other = operation then some e else before
  | call c => if c.operation.name = operation then none else before
  | find .. | insert .. => before

variable {use : Use} {operation : String}

/-- What is about an operation and does not call it plans a failure for it. -/
theorem IsAbout.eq_failNext (about : use.IsAbout operation) (calm : ¬ use.Calls operation) :
    ∃ e, use = .failNext operation e := by
  cases use with
  | failNext planned e =>
    cases about
    exact ⟨e, rfl⟩
  | call c => exact absurd about calm
  | find | insert => exact about.elim

theorem Calls.isAbout (h : use.Calls operation) : use.IsAbout operation := by
  cases use with
  | call c => exact h
  | failNext | find | insert => exact h.elim

end Use

section

variable {b : SimulatedBackend} {ids : IdSource} {use : Use} {operation : String} {e : BackendError}

theorem failures_run (b : SimulatedBackend) (ids : IdSource) (use : Use) (operation : String) :
    (use.run b ids).2.1.failures[operation]? = use.planned operation b.failures[operation]? := by
  cases use with
  | failNext other e =>
    simp only [Use.run, failNext, Use.planned, Std.ExtTreeMap.getElem?_insert, Std.LawfulEqCmp.compare_eq_iff_eq]
  | call call => exact b.failures_land call ids operation
  | find backend ref =>
    obtain ⟨resources, changed, _⟩ := b.find_changes backend ref
    simp only [Use.run, Use.planned, changed]
  | insert ref raw => rfl

/-- A use that is about other operations does not see a failure, and leaves it there. -/
theorem run_failNext (apart : ¬ use.IsAbout operation) :
    use.run (b.failNext operation e) ids =
      ((use.run b ids).1, (use.run b ids).2.1.failNext operation e, (use.run b ids).2.2) := by
  cases use with
  | failNext other planned => simp only [Use.run, failNext_comm b apart]
  | call call => simp only [Use.run, land_failNext apart]
  | find backend ref => simp only [Use.run, find_failNext]
  | insert ref raw => rfl

end

/-! ## Histories -/

/-- A new backend and the source of its ids after some uses. -/
def after (profile : Profile) (ids : IdSource) (history : List Use) : SimulatedBackend × IdSource :=
  history.foldl (fun (b, ids) use => (use.run b ids).2) (new profile, ids)

section

variable {profile : Profile} {ids : IdSource} {history : List Use} {operation : String} {e : BackendError}

theorem after_concat (profile : Profile) (ids : IdSource) (history : List Use) (use : Use) :
    after profile ids (history ++ [use]) =
      (use.run (after profile ids history).1 (after profile ids history).2).2 :=
  List.foldl_concat ..

/-- What is planned for an operation is what the last use about it has planned. -/
theorem failures_after :
    (after profile ids history).1.failures[operation]? = some e ↔
      IsLast (Use.IsAbout operation) history (.failNext operation e) := by
  induction history using List.reverseRecOn with
  | nil => simp [after, new, not_isLast_nil]
  | append_singleton history use ih =>
    rw [after_concat, failures_run, isLast_concat]
    cases use with
    | failNext other planned =>
      by_cases same : other = operation
      · simp [Use.planned, Use.IsAbout, same, eq_comm]
      · simp [Use.planned, Use.IsAbout, same, ih]
    | call call =>
      by_cases same : call.operation.name = operation
      · simp [Use.planned, Use.IsAbout, same]
      · simp [Use.planned, Use.IsAbout, same, ih]
    | find | insert => simp [Use.planned, Use.IsAbout, ih]

/-- A failure has been planned since the last call of an operation exactly if the last use about it plans one. -/
theorem exists_isLast_failNext :
    (∃ e, IsLast (Use.IsAbout operation) history (.failNext operation e)) ↔
      ∃ before e later, history = before ++ .failNext operation e :: later ∧ ∀ use ∈ later, ¬ use.Calls operation := by
  constructor
  · rintro ⟨e, before, later, split, _, none⟩
    exact ⟨before, e, later, split, fun use mem calls => none use mem calls.isAbout⟩
  · rintro ⟨before, e, later, rfl, calm⟩
    have planning : (Use.failNext operation e).IsAbout operation := rfl
    obtain ⟨last, earlier, none, split, about, rest⟩ :=
      exists_isLast.mpr ⟨.failNext operation e, List.mem_cons_self (l := later), planning⟩
    -- Nothing after the failure calls the operation, so what is last can only plan another one.
    have plans : ∃ e, last = .failNext operation e := by
      have mem : last ∈ Use.failNext operation e :: later := split ▸ List.mem_append_right _ List.mem_cons_self
      rcases List.mem_cons.mp mem with rfl | mem
      · exact ⟨e, rfl⟩
      · exact about.eq_failNext (calm last mem)
    obtain ⟨e', rfl⟩ := plans
    exact ⟨e', before ++ earlier, none, by rw [split, List.append_assoc], rfl, rest⟩

theorem latency_after (profile : Profile) (ids : IdSource) (history : List Use) :
    (after profile ids history).1.latency = .zero := by
  induction history using List.reverseRecOn with
  | nil => rfl
  | append_singleton history use ih =>
    rw [after_concat, ← ih]
    generalize (after profile ids history).1 = b, (after profile ids history).2 = ids
    cases use with
    | failNext | insert => rfl
    | call call => exact b.latency_land call ids
    | find backend ref =>
      obtain ⟨resources, changed, _⟩ := b.find_changes backend ref
      simp only [Use.run, changed]

end

/-- **Planned failures strike once.** For every new backend, every history of its uses and every call that follows, which
takes no time:

1. the call is struck by some error, whatever the resources are, exactly if a failure has been planned for its operation
since that was called last;
2. the error is the one that was planned last;
3. a call that is struck is answered with the error and leaves all resources; whether it was struck or not, the next
call of the operation is not;
4. a call that is not struck goes as if no failure had been planned for any operation;
5. uses about other operations, all lookups among them, go as if a failure were not planned, and leave it planned. -/
theorem failures_strike_once (profile : Profile) (ids : IdSource) (history : List Use) (call : Call) :
    let b := (after profile ids history).1
    let source := (after profile ids history).2
    let operation := call.operation.name
    let landed := b.land call source
    Backend.launch call (.simulated b) = ((.zero, ⟨call, none⟩), .simulated b) ∧
    ((∃ e, b.Strikes call source e) ↔
      ∃ before e later, history = before ++ .failNext operation e :: later ∧ ∀ use ∈ later, ¬ use.Calls operation) ∧
    (∀ e, b.Strikes call source e ↔ IsLast (Use.IsAbout operation) history (.failNext operation e)) ∧
    (∀ e, b.Strikes call source e → landed.1 = .error e ∧ landed.2.1.resources = b.resources ∧ landed.2.2 = source) ∧
    (∀ again : Call, again.operation.name = operation → ∀ e, ¬ landed.2.1.Strikes again landed.2.2 e) ∧
    ((∀ e, ¬ b.Strikes call source e) →
      landed.1 = ((b.withFailures ∅).land call source).1 ∧
      landed.2.1.resources = ((b.withFailures ∅).land call source).2.1.resources ∧
      landed.2.2 = ((b.withFailures ∅).land call source).2.2) ∧
    ∀ (use : Use) (name : String) (e : BackendError), ¬ use.IsAbout name →
      use.run (b.failNext name e) source =
        ((use.run b source).1, (use.run b source).2.1.failNext name e, (use.run b source).2.2) := by
  intro b source operation landed
  have strikes (e : BackendError) :
      b.Strikes call source e ↔ IsLast (Use.IsAbout operation) history (.failNext operation e) :=
    strikes_iff.trans failures_after
  refine ⟨?_, ?_, strikes, fun e struck => ?_, fun again same e struck => ?_, fun unstruck => ?_,
    fun use name e apart => run_failNext apart⟩
  · rw [Backend.launch, latency_after]
  · simp only [strikes]
    exact exists_isLast_failNext
  · rw [show landed = _ from land_of_met (strikes_iff.mp struck)]
    exact ⟨rfl, rfl, rfl⟩
  · have met := strikes_iff.mp struck
    rw [failures_land, if_pos same.symm] at met
    cases met
  · have unmet : b.failures[call.operation.name]? = none :=
      Option.eq_none_iff_forall_ne_some.mpr fun e met => unstruck e (strikes_iff.mpr met)
    rw [land_withFailures source unmet (by simp)]
    exact ⟨rfl, rfl, rfl⟩

end SimulatedBackend

end CloudLifecycle
