import CloudLifecycle.Guard
import Mathlib

/-!
# Guards through handles

Guards are kept for all resources together and are reached through handles, of which some stand for the same guards. Seen
from one resource they are as simple as can be: there is no guard, or it is converging, or it has failed, and only the
calls about exactly this resource move it (`Guards.Call.next`).

1. The guard over a resource is what the calls about its key make of none, one after the other, and a call answers by it
   (`Follows.run`, `Follows.answers`); the size counts the resources that have a guard (`Guards.encard_guarded`).
2. A handle made afresh is its own origin, and a clone has the origin of the handle it was made from (`origins`). Handles
   stand for the same guards exactly if they have the same origin, and behind each are the guards that follow the calls
   through all handles of its origin (`Mirrors`). One more event keeps it so (`Mirrors.step`).

`entries_by_key` puts these together.
-/

namespace CloudLifecycle

namespace Guards

/-! ## Calls -/

/-- One call on guards. -/
inductive Call where
  | begin (key : ResourceKey)
  | clear (key : ResourceKey)
  | fail (key : ResourceKey) (reason : String)
  | get (key : ResourceKey)
  | overlay (key : ResourceKey)
  | isConverging (key : ResourceKey)
  | size
  | isEmpty

/-- What a call answers. -/
inductive Reply where
  | done
  | truth (b : Bool)
  | entry (guard : Option GuardEntry)
  | state (state : Option LifecycleState)
  | count (n : Nat)
  deriving DecidableEq

/-- The answer of a call, and the guards after it. -/
def Call.run (g : Guards) : Call → Reply × Guards
  | begin key => (.truth (g.begin key).1, (g.begin key).2)
  | clear key => (.entry (g.clear key).1, (g.clear key).2)
  | fail key reason => (.done, g.fail key reason)
  | get key => (.entry (g.get? key), g)
  | overlay key => (.state (g.overlay key), g)
  | isConverging key => (.truth (g.isConverging key), g)
  | size => (.count g.size, g)
  | isEmpty => (.truth g.isEmpty, g)

/-- The key that a call is about. -/
def Call.key? : Call → Option ResourceKey
  | begin key | clear key | fail key _ | get key | overlay key | isConverging key => some key
  | size | isEmpty => none

/-- Whether a call only asks. -/
def Call.Asks : Call → Prop
  | begin _ | clear _ | fail _ _ => False
  | get _ | overlay _ | isConverging _ | size | isEmpty => True

/-! ## The guard over one resource -/

/-- What a call about a resource makes of its guard. -/
def Call.next (guard : Option GuardEntry) : Call → Option GuardEntry
  | begin _ => some .converging
  | clear _ => none
  | fail _ reason => some (.failed reason)
  | get _ | overlay _ | isConverging _ | size | isEmpty => guard

/-- The guard over a resource after some calls: only those about its key count. -/
def guardAfter (calls : List Call) (key : ResourceKey) : Option GuardEntry :=
  (calls.filter (·.key? = some key)).foldl Call.next none

/-- What a call answers after some others. -/
inductive Answers (calls : List Call) : Call → Reply → Prop
  | begin {key b} (new : b = true ↔ guardAfter calls key ≠ some .converging) : Answers calls (.begin key) (.truth b)
  | clear {key} : Answers calls (.clear key) (.entry (guardAfter calls key))
  | fail {key reason} : Answers calls (.fail key reason) .done
  | get {key} : Answers calls (.get key) (.entry (guardAfter calls key))
  | overlay {key} : Answers calls (.overlay key) (.state ((guardAfter calls key).map GuardEntry.state))
  | isConverging {key b} (converging : b = true ↔ guardAfter calls key = some .converging) :
    Answers calls (.isConverging key) (.truth b)
  | size {n : Nat} (guarded : {key | guardAfter calls key ≠ none}.encard = n) : Answers calls .size (.count n)
  | isEmpty {b} (free : b = true ↔ {key | guardAfter calls key ≠ none}.encard = 0) : Answers calls .isEmpty (.truth b)

section

variable {g : Guards} {calls : List Call}

theorem get?_run (g : Guards) (c : Call) (key : ResourceKey) :
    (c.run g).2.get? key = if c.key? = some key then c.next (g.get? key) else g.get? key := by
  cases c with
  | begin k => simp only [Call.run, get?_begin, Call.key?, Option.some.injEq, Call.next]
  | clear k => simp only [Call.run, get?_clear, Call.key?, Option.some.injEq, Call.next]
  | fail k reason => simp only [Call.run, get?_fail, Call.key?, Option.some.injEq, Call.next]
  | get | overlay | isConverging | size | isEmpty => exact (ite_self _).symm

theorem Call.run_of_asks (g : Guards) {c : Call} (asks : c.Asks) : (c.run g).2 = g := by
  cases c with
  | begin | clear | fail => exact asks.elim
  | get | overlay | isConverging | size | isEmpty => rfl

theorem guardAfter_concat (calls : List Call) (c : Call) (key : ResourceKey) :
    guardAfter (calls ++ [c]) key =
      if c.key? = some key then c.next (guardAfter calls key) else guardAfter calls key := by
  unfold guardAfter
  rw [List.filter_append, List.foldl_append]
  by_cases here : c.key? = some key <;> simp [here]

/-- Every resource has the guard that the calls give it. -/
def Follows (g : Guards) (calls : List Call) : Prop := ∀ key, g.get? key = guardAfter calls key

theorem follows_empty : empty.Follows [] := fun _ => Std.ExtTreeMap.getElem?_empty

theorem Follows.run (h : g.Follows calls) (c : Call) : (c.run g).2.Follows (calls ++ [c]) := by
  intro key
  rw [get?_run, guardAfter_concat, h key]

/-- The size is the number of the resources that have a guard. -/
theorem encard_guarded (g : Guards) : {key | g.get? key ≠ none}.encard = g.size := by
  have there : {key | g.get? key ≠ none} = (g.entries.keys.toFinset : Set ResourceKey) := by
    ext key
    simp [get?]
  have distinct : g.entries.keys.Nodup :=
    Std.ExtTreeMap.distinct_keys.imp fun apart same => apart (Std.LawfulEqCmp.compare_eq_iff_eq.mpr same)
  rw [there, Set.encard_coe_eq_coe_finsetCard, List.toFinset_card_of_nodup distinct, Std.ExtTreeMap.length_keys, size]

theorem Follows.answers (h : g.Follows calls) (c : Call) : Answers calls c (c.run g).1 := by
  have guarded : {key | guardAfter calls key ≠ none}.encard = g.size := by
    rw [← encard_guarded]
    simp only [h _]
  cases c with
  | begin key =>
    refine .begin ?_
    rw [← h key, begin]
    split <;> simp_all [isConverging]
  | clear key =>
    show Answers calls (.clear key) (.entry (g.get? key))
    rw [h key]
    exact .clear
  | fail key reason => exact .fail
  | get key =>
    show Answers calls (.get key) (.entry (g.get? key))
    rw [h key]
    exact .get
  | overlay key =>
    show Answers calls (.overlay key) (.state ((g.get? key).map GuardEntry.state))
    rw [h key]
    exact .overlay
  | isConverging key => exact .isConverging (by rw [← h key, isConverging, decide_eq_true_iff])
  | size => exact .size guarded
  | isEmpty =>
    refine .isEmpty ?_
    rw [guarded, Nat.cast_eq_zero, isEmpty, size, ← Std.ExtTreeMap.isEmpty_keys, ← Std.ExtTreeMap.length_keys,
      List.isEmpty_iff_length_eq_zero]

end

end Guards

namespace SharedGuards

/-! ## Handles -/

/-- What may happen to guards that are reached through handles. Handles are numbered in the order in which they are
made. -/
inductive Event where
  /-- A handle to guards of its own is made. -/
  | fresh
  /-- A handle to the guards of the handle `h` is made. -/
  | clone (h : Nat)
  /-- A call is made through the handle `h`. -/
  | call (h : Nat) (c : Guards.Call)

/-- The guards after an event. -/
def Event.apply (s : SharedGuards) : Event → SharedGuards
  | fresh => s.fresh
  | clone h => s.clone h
  | call h c => s.set h (c.run (s.get h)).2

/-- The guards after some events, with which everything begins. -/
def played (events : List Event) : SharedGuards := events.foldl Event.apply none

/-- What a call through a handle answers. -/
def reply (s : SharedGuards) (h : Nat) (c : Guards.Call) : Guards.Reply := (c.run (s.get h)).1

/-- The origins of all handles after an event: that of a handle made afresh is the handle itself, that of a clone is the
origin of the handle it is made from. -/
def Event.origins (os : List Nat) : Event → List Nat
  | fresh => os ++ [os.length]
  | clone h => os ++ [os.getD h 0]
  | call _ _ => os

/-- The origins of all handles that are made by some events. -/
def origins (events : List Event) : List Nat := events.foldl Event.origins []

/-- Whether an event uses only handles among the first `n`. -/
def Event.Known (n : Nat) : Event → Prop
  | fresh => True
  | clone h | call h _ => h < n

instance (n : Nat) : (e : Event) → Decidable (e.Known n)
  | .fresh => .isTrue trivial
  | .clone h | .call h _ => inferInstanceAs (Decidable (h < n))

/-- Events that use no handle before it is made. -/
inductive Playable : List Event → Prop
  | nil : Playable []
  | concat {events e} (playable : Playable events) (known : e.Known (origins events).length) : Playable (events ++ [e])

/-- The call of an event, if it is made through a handle of the origin `o`. -/
def Event.callOf? (os : List Nat) (o : Nat) : Event → Option Guards.Call
  | fresh | clone _ => .none
  | call h c => if os[h]? = some o then some c else .none

/-- The calls through all handles of the origin `o`, in their order. -/
def callsOf (events : List Event) (o : Nat) : List Guards.Call := events.filterMap (Event.callOf? (origins events) o)

section

variable {s : SharedGuards} {events : List Event} {e : Event} {h k o p : Nat}

theorem origins_concat (events : List Event) (e : Event) : origins (events ++ [e]) = e.origins (origins events) :=
  List.foldl_concat ..

theorem played_concat (events : List Event) (e : Event) : played (events ++ [e]) = e.apply (played events) :=
  List.foldl_concat ..

/-- The origin of a handle stays what it is. -/
theorem getElem?_origins (made : h < (origins events).length) : (origins (events ++ [e]))[h]? = (origins events)[h]? := by
  rw [origins_concat]
  cases e with
  | fresh | clone => exact List.getElem?_append_left made
  | call => rfl

theorem length_origins_le (events : List Event) (e : Event) : (origins events).length ≤ (origins (events ++ [e])).length := by
  rw [origins_concat]
  cases e <;> simp [Event.origins]

/-- A call that was made used a handle that is there. -/
theorem Playable.made (playable : Playable events) {c : Guards.Call} (mem : .call h c ∈ events) :
    h < (origins events).length := by
  induction playable with
  | nil => cases mem
  | @concat events e _ known ih =>
    rcases List.mem_append.mp mem with earlier | last
    · exact (ih earlier).trans_le (length_origins_le events e)
    · cases List.mem_singleton.mp last
      exact Nat.lt_of_lt_of_le known (length_origins_le events _)

theorem callsOf_concat (playable : Playable events) (e : Event) (o : Nat) :
    callsOf (events ++ [e]) o = callsOf events o ++ (e.callOf? (origins (events ++ [e])) o).toList := by
  have earlier : events.filterMap (Event.callOf? (origins (events ++ [e])) o) = callsOf events o := by
    refine List.filterMap_congr fun e' mem => ?_
    cases e' with
    | fresh | clone => rfl
    | call h c => simp only [Event.callOf?, getElem?_origins (playable.made mem)]
  rw [callsOf, List.filterMap_append, earlier]
  cases last : e.callOf? (origins (events ++ [e])) o <;> simp [last]

theorem callsOf_eq_nil (unborn : o ∉ origins events) : callsOf events o = [] := by
  refine List.filterMap_eq_nil_iff.mpr fun e _ => ?_
  cases e with
  | fresh | clone => rfl
  | call h c => exact if_neg fun here => unborn (List.mem_of_getElem? here)

/-! ## Handles of one origin -/

/-- The handles of each origin `o` stand for the guards at the place `place o`, which follow the calls through all of them;
and no other handles stand for these. -/
structure Mirrors (place : Nat → Nat) (events : List Event) (s : SharedGuards) : Prop where
  places_eq : s.places = (origins events).map place
  below : ∀ o ∈ origins events, o < (origins events).length
  within : ∀ o ∈ origins events, place o < s.guards.length
  apart : ∀ o ∈ origins events, ∀ o' ∈ origins events, place o = place o' → o = o'
  follows : ∀ o ∈ origins events, (s.guards.getD (place o) .empty).Follows (callsOf events o)

namespace Mirrors

variable {place : Nat → Nat}

theorem nil : Mirrors id [] none where
  places_eq := rfl
  below := nofun
  within := nofun
  apart := nofun
  follows := nofun

theorem getD_places (m : Mirrors place events s) (origin : (origins events)[h]? = some o) : s.places.getD h 0 = place o := by
  rw [m.places_eq, List.getD_eq_getElem?_getD, List.getElem?_map, origin]
  rfl

theorem get_eq (m : Mirrors place events s) (origin : (origins events)[h]? = some o) :
    s.get h = s.guards.getD (place o) .empty := by
  rw [get, m.getD_places origin]

/-- A handle made afresh is the first of its origin. -/
theorem fresh (m : Mirrors place events s) (playable : Playable events) :
    Mirrors (Function.update place (origins events).length s.guards.length) (events ++ [.fresh]) s.fresh := by
  have os : origins (events ++ [.fresh]) = origins events ++ [(origins events).length] := origins_concat ..
  have unborn : (origins events).length ∉ origins events := fun mem => Nat.lt_irrefl _ (m.below _ mem)
  have old {o} (mem : o ∈ origins events) :
      Function.update place (origins events).length s.guards.length o = place o :=
    Function.update_of_ne (by rintro rfl; exact unborn mem) ..
  have new : Function.update place (origins events).length s.guards.length (origins events).length = s.guards.length :=
    Function.update_self ..
  have calls (o) : callsOf (events ++ [.fresh]) o = callsOf events o := by
    rw [callsOf_concat playable, Event.callOf?, Option.toList_none, List.append_nil]
  constructor
  all_goals rw [os]
  · rw [List.map_append, List.map_congr_left fun o mem => old mem, ← m.places_eq, List.map_singleton, new]
    rfl
  · intro o mem
    rw [List.length_append, List.length_singleton]
    rcases List.mem_append.mp mem with mem | mem
    · exact Nat.lt_succ_of_lt (m.below o mem)
    · rw [List.mem_singleton.mp mem]
      exact Nat.lt_succ_self _
  · intro o mem
    show _ < (s.guards ++ [Guards.empty]).length
    rw [List.length_append, List.length_singleton]
    rcases List.mem_append.mp mem with mem | mem
    · rw [old mem]
      exact Nat.lt_succ_of_lt (m.within o mem)
    · rw [List.mem_singleton.mp mem, new]
      exact Nat.lt_succ_self _
  · intro o mem o' mem' same
    rcases List.mem_append.mp mem with mem | mem <;> rcases List.mem_append.mp mem' with mem' | mem'
    · rw [old mem, old mem'] at same
      exact m.apart o mem o' mem' same
    · rw [old mem, List.mem_singleton.mp mem', new] at same
      exact absurd same (Nat.ne_of_lt (m.within o mem))
    · rw [old mem', List.mem_singleton.mp mem, new] at same
      exact absurd same.symm (Nat.ne_of_lt (m.within o' mem'))
    · exact (List.mem_singleton.mp mem).trans (List.mem_singleton.mp mem').symm
  · intro o mem
    show ((s.guards ++ [Guards.empty]).getD _ _).Follows _
    rw [calls]
    rcases List.mem_append.mp mem with mem | mem
    · rw [old mem, List.getD_append _ _ _ _ (m.within o mem)]
      exact m.follows o mem
    · rw [List.mem_singleton.mp mem, new, callsOf_eq_nil unborn, List.getD_append_right _ _ _ _ (Nat.le_refl _), Nat.sub_self]
      exact Guards.follows_empty

/-- A clone stands for what the handle stands for that it is made from. -/
theorem clone (m : Mirrors place events s) (playable : Playable events) (made : k < (origins events).length) :
    Mirrors place (events ++ [.clone k]) (s.clone k) := by
  obtain ⟨o, origin⟩ : ∃ o, (origins events)[k]? = some o := ⟨_, List.getElem?_eq_getElem made⟩
  have os : origins (events ++ [.clone k]) = origins events ++ [o] := by
    rw [origins_concat, Event.origins, List.getD_eq_getElem?_getD, origin, Option.getD_some]
  have same {o'} : o' ∈ origins (events ++ [.clone k]) ↔ o' ∈ origins events := by
    rw [os, List.mem_append, List.mem_singleton, or_iff_left_of_imp]
    rintro rfl
    exact List.mem_of_getElem? origin
  refine ⟨?_, fun o' mem => ?_, fun o' mem => m.within o' (same.mp mem),
    fun o' mem o'' mem' => m.apart o' (same.mp mem) o'' (same.mp mem'), fun o' mem => ?_⟩
  · rw [os, List.map_append, ← m.places_eq, List.map_singleton, ← m.getD_places origin]
    rfl
  · exact (m.below o' (same.mp mem)).trans_le (length_origins_le events _)
  · rw [callsOf_concat playable, Event.callOf?, Option.toList_none, List.append_nil]
    exact m.follows o' (same.mp mem)

/-- A call is one more for the handles of its origin, and nothing for all others. -/
theorem call (m : Mirrors place events s) (playable : Playable events) (made : k < (origins events).length)
    (c : Guards.Call) : Mirrors place (events ++ [.call k c]) (s.set k (c.run (s.get k)).2) := by
  obtain ⟨o, origin⟩ : ∃ o, (origins events)[k]? = some o := ⟨_, List.getElem?_eq_getElem made⟩
  have os : origins (events ++ [.call k c]) = origins events := origins_concat ..
  have there : o ∈ origins events := List.mem_of_getElem? origin
  have guards : (s.set k (c.run (s.get k)).2).guards = s.guards.set (place o) (c.run (s.get k)).2 := by
    rw [← m.getD_places origin]
    rfl
  constructor
  all_goals rw [os]
  · exact m.places_eq
  · exact m.below
  · intro o' mem
    rw [guards, List.length_set]
    exact m.within o' mem
  · exact m.apart
  · intro o' mem
    rw [guards, callsOf_concat playable, os, Event.callOf?, origin]
    by_cases here : o = o'
    · subst here
      rw [if_pos rfl, m.get_eq origin, List.getD_eq_getElem?_getD, List.getElem?_set_self (m.within o there)]
      exact (m.follows o there).run c
    · have elsewhere : place o ≠ place o' := fun same => here (m.apart o there o' mem same)
      rw [if_neg fun same => here (Option.some.inj same), Option.toList_none, List.append_nil, List.getD_eq_getElem?_getD,
        List.getElem?_set_ne elsewhere, ← List.getD_eq_getElem?_getD]
      exact m.follows o' mem

end Mirrors

/-- Whatever happens, there is a place for each origin. -/
theorem exists_mirrors (playable : Playable events) : ∃ place, Mirrors place events (played events) := by
  induction playable with
  | nil => exact ⟨id, .nil⟩
  | @concat events e playable known ih =>
    obtain ⟨place, m⟩ := ih
    rw [played_concat]
    cases e with
    | fresh => exact ⟨_, m.fresh playable⟩
    | clone k => exact ⟨place, m.clone playable known⟩
    | call k c => exact ⟨place, m.call playable known c⟩

theorem set_get (s : SharedGuards) (h : Nat) : s.set h (s.get h) = s := by
  have same : s.guards.set (s.places.getD h 0) (s.get h) = s.guards := by
    refine List.ext_getElem? fun p => ?_
    by_cases here : s.places.getD h 0 = p
    · subst here
      rw [List.getElem?_set_self', get, List.getD_eq_getElem?_getD]
      cases s.guards[s.places.getD h 0]? <;> rfl
    · exact List.getElem?_set_ne here
  rw [set, same]

end

/-- **Guards are one automaton for each key.** Whatever is done with guards through handles, some made afresh and some as
clones, for every handle the following holds, where only the calls through all handles of the same origin count:

1. the guard over each resource is what the calls about exactly its key make of none, one after the other;
2. every call answers by the guards that are there then: `begin` is true unless the resource is converging, `clear` gives
the guard that it lifts, and the size is the number of resources that have a guard;
3. a call that only asks changes nothing;
4. a call through a handle of another origin changes nothing for this one. -/
theorem entries_by_key (events : List Event) (playable : Playable events) (h o : Nat)
    (origin : (origins events)[h]? = some o) :
    let s := played events
    let calls := callsOf events o
    (∀ key, (s.get h).get? key = Guards.guardAfter calls key) ∧
    (∀ c, Guards.Answers calls c (s.reply h c)) ∧
    (∀ c, c.Asks → played (events ++ [.call h c]) = s) ∧
    ∀ h' o' c, (origins events)[h']? = some o' → o' ≠ o → (played (events ++ [.call h' c])).get h = s.get h := by
  intro s calls
  obtain ⟨place, m⟩ := exists_mirrors playable
  have there : o ∈ origins events := List.mem_of_getElem? origin
  have follows : (s.get h).Follows calls := by
    rw [m.get_eq origin]
    exact m.follows o there
  refine ⟨follows, follows.answers, fun c asks => ?_, fun h' o' c origin' other => ?_⟩
  · rw [played_concat, Event.apply, Guards.Call.run_of_asks _ asks, set_get]
  · have elsewhere : place o' ≠ place o := fun same => other (m.apart o' (List.mem_of_getElem? origin') o there same)
    have places : (s.set h' (c.run (s.get h')).2).places.getD h 0 = place o := m.getD_places origin
    rw [played_concat, Event.apply, get, places, m.get_eq origin, set, m.getD_places origin', List.getD_eq_getElem?_getD,
      List.getElem?_set_ne elsewhere, ← List.getD_eq_getElem?_getD]

/-- A resource that is put under guard through one handle, fails through a clone, and is guarded by others too. -/
theorem failed_through_clone :
    let key : ResourceKey := ⟨"eu", .server, "a"⟩
    let events : List Event :=
      [] ++ [Event.fresh] ++ [Event.clone 0] ++ [Event.fresh] ++ [Event.call 0 (.begin key)] ++
        [Event.call 2 (.begin key)] ++ [Event.call 1 (.fail key "stuck")]
    Playable events ∧ (origins events)[0]? = some 0 ∧
      ((played events).get 0).get? key = some (.failed "stuck") ∧ (played events).reply 0 (.begin key) = .truth true ∧
      played (events ++ [.call 0 .size]) = played events ∧
      (played (events ++ [.call 2 (.clear key)])).get 0 = (played events).get 0 := by
  intro key events
  have playable : Playable events := by
    refine .concat (.concat (.concat (.concat (.concat (.concat .nil ?_) ?_) ?_) ?_) ?_) ?_
    all_goals decide
  have origin : (origins events)[0]? = some 0 := by decide
  obtain ⟨guard, answers, asks, others⟩ := entries_by_key events playable 0 0 origin
  refine ⟨playable, origin, (guard key).trans (by decide), ?_, asks .size trivial,
    others 2 2 (.clear key) (by decide) (by decide)⟩
  have begun := answers (.begin key)
  generalize (played events).reply 0 (.begin key) = answer at begun ⊢
  cases begun with
  | begin new => rw [new.mpr (by decide)]

end SharedGuards

end CloudLifecycle
