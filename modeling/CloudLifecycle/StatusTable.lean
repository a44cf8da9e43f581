import CloudLifecycle.Resource.State

/-!
# Status tables

A backend has words of its own for the state of a resource, and a table says what each of them means. Words are
compared after trimming and without regard to the case of ASCII letters. A backend may start to use a new word
at any time, so a table has an answer for every word: one that it does not know means its fallback.
-/

namespace CloudLifecycle

/-- The meaning of the status words of one backend. -/
structure StatusTable where
  /-- The state for each word, in its folded form. -/
  entries : Std.ExtTreeMap String LifecycleState
  /-- The state for every other word. -/
  fallback : LifecycleState
  deriving DecidableEq

namespace StatusTable

/-- The meaning of a word where nothing else is said. -/
def defaultFallback : LifecycleState := .pending

/-- A table without words. -/
def empty : StatusTable := ⟨∅, defaultFallback⟩

instance : Inhabited StatusTable := ⟨empty⟩

/-- The form in which words are compared. -/
def fold (raw : String) : String := Text.asciiUpper (Text.trim raw)

/-- The table with a meaning for one word, in place of any earlier one. -/
def map (t : StatusTable) (raw : String) (state : LifecycleState) : StatusTable :=
  { t with entries := t.entries.insert (fold raw) state }

/-- The table with one meaning for several words. -/
def mapAll (t : StatusTable) (raws : List String) (state : LifecycleState) : StatusTable :=
  raws.foldl (fun t raw => t.map raw state) t

/-- The table with another fallback. -/
def withFallback (t : StatusTable) (state : LifecycleState) : StatusTable := { t with fallback := state }

/-- The table of some words and their meanings, of which the last for a word counts. -/
def ofList (pairs : List (String × LifecycleState)) : StatusTable :=
  pairs.foldl (fun t p => t.map p.1 p.2) empty

/-- The meaning that the table itself gives to a word. -/
def lookup (t : StatusTable) (raw : String) : Option LifecycleState := t.entries[fold raw]?

/-- The meaning of a word. -/
def resolve (t : StatusTable) (raw : String) : LifecycleState := (t.lookup raw).getD t.fallback

/-- The number of words. -/
def size (t : StatusTable) : Nat := t.entries.size

/-- Whether there is no word. -/
def isEmpty (t : StatusTable) : Bool := t.entries.isEmpty

/-- The words and their meanings, in ascending order of the words. -/
def toList (t : StatusTable) : List (String × LifecycleState) := t.entries.toList

theorem lookup_map (t : StatusTable) (raw a : String) (state : LifecycleState) :
    (t.map raw state).lookup a = if fold raw = fold a then some state else t.lookup a := by
  simp [map, lookup, Std.ExtTreeMap.getElem?_insert]

theorem fallback_map (t : StatusTable) (raw : String) (state : LifecycleState) :
    (t.map raw state).fallback = t.fallback := rfl

theorem resolve_empty (a : String) : empty.resolve a = defaultFallback := by
  simp [resolve, lookup, empty]

theorem resolve_map (t : StatusTable) (raw a : String) (state : LifecycleState) :
    (t.map raw state).resolve a = if fold raw = fold a then state else t.resolve a := by
  rw [resolve, lookup_map, fallback_map]
  split <;> rfl

theorem resolve_mapAll (t : StatusTable) (raws : List String) (a : String) (state : LifecycleState) :
    (t.mapAll raws state).resolve a = if fold a ∈ raws.map fold then state else t.resolve a := by
  induction raws generalizing t with
  | nil => rfl
  | cons raw raws ih =>
    rw [mapAll, List.foldl_cons, ← mapAll, ih, resolve_map]
    by_cases now : fold raw = fold a
    · simp [now]
    · simp [now, Ne.symm now]

/-- Words of one folded form have one meaning. -/
theorem resolve_congr {t : StatusTable} {raw raw' : String} (same : fold raw = fold raw') :
    t.resolve raw = t.resolve raw' := by
  rw [resolve, resolve, lookup, lookup, same]

end StatusTable

/-- The status tables of all backends. -/
structure Normalizer where
  tables : Std.ExtTreeMap String StatusTable

namespace Normalizer

/-- No table at all. -/
def empty : Normalizer := ⟨∅⟩

/-- The tables with that of one backend set or replaced. -/
def register (n : Normalizer) (backend : String) (table : StatusTable) : Normalizer :=
  ⟨n.tables.insert backend table⟩

/-- The table of a backend. -/
def table? (n : Normalizer) (backend : String) : Option StatusTable := n.tables[backend]?

/-- The state that a word of some backend means. -/
def normalize (n : Normalizer) (backend raw : String) : LifecycleState :=
  match n.table? backend with
  | some table => table.resolve raw
  | none => StatusTable.defaultFallback

theorem table?_register (n : Normalizer) (backend b : String) (table : StatusTable) :
    (n.register backend table).table? b = if backend = b then some table else n.table? b := by
  simp [register, table?, Std.ExtTreeMap.getElem?_insert]

end Normalizer

end CloudLifecycle
