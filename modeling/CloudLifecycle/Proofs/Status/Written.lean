import CloudLifecycle.Proofs.Text.Folded
import CloudLifecycle.StatusTable

/-!
# What a table says of a word

A table is begun with some pairs and written on by calls, each of which gives words a meaning or sets the fallback. All
that counts of them are the entries in their order and the last fallback (`written_eq`).

1. The meaning of a word is that of the last entry for it, where blanks around a word and the case of ASCII letters do
   not count (`lookup_ofList`); there is none exactly if no entry is for it (`lookup_ofList_eq_none`).
2. Words that are the same in this sense are counted once (`size_ofList`).
3. The words of a backend are read by the table that was registered last under its id (`Normalizer.normalize_ofList`).

`words_resolved` puts these together.
-/

namespace CloudLifecycle

/-! ## The last of its sort -/

/-- `a` is the last in a list of those with a property. -/
def IsLast {α : Type} (p : α → Prop) (as : List α) (a : α) : Prop :=
  ∃ before after, as = before ++ a :: after ∧ p a ∧ ∀ b ∈ after, ¬ p b

section

variable {α : Type} {p : α → Prop} {as : List α} {a b : α}

theorem IsLast.mem (h : IsLast p as a) : a ∈ as := by
  obtain ⟨before, after, rfl, _, _⟩ := h
  exact List.mem_append_right before List.mem_cons_self

theorem not_isLast_nil : ¬ IsLast p [] a := fun h => nomatch h.mem

/-- With one more at the end, that is the last one if it has the property. -/
theorem isLast_concat : IsLast p (as ++ [b]) a ↔ (p b ∧ a = b) ∨ (¬ p b ∧ IsLast p as a) := by
  constructor
  · rintro ⟨before, after, same, pa, none⟩
    rcases List.eq_nil_or_concat after with rfl | ⟨after, last, rfl⟩
    · obtain ⟨rfl, tail⟩ := List.append_inj' same rfl
      cases tail
      exact .inl ⟨pa, rfl⟩
    · rw [List.concat_eq_append, ← List.cons_append, ← List.append_assoc] at same
      obtain ⟨rfl, tail⟩ := List.append_inj' same rfl
      cases tail
      exact .inr ⟨none b (by simp), before, after, rfl, pa, fun c mem => none c (by simp [mem])⟩
  · rintro (⟨pb, rfl⟩ | ⟨nb, before, after, rfl, pa, none⟩)
    · exact ⟨as, [], rfl, pb, by simp⟩
    · refine ⟨before, after ++ [b], by simp, pa, fun c mem => ?_⟩
      rcases List.mem_append.mp mem with mem | mem
      · exact none c mem
      · rw [List.mem_singleton.mp mem]
        exact nb

/-- There is a last one with the property exactly if there is any. -/
theorem exists_isLast : (∃ a, IsLast p as a) ↔ ∃ a ∈ as, p a := by
  induction as using List.reverseRecOn with
  | nil => simp [not_isLast_nil]
  | append_singleton as b ih =>
    simp only [isLast_concat, List.mem_append, List.mem_singleton]
    by_cases pb : p b
    · exact iff_of_true ⟨b, .inl ⟨pb, rfl⟩⟩ ⟨b, .inr rfl, pb⟩
    · constructor
      · rintro ⟨a, ⟨pb', _⟩ | ⟨_, last⟩⟩
        · exact absurd pb' pb
        · obtain ⟨a, mem, pa⟩ := ih.mp ⟨a, last⟩
          exact ⟨a, .inl mem, pa⟩
      · rintro ⟨a, mem | rfl, pa⟩
        · obtain ⟨a, last⟩ := ih.mpr ⟨a, mem, pa⟩
          exact ⟨a, .inr ⟨pb, last⟩⟩
        · exact absurd pa pb

end

/-! ## Entries that are inserted one after the other -/

section

variable {α β : Type} {key : α → String} {value : α → β} {as : List α} {k : String} {v : β}

/-- The map into which the values of a list are inserted under their keys, one after the other. -/
def inserted (key : α → String) (value : α → β) (as : List α) : Std.ExtTreeMap String β :=
  as.foldl (fun map a => map.insert (key a) (value a)) ∅

theorem inserted_concat (as : List α) (a : α) :
    inserted key value (as ++ [a]) = (inserted key value as).insert (key a) (value a) :=
  List.foldl_concat ..

/-- Under a key stands what was inserted there last. -/
theorem getElem?_inserted : (inserted key value as)[k]? = some v ↔ ∃ a, IsLast (fun a => key a = k) as a ∧ value a = v := by
  induction as using List.reverseRecOn with
  | nil => simp [inserted, not_isLast_nil]
  | append_singleton as b ih =>
    simp only [inserted_concat, Std.ExtTreeMap.getElem?_insert, Std.LawfulEqCmp.compare_eq_iff_eq, isLast_concat]
    by_cases here : key b = k <;> simp [here, ih]

theorem getElem?_inserted_eq_none : (inserted key value as)[k]? = none ↔ ∀ a ∈ as, key a ≠ k := by
  have any : (∃ v, (inserted key value as)[k]? = some v) ↔ ∃ a ∈ as, key a = k := by
    simp only [getElem?_inserted, ← exists_isLast]
    exact ⟨fun ⟨_, a, last, _⟩ => ⟨a, last⟩, fun ⟨a, last⟩ => ⟨_, a, last, rfl⟩⟩
  rw [← Option.not_isSome_iff_eq_none, Option.isSome_iff_exists, any]
  simp

/-- Every key is counted once. -/
theorem size_inserted : (inserted key value as).size = (as.map key).toFinset.card := by
  induction as using List.reverseRecOn with
  | nil => simp [inserted]
  | append_singleton as b ih =>
    have keys : ((as ++ [b]).map key).toFinset = insert (key b) (as.map key).toFinset := by
      simp
    have there : (inserted key value as).contains (key b) = true ↔ key b ∈ (as.map key).toFinset := by
      rw [Std.ExtTreeMap.contains_iff_mem, ← Std.ExtTreeMap.isSome_getElem?_iff_mem, ← Option.ne_none_iff_isSome, Ne,
        getElem?_inserted_eq_none]
      simp
    rw [inserted_concat, Std.ExtTreeMap.size_insert, keys, Finset.card_insert_eq_ite, ih]
    simp only [there]

end

namespace StatusTable

/-! ## Writing a table -/

/-- One call on a table that is being written. -/
inductive Call where
  /-- A word gets a meaning. -/
  | map (raw : String) (state : LifecycleState)
  /-- Several words get one meaning. -/
  | mapAll (raws : List String) (state : LifecycleState)
  /-- All other words get a meaning. -/
  | withFallback (state : LifecycleState)

/-- The table after a call. -/
def Call.apply (t : StatusTable) : Call → StatusTable
  | map raw state => t.map raw state
  | mapAll raws state => t.mapAll raws state
  | withFallback state => t.withFallback state

/-- The table that is begun with some pairs, none for an empty one, and goes through some calls. -/
def written (pairs : List (String × LifecycleState)) (calls : List Call) : StatusTable :=
  calls.foldl Call.apply (ofList pairs)

/-- The words to which a call gives a meaning, in their order. -/
def Call.entries : Call → List (String × LifecycleState)
  | map raw state => [(raw, state)]
  | mapAll raws state => raws.map fun raw => (raw, state)
  | withFallback _ => []

/-- The fallback that a call sets. -/
def Call.fallback? : Call → Option LifecycleState
  | map _ _ | mapAll _ _ => none
  | withFallback state => some state

/-- All words that get a meaning while a table is written, in their order. -/
def entriesOf (pairs : List (String × LifecycleState)) (calls : List Call) : List (String × LifecycleState) :=
  pairs ++ calls.flatMap Call.entries

/-- The fallback that is set last; without one it is that of a resource that is coming up. -/
def lastFallback (calls : List Call) : LifecycleState := (calls.filterMap Call.fallback?).getLast?.getD .pending

/-- Two words are the same if they are so without blanks around them and in capitals. -/
def SameWord (a b : String) : Prop := Text.asciiUpper (Text.trim a) = Text.asciiUpper (Text.trim b)

section

variable {es pairs : List (String × LifecycleState)} {calls : List Call} {raw : String}

theorem ofList_concat (es : List (String × LifecycleState)) (e : String × LifecycleState) :
    ofList (es ++ [e]) = (ofList es).map e.1 e.2 :=
  List.foldl_concat ..

theorem fallback_ofList (es : List (String × LifecycleState)) : (ofList es).fallback = .pending := by
  induction es using List.reverseRecOn with
  | nil => rfl
  | append_singleton es e ih => rw [ofList_concat, fallback_map, ih]

/-- Several words at once are several words one after the other. -/
theorem mapAll_ofList (es : List (String × LifecycleState)) (raws : List String) (state fallback : LifecycleState) :
    ((ofList es).withFallback fallback).mapAll raws state =
      (ofList (es ++ raws.map fun raw => (raw, state))).withFallback fallback := by
  induction raws generalizing es with
  | nil => simp [mapAll]
  | cons raw raws ih =>
    have first : ((ofList es).withFallback fallback).map raw state =
        (ofList (es ++ [(raw, state)])).withFallback fallback := by
      rw [ofList_concat]
      rfl
    rw [mapAll, List.foldl_cons, ← mapAll, first, ih, List.append_assoc]
    rfl

/-- A table is its entries in their order and the fallback set last. -/
theorem written_eq (pairs : List (String × LifecycleState)) (calls : List Call) :
    written pairs calls = (ofList (entriesOf pairs calls)).withFallback (lastFallback calls) := by
  induction calls using List.reverseRecOn with
  | nil =>
    show ofList pairs = (ofList (pairs ++ [])).withFallback .pending
    rw [List.append_nil, ← fallback_ofList pairs]
    rfl
  | append_singleton calls call ih =>
    have entries : entriesOf pairs (calls ++ [call]) = entriesOf pairs calls ++ call.entries := by
      simp [entriesOf]
    rw [written, List.foldl_concat, ← written, ih, entries]
    cases call with
    | map raw state =>
      have fallback : lastFallback (calls ++ [.map raw state]) = lastFallback calls := by simp [lastFallback, Call.fallback?]
      rw [fallback, Call.entries, ofList_concat]
      rfl
    | mapAll raws state =>
      have fallback : lastFallback (calls ++ [.mapAll raws state]) = lastFallback calls := by
        simp [lastFallback, Call.fallback?]
      rw [fallback, Call.apply, mapAll_ofList]
      rfl
    | withFallback state =>
      have fallback : lastFallback (calls ++ [.withFallback state]) = state := by simp [lastFallback, Call.fallback?]
      rw [fallback, Call.entries, List.append_nil]
      rfl

/-! ## Reading it -/

theorem entries_ofList (es : List (String × LifecycleState)) :
    (ofList es).entries = inserted (fun e => fold e.1) (·.2) es := by
  induction es using List.reverseRecOn with
  | nil => rfl
  | append_singleton es e ih => rw [ofList_concat, inserted_concat, ← ih, map]

/-- The last entry for a word counts. -/
theorem lookup_ofList {state : LifecycleState} :
    (ofList es).lookup raw = some state ↔ ∃ e, IsLast (fun e => SameWord e.1 raw) es e ∧ e.2 = state := by
  rw [lookup, entries_ofList, getElem?_inserted]
  rfl

theorem lookup_ofList_eq_none : (ofList es).lookup raw = none ↔ ∀ e ∈ es, ¬ SameWord e.1 raw := by
  rw [lookup, entries_ofList, getElem?_inserted_eq_none]
  rfl

/-- Words that are the same count once. -/
theorem size_ofList : (ofList es).size = (es.map fun e => Text.asciiUpper (Text.trim e.1)).toFinset.card := by
  rw [size, entries_ofList, size_inserted]
  rfl

end

end StatusTable

/-! ## The tables of all backends -/

namespace Normalizer

variable {tables : List (String × StatusTable)} {backend raw : String}

/-- The normalizer for which some tables are registered one after the other. -/
def ofList (tables : List (String × StatusTable)) : Normalizer :=
  tables.foldl (fun n e => n.register e.1 e.2) empty

theorem tables_ofList (tables : List (String × StatusTable)) : (ofList tables).tables = inserted (·.1) (·.2) tables := by
  induction tables using List.reverseRecOn with
  | nil => rfl
  | append_singleton tables e ih =>
    rw [ofList, List.foldl_concat, ← ofList, inserted_concat, ← ih]
    rfl

/-- The table that is registered last for a backend reads its words. -/
theorem normalize_ofList {table : StatusTable} (last : IsLast (fun e => e.1 = backend) tables (backend, table)) :
    (ofList tables).normalize backend raw = table.resolve raw := by
  have found : (ofList tables).table? backend = some table := by
    rw [table?, tables_ofList, getElem?_inserted]
    exact ⟨_, last, rfl⟩
  rw [normalize, found]

theorem normalize_ofList_of_absent (absent : ∀ e ∈ tables, e.1 ≠ backend) :
    (ofList tables).normalize backend raw = .pending := by
  have none : (ofList tables).table? backend = none := by
    rw [table?, tables_ofList, getElem?_inserted_eq_none]
    exact absent
  rw [normalize, none]
  rfl

theorem normalize_register_of_ne (n : Normalizer) {other : String} (apart : other ≠ backend) (table : StatusTable) :
    (n.register other table).normalize backend raw = n.normalize backend raw := by
  rw [normalize, table?_register, if_neg apart, normalize]

end Normalizer

/-- **Resolution of words.** For every way to write a table, every sequence of registrations and every text:

1. the table gives the text the meaning of the last entry for the same word, and none if there is no such entry;
2. otherwise the text means the fallback that was set last, that of a resource that is coming up if none was;
3. the size of the table is the number of its words, trimmed and in capitals;
4. the words of a backend are read by the table that was registered last under exactly its id, those of any other mean a
resource that is coming up, and a registration changes nothing for the other backends. -/
theorem StatusTable.words_resolved (pairs : List (String × LifecycleState)) (calls : List Call)
    (tables : List (String × StatusTable)) (backend raw : String) :
    let table := written pairs calls
    let entries := entriesOf pairs calls
    let normalizer := Normalizer.ofList tables
    ((∀ state, table.lookup raw = some state ↔ ∃ e, IsLast (fun e => SameWord e.1 raw) entries e ∧ e.2 = state) ∧
      (table.lookup raw = none ↔ ∀ e ∈ entries, ¬ SameWord e.1 raw)) ∧
    table.resolve raw = (table.lookup raw).getD (lastFallback calls) ∧
    table.size = (entries.map fun e => Text.asciiUpper (Text.trim e.1)).toFinset.card ∧
    (∀ last, IsLast (fun e => e.1 = backend) tables (backend, last) →
      normalizer.normalize backend raw = last.resolve raw) ∧
    ((∀ e ∈ tables, e.1 ≠ backend) → normalizer.normalize backend raw = .pending) ∧
    (∀ other new, other ≠ backend →
      (normalizer.register other new).normalize backend raw = normalizer.normalize backend raw) := by
  intro table entries normalizer
  have same : table = (ofList entries).withFallback (lastFallback calls) := written_eq pairs calls
  have lookup : table.lookup raw = (ofList entries).lookup raw := by
    rw [same]
    rfl
  refine ⟨⟨fun state => ?_, ?_⟩, ?_, ?_, fun last => Normalizer.normalize_ofList, Normalizer.normalize_ofList_of_absent,
    fun other new apart => normalizer.normalize_register_of_ne apart new⟩
  · rw [lookup, lookup_ofList]
  · rw [lookup, lookup_ofList_eq_none]
  · rw [same]
    rfl
  · rw [same, ← size_ofList]
    rfl

/-- A backend that is registered twice and tells one word in two spellings. -/
theorem StatusTable.stopping_counts :
    let calls : List Call := [.mapAll [" stopped ", "off"] .stopping, .withFallback .unknown]
    let table := written [("STOPPED", .stopped)] calls
    let normalizer := Normalizer.ofList [("strict", .empty), ("strict", table)]
    table.lookup "Stopped" = some .stopping ∧ table.size = 2 ∧
      normalizer.normalize "strict" "Stopped" = table.resolve "Stopped" ∧ normalizer.normalize "lax" "Stopped" = .pending ∧
      (normalizer.register "lax" table).normalize "strict" "Stopped" = normalizer.normalize "strict" "Stopped" := by
  intro calls table normalizer
  have strict := words_resolved [("STOPPED", .stopped)] calls [("strict", .empty), ("strict", table)] "strict" "Stopped"
  have lax := words_resolved [("STOPPED", .stopped)] calls [("strict", .empty), ("strict", table)] "lax" "Stopped"
  obtain ⟨⟨lookup, _⟩, _, size, last, _, apart⟩ := strict
  obtain ⟨_, _, _, _, absent, _⟩ := lax
  refine ⟨(lookup .stopping).mpr ⟨_, ⟨[("STOPPED", .stopped)], [("off", .stopping)], rfl, ?_, ?_⟩, rfl⟩, ?_, ?_, ?_, ?_⟩
  · show Text.asciiUpper (Text.trim " stopped ") = Text.asciiUpper (Text.trim "Stopped")
    decide +kernel
  · simp only [List.mem_singleton, forall_eq, SameWord]
    decide +kernel
  · rw [size]
    decide +kernel
  · exact last table ⟨[("strict", .empty)], [], rfl, rfl, by simp⟩
  · exact absent (by simp)
  · exact apart "lax" table (by decide)

end CloudLifecycle
