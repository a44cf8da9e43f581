import CloudLifecycle.Proofs.Status.Written

/-!
# Status tables in their canonical form

A table holds its words trimmed and in capitals, whatever it was told (`canonical_written`). So it is known by what it
says: tables of that form are equal if they give every text the same meaning (`Canonical.ext`), a table can be written
down as the list of its entries and read back (`Canonical.ofList_toList`), and nobody has to know how a word was spelled
to look it up (`lookup_surrounded`, `lookup_of_sameLetters`).

`written_canonical` puts these together.
-/

namespace CloudLifecycle.StatusTable

/-- A table that holds its words as they are compared. -/
def Canonical (t : StatusTable) : Prop := ∀ word ∈ t.entries, Text.IsFolded word

section

variable {t t' : StatusTable} {raw : String}

theorem isFolded_fold (raw : String) : Text.IsFolded (fold raw) := Text.isFolded_of_any raw

theorem Canonical.map (h : t.Canonical) (raw : String) (state : LifecycleState) : (t.map raw state).Canonical := by
  intro word mem
  rcases Std.ExtTreeMap.mem_insert.mp mem with same | mem
  · rw [← Std.LawfulEqCmp.compare_eq_iff_eq.mp same]
    exact isFolded_fold raw
  · exact h word mem

theorem canonical_ofList (es : List (String × LifecycleState)) : (ofList es).Canonical := by
  induction es using List.reverseRecOn with
  | nil => exact fun word mem => absurd mem Std.ExtTreeMap.not_mem_empty
  | append_singleton es e ih =>
    rw [ofList_concat]
    exact ih.map e.1 e.2

/-- However a table is written, its words are folded. -/
theorem canonical_written (pairs : List (String × LifecycleState)) (calls : List Call) : (written pairs calls).Canonical := by
  rw [written_eq]
  exact canonical_ofList (entriesOf pairs calls)

/-- A table in canonical form is known by what it says. -/
theorem Canonical.ext (h : t.Canonical) (h' : t'.Canonical) (fallback : t.fallback = t'.fallback)
    (lookup : ∀ raw, t.lookup raw = t'.lookup raw) : t = t' := by
  have entries : t.entries = t'.entries := by
    refine Std.ExtTreeMap.ext_getElem? fun word => ?_
    by_cases folded : Text.IsFolded word
    · have here : t.entries[fold word]? = t'.entries[fold word]? := lookup word
      rwa [fold, folded.eq] at here
    · rw [Std.ExtTreeMap.getElem?_eq_none fun mem => folded (h word mem),
        Std.ExtTreeMap.getElem?_eq_none fun mem => folded (h' word mem)]
  cases t
  cases t'
  exact congr (congrArg mk entries) fallback

theorem pairwise_toList (t : StatusTable) : t.toList.Pairwise fun a b => a.1 < b.1 := by
  have ordered : t.toList.Pairwise fun a b => compare a.1 b.1 = .lt := Std.ExtTreeMap.ordered_keys_toList
  exact ordered.imp compareOfLessAndEq_eq_lt.mp

theorem mem_toList {word : String} {state : LifecycleState} :
    (word, state) ∈ t.toList ↔ t.entries[word]? = some state :=
  Std.ExtTreeMap.mem_toList_iff_getElem?_eq_some

theorem Canonical.folded (h : t.Canonical) : ∀ e ∈ t.toList, Text.IsFolded e.1 := by
  rintro ⟨word, state⟩ mem
  refine h word (Std.ExtTreeMap.isSome_getElem?_iff_mem.mp ?_)
  rw [mem_toList.mp mem, Option.isSome_some]

/-- The entries of a table, read as pairs, say what the table says. -/
theorem Canonical.lookup_ofList_toList (h : t.Canonical) (raw : String) : (ofList t.toList).lookup raw = t.lookup raw := by
  have folded : ∀ e ∈ t.toList, fold e.1 = e.1 := fun e mem => (h.folded e mem).eq
  refine Option.ext fun state => ?_
  rw [lookup_ofList, lookup, ← mem_toList]
  constructor
  · rintro ⟨e, last, rfl⟩
    have mem := last.mem
    obtain ⟨_, _, _, same, _⟩ := last
    have same : fold e.1 = fold raw := same
    rw [← same, folded e mem]
    exact mem
  · intro mem
    obtain ⟨before, after, split⟩ := List.append_of_mem mem
    refine ⟨(fold raw, state), ⟨before, after, split, (isFolded_fold raw).eq, fun e later same => ?_⟩, rfl⟩
    have same : fold e.1 = fold raw := same
    have ascending := t.pairwise_toList
    rw [split, List.pairwise_append, List.pairwise_cons] at ascending
    have above : fold raw < e.1 := ascending.2.1.1 e later
    rw [← same, folded e (by rw [split]; simp [later])] at above
    exact lt_irrefl _ above

/-- A table in canonical form can be read back from its entries. -/
theorem Canonical.ofList_toList (h : t.Canonical) : (ofList t.toList).withFallback t.fallback = t :=
  Canonical.ext (canonical_ofList t.toList) h rfl h.lookup_ofList_toList

/-! ## Spellings of a word -/

/-- Blanks around a text do not count. -/
theorem lookup_surrounded {before after : String} (hb : ∀ c ∈ before.toList, Text.isBlank c = true)
    (ha : ∀ c ∈ after.toList, Text.isBlank c = true) : t.lookup (before ++ raw ++ after) = t.lookup raw := by
  have same : Text.trim (before ++ raw ++ after) = Text.trim raw := String.toList_inj.mp (by
    rw [Text.toList_trim, Text.toList_trim, String.toList_append, String.toList_append, Text.trimChars_surrounded hb ha])
  rw [lookup, lookup, fold, same, ← fold]

/-- The case of letters does not count. -/
theorem lookup_of_sameLetters {raw' : String} (h : List.Forall₂ Text.SameLetter raw.toList raw'.toList) :
    t.lookup raw' = t.lookup raw := by
  have same : Text.asciiUpper raw' = Text.asciiUpper raw := String.toList_inj.mp (by
    rw [Text.toList_asciiUpper, Text.toList_asciiUpper, Text.map_toUpper_of_sameLetters h])
  rw [lookup, lookup, fold, fold, ← Text.trim_asciiUpper, ← Text.trim_asciiUpper, same]

end

/-- **Status tables are canonical.** However a table is written:

1. every word that it holds is trimmed and has no small letter of ASCII;
2. its entries, read as pairs, and its fallback make the table itself;
3. its entries are in strictly ascending order of the words;
4. it is equal to another table that was written exactly if both have the same fallback and give every text the same
meaning;
5. neither blanks around a text nor the case of its ASCII letters change its meaning. -/
theorem written_canonical (pairs : List (String × LifecycleState)) (calls : List Call) :
    let t := written pairs calls
    (∀ e ∈ t.toList, Text.IsFolded e.1) ∧
    (ofList t.toList).withFallback t.fallback = t ∧
    t.toList.Pairwise (fun a b => a.1 < b.1) ∧
    (∀ pairs' calls', let t' := written pairs' calls'
      t = t' ↔ t.fallback = t'.fallback ∧ ∀ raw, t.lookup raw = t'.lookup raw) ∧
    (∀ raw before after, (∀ c ∈ before.toList, Text.isBlank c = true) → (∀ c ∈ after.toList, Text.isBlank c = true) →
      t.lookup (before ++ raw ++ after) = t.lookup raw) ∧
    (∀ raw raw', List.Forall₂ Text.SameLetter raw.toList raw'.toList → t.lookup raw' = t.lookup raw) := by
  intro t
  have canonical : t.Canonical := canonical_written pairs calls
  refine ⟨canonical.folded, canonical.ofList_toList, t.pairwise_toList, fun pairs' calls' => ⟨?_, ?_⟩,
    fun raw before after => lookup_surrounded, fun raw raw' => lookup_of_sameLetters⟩
  · intro same
    rw [← same]
    exact ⟨rfl, fun _ => rfl⟩
  · rintro ⟨fallback, lookup⟩
    exact canonical.ext (canonical_written pairs' calls') fallback lookup

/-- What a word means is found with blanks around it, and in small letters. -/
theorem stopped_spelled :
    let t := written [("Stopped", .stopped)] [.mapAll ["gone "] .finish]
    t.toList = [("GONE", .finish), ("STOPPED", .stopped)] ∧
      t.lookup (" " ++ "Gone" ++ "\n") = some .finish ∧ t.lookup "stopped" = some .stopped := by
  intro t
  obtain ⟨_, _, _, _, surrounded, spelled⟩ := written_canonical [("Stopped", .stopped)] [.mapAll ["gone "] .finish]
  have gone : t.lookup "Gone" = some .finish := by decide +kernel
  have stopped : t.lookup "Stopped" = some .stopped := by decide +kernel
  refine ⟨by decide +kernel, ?_, ?_⟩
  · exact (surrounded "Gone" " " "\n" (by simp [Text.isBlank]) (by simp [Text.isBlank])).trans gone
  · exact (spelled "Stopped" "stopped" (by simp [Text.SameLetter])).trans stopped

end CloudLifecycle.StatusTable
