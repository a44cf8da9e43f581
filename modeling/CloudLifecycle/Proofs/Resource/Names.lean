import CloudLifecycle.Proofs.Text.Folded
import CloudLifecycle.Resource.Kind
import CloudLifecycle.Resource.State

/-!
# Spellings of names

A kind or a state is read from a text that spells its name: there may be blanks around it, and each of its characters may
be written in a few ways (`Text.Spells`). The reader does not look for such a spelling. It trims the text, folds what is
left character by character, and compares.

1. What the reader trims are the blanks around the name and nothing else, because names have no blanks and a blank stays
   one when it is folded (`Text.fold_trim_eq_iff`).
2. A character of a name is what comes of exactly those that may stand for it: for kinds small letters and the underscore
   (`ResourceKind.foldChar_eq_iff`), for states capitals (`LifecycleState.toUpper_eq_iff`).

`names_decided` puts these together.
-/

namespace CloudLifecycle

namespace Text

/-- A text spells a name if it is the name with blanks around it, each character of the name written as one that may stand
for it. -/
def Spells (standsFor : Char → Char → Prop) (name s : String) : Prop :=
  ∃ before word after, s.toList = before ++ word ++ after ∧ (∀ c ∈ before, isBlank c = true) ∧
    (∀ c ∈ after, isBlank c = true) ∧ List.Forall₂ standsFor name.toList word

/-- A name spells itself if its characters may stand for themselves. -/
theorem spells_self {standsFor : Char → Char → Prop} {name : String} (own : ∀ c ∈ name.toList, standsFor c c) :
    Spells standsFor name name :=
  ⟨[], name.toList, [], by simp, by simp, by simp, List.forall₂_same.mpr own⟩

/-! ## Folding and trimming -/

section

variable {fold : Char → Char} {standsFor : Char → Char → Prop}

/-- A text folds to a name exactly if its characters may stand for those of the name, one by one. -/
theorem map_eq_iff_forall₂ {name : List Char} (folds : ∀ c ∈ name, ∀ d, fold d = c ↔ standsFor c d) {word : List Char} :
    word.map fold = name ↔ List.Forall₂ standsFor name word := by
  induction name generalizing word with
  | nil => rw [List.map_eq_nil_iff, List.forall₂_nil_left_iff]
  | cons c name ih =>
    have first (d : Char) : fold d = c ↔ standsFor c d := folds c List.mem_cons_self d
    have rest (word : List Char) : word.map fold = name ↔ List.Forall₂ standsFor name word :=
      ih fun c mem => folds c (List.mem_cons_of_mem _ mem)
    simp only [List.map_eq_cons_iff, List.forall₂_cons_left_iff, first, rest]
    constructor
    · rintro ⟨d, ds, rfl, stands, all⟩
      exact ⟨d, ds, stands, all, rfl⟩
    · rintro ⟨d, ds, stands, all, rfl⟩
      exact ⟨d, ds, rfl, stands, all⟩

/-- What comes of no blank has none in it before it is folded either, so trimming leaves it as it is. -/
theorem trimChars_of_map_visible (calm : ∀ c, isBlank c = true → fold c = c) {word : List Char}
    (visible : ∀ c ∈ word.map fold, isBlank c = false) : trimChars word = word := by
  have unblank : ∀ c ∈ word, isBlank c = false := by
    intro c mem
    by_contra blank
    have blank : isBlank c = true := by simpa using blank
    have folded : isBlank (fold c) = false := visible _ (List.mem_map_of_mem mem)
    rw [calm c blank, blank] at folded
    cases folded
  exact trimChars_eq_self word (fun c first => unblank c (List.mem_of_head? first))
    fun c last => unblank c (List.mem_of_getLast? last)

/-- A text that is trimmed and folded is a name exactly if it spells the name. -/
theorem fold_trim_eq_iff (calm : ∀ c, isBlank c = true → fold c = c) {name : String}
    (visible : ∀ c ∈ name.toList, isBlank c = false)
    (folds : ∀ c ∈ name.toList, ∀ d, fold d = c ↔ standsFor c d) {s : String} :
    String.ofList ((trim s).toList.map fold) = name ↔ Spells standsFor name s := by
  rw [← String.toList_inj, String.toList_ofList, toList_trim]
  constructor
  · intro folded
    obtain ⟨before, after, split, hb, ha⟩ := exists_surrounding s.toList
    exact ⟨before, trimChars s.toList, after, split, hb, ha, (map_eq_iff_forall₂ folds).mp folded⟩
  · rintro ⟨before, word, after, split, hb, ha, stands⟩
    have folded : word.map fold = name.toList := (map_eq_iff_forall₂ folds).mpr stands
    rw [split, trimChars_surrounded hb ha, trimChars_of_map_visible calm (by rwa [folded]), folded]

end

/-! ## Letters in either case -/

theorem not_isAlpha_of_isBlank {c : Char} (blank : isBlank c = true) : ¬ c.isAlpha = true := by
  intro letter
  rw [isBlank_of_isAlpha letter] at blank
  cases blank

theorem toLower_of_isBlank {c : Char} (blank : isBlank c = true) : c.toLower = c :=
  Char.toLower_eq_of_not_isUpper fun capital => not_isAlpha_of_isBlank blank (by simp [Char.isAlpha, capital])

theorem toUpper_of_isBlank {c : Char} (blank : isBlank c = true) : c.toUpper = c :=
  Char.toUpper_eq_of_not_isLower fun small => not_isAlpha_of_isBlank blank (by simp [Char.isAlpha, small])

theorem SameLetter.toLower_eq {c d : Char} (h : SameLetter c d) : d.toLower = c.toLower := by
  rcases h with rfl | rfl | rfl
  · rfl
  · exact Char.toLower_toUpper_eq_toLower c
  · exact Char.toLower_toLower_eq_toLower c

/-- A character that is no capital is the small form of its own letter in either case, and of nothing else. -/
theorem toLower_eq_iff {c : Char} (small : c.toLower = c) (d : Char) : d.toLower = c ↔ SameLetter c d := by
  constructor
  · rintro rfl
    by_cases capital : d.isUpper = true
    · have kept : d.toUpper = d := Char.toUpper_eq_of_not_isLower (Char.not_isLower_of_isUpper capital)
      exact .inr (.inl (by rw [Char.toUpper_toLower_eq_toUpper, kept]))
    · exact .inl (Char.toLower_eq_of_not_isUpper capital).symm
  · intro same
    rw [same.toLower_eq, small]

/-- A character that is no small letter is the capital of its own letter in either case, and of nothing else. -/
theorem toUpper_eq_iff {c : Char} (capital : c.toUpper = c) (d : Char) : d.toUpper = c ↔ SameLetter c d := by
  constructor
  · rintro rfl
    by_cases small : d.isLower = true
    · have kept : d.toLower = d := Char.toLower_eq_of_not_isUpper (Char.not_isUpper_of_isLower small)
      exact .inr (.inr (by rw [Char.toLower_toUpper_eq_toLower, kept]))
    · exact .inl (Char.toUpper_eq_of_not_isLower small).symm
  · intro same
    rw [same.toUpper_eq, capital]

end Text

/-! ## Kinds -/

namespace ResourceKind

/-- The character `d` may stand for `c` in the name of a kind: a letter in either case, and a dash for an underscore. -/
def StandsFor (c d : Char) : Prop := Text.SameLetter c d ∨ c = '_' ∧ d = '-'

/-- A character as it is compared with those of names. -/
def foldChar (c : Char) : Char := if c.toLower = '-' then '_' else c.toLower

theorem foldName_eq (s : String) : foldName s = String.ofList ((Text.trim s).toList.map foldChar) := by
  rw [foldName, Text.toList_asciiLower, List.map_map]
  rfl

theorem foldChar_of_isBlank {c : Char} (blank : Text.isBlank c = true) : foldChar c = c := by
  rw [foldChar, Text.toLower_of_isBlank blank, if_neg]
  rintro rfl
  cases blank

/-- A small letter or an underscore is what comes of those characters that may stand for it. -/
theorem foldChar_eq_iff {c : Char} (small : c.toLower = c) (dashless : c ≠ '-') (d : Char) :
    foldChar d = c ↔ StandsFor c d := by
  unfold foldChar StandsFor
  rw [← Text.toLower_eq_iff small d]
  by_cases dash : d.toLower = '-'
  · have only : d = '-' := by
      rcases (Text.toLower_eq_iff (c := '-') rfl d).mp dash with rfl | rfl | rfl <;> rfl
    rw [if_pos dash, dash]
    constructor
    · rintro rfl
      exact .inr ⟨rfl, only⟩
    · rintro (same | ⟨rfl, _⟩)
      · exact absurd same.symm dashless
      · rfl
  · rw [if_neg dash]
    constructor
    · exact .inl
    · rintro (same | ⟨_, rfl⟩)
      · exact same
      · exact absurd rfl dash

theorem ofName?_eq_some_iff {s : String} {k : ResourceKind} : ofName? s = some k ↔ s = k.name := by
  constructor
  · intro found
    unfold ofName? at found
    have same : k.name = s := by simpa using List.find?_some found
    exact same.symm
  · rintro rfl
    exact ofName?_name k

theorem parse_eq_ok_iff {s : String} {k : ResourceKind} : parse s = .ok k ↔ Text.Spells StandsFor k.name s := by
  have letters : ∀ c ∈ k.name.toList, Text.isBlank c = false ∧ c.toLower = c ∧ c ≠ '-' := by
    cases k <;> simp [name, Text.isBlank]
  have spelled : foldName s = k.name ↔ Text.Spells StandsFor k.name s := by
    rw [foldName_eq]
    exact Text.fold_trim_eq_iff (fun c => foldChar_of_isBlank) (fun c mem => (letters c mem).1)
      fun c mem => foldChar_eq_iff (letters c mem).2.1 (letters c mem).2.2
  refine Iff.trans ?_ (ofName?_eq_some_iff.trans spelled)
  unfold parse
  cases ofName? (foldName s) <;> simp

theorem parse_eq_error_iff {s : String} {e : UnknownKind} :
    parse s = .error e ↔ e.text = s ∧ ∀ k : ResourceKind, ¬ Text.Spells StandsFor k.name s := by
  simp only [← parse_eq_ok_iff]
  unfold parse
  cases ofName? (foldName s) with
  | none =>
    simp only [Except.error.injEq, reduceCtorEq, not_false_eq_true, implies_true, and_true]
    exact ⟨fun same => same ▸ rfl, fun same => same ▸ rfl⟩
  | some k => simp

end ResourceKind

/-! ## States -/

namespace LifecycleState

theorem ofName?_eq_some_iff {s : String} {state : LifecycleState} : ofName? s = some state ↔ s = state.name := by
  constructor
  · intro found
    unfold ofName? at found
    have same : state.name = s := by simpa using List.find?_some found
    exact same.symm
  · rintro rfl
    exact ofName?_name state

theorem parse_eq_ok_iff {s : String} {state : LifecycleState} :
    parse s = .ok state ↔ Text.Spells Text.SameLetter state.name s := by
  have letters : ∀ c ∈ state.name.toList, Text.isBlank c = false ∧ c.toUpper = c := by
    cases state <;> simp [name, Text.isBlank]
  have spelled : Text.asciiUpper (Text.trim s) = state.name ↔ Text.Spells Text.SameLetter state.name s :=
    Text.fold_trim_eq_iff (fun c => Text.toUpper_of_isBlank) (fun c mem => (letters c mem).1)
      fun c mem => Text.toUpper_eq_iff (letters c mem).2
  refine Iff.trans ?_ (ofName?_eq_some_iff.trans spelled)
  unfold parse
  cases ofName? (Text.asciiUpper (Text.trim s)) <;> simp

theorem parse_eq_error_iff {s : String} {e : UnknownState} :
    parse s = .error e ↔ e.text = s ∧ ∀ state : LifecycleState, ¬ Text.Spells Text.SameLetter state.name s := by
  simp only [← parse_eq_ok_iff]
  unfold parse
  cases ofName? (Text.asciiUpper (Text.trim s)) with
  | none =>
    simp only [Except.error.injEq, reduceCtorEq, not_false_eq_true, implies_true, and_true]
    exact ⟨fun same => same ▸ rfl, fun same => same ▸ rfl⟩
  | some state => simp

end LifecycleState

/-- **Names are read exactly as they are spelled.** For every text:

1. it is read as a kind exactly if it spells its name, each letter in either case and each underscore as one or as a dash,
with blanks around it;
2. it is read as a state exactly if it spells its name, each letter in either case, with blanks around it;
3. it spells the names of no two kinds, and of no two states;
4. any name that is written is read back as what it names;
5. a text that spells no kind, or no state, is refused, and the error has the text as it was, blanks and all. -/
theorem names_decided (s : String) :
    (∀ k : ResourceKind, ResourceKind.parse s = .ok k ↔ Text.Spells ResourceKind.StandsFor k.name s) ∧
    (∀ state : LifecycleState, LifecycleState.parse s = .ok state ↔ Text.Spells Text.SameLetter state.name s) ∧
    (∀ k l : ResourceKind, Text.Spells ResourceKind.StandsFor k.name s → Text.Spells ResourceKind.StandsFor l.name s →
      k = l) ∧
    (∀ state other : LifecycleState, Text.Spells Text.SameLetter state.name s → Text.Spells Text.SameLetter other.name s →
      state = other) ∧
    (∀ k : ResourceKind, ResourceKind.parse (toString k) = .ok k) ∧
    (∀ state : LifecycleState, LifecycleState.parse (toString state) = .ok state) ∧
    (∀ e : UnknownKind, ResourceKind.parse s = .error e ↔
      e.text = s ∧ ∀ k : ResourceKind, ¬ Text.Spells ResourceKind.StandsFor k.name s) ∧
    (∀ e : UnknownState, LifecycleState.parse s = .error e ↔
      e.text = s ∧ ∀ state : LifecycleState, ¬ Text.Spells Text.SameLetter state.name s) := by
  refine ⟨fun k => ResourceKind.parse_eq_ok_iff, fun state => LifecycleState.parse_eq_ok_iff, fun k l spelled spelled' => ?_,
    fun state other spelled spelled' => ?_, fun k => ?_, fun state => ?_, fun e => ResourceKind.parse_eq_error_iff,
    fun e => LifecycleState.parse_eq_error_iff⟩
  · rw [← ResourceKind.parse_eq_ok_iff] at spelled spelled'
    exact Except.ok.inj (spelled.symm.trans spelled')
  · rw [← LifecycleState.parse_eq_ok_iff] at spelled spelled'
    exact Except.ok.inj (spelled.symm.trans spelled')
  · exact ResourceKind.parse_eq_ok_iff.mpr (Text.spells_self fun c _ => .inl (.inl rfl))
  · exact LifecycleState.parse_eq_ok_iff.mpr (Text.spells_self fun c _ => .inl rfl)

example : ResourceKind.parse "\u2003Load-bALANCER\n" = .ok .loadBalancer := rfl

-- The long s becomes an S where capitals go beyond ASCII, which they do not here.
example : LifecycleState.parse " \u017ftart" = .error ⟨" \u017ftart"⟩ := rfl

end CloudLifecycle
