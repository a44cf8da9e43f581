import CloudLifecycle.Proofs.Yaml.Scanned

/-!
# Written documents show

A written document has no other characters than those that show and plain line breaks, whatever its texts hold. So a
stream may hold them, and no kind of line break is made into another when it is read.
-/

namespace CloudLifecycle.Yaml

/-- Whether all characters of a text show. -/
def Shows (cs : List Char) : Prop := ∀ c ∈ cs, isPrintable c = true

@[simp] theorem shows_nil : Shows [] := nofun

@[simp] theorem shows_cons {c : Char} {cs : List Char} : Shows (c :: cs) ↔ isPrintable c = true ∧ Shows cs :=
  List.forall_mem_cons

@[simp] theorem shows_append {cs ds : List Char} : Shows (cs ++ ds) ↔ Shows cs ∧ Shows ds := List.forall_mem_append

@[simp] theorem shows_spaces (k : Nat) : Shows (spaces k) := fun c mem => by
  rw [List.eq_of_mem_replicate mem]
  decide

theorem shows_flatMap {cs : List Char} {f : Char → List Char} (each : ∀ c ∈ cs, Shows (f c)) : Shows (cs.flatMap f) := by
  intro d mem
  obtain ⟨c, there, mem⟩ := List.mem_flatMap.mp mem
  exact each c there d mem

theorem Shows.indented {cs : List Char} (h : Shows cs) (indent : Nat) (lineStart : Bool) :
    Shows (indented indent lineStart cs) := by
  induction cs generalizing lineStart with
  | nil => exact shows_nil
  | cons c cs ih =>
    obtain ⟨first, others⟩ := shows_cons.mp h
    rw [Yaml.indented]
    split
    · exact shows_cons.mpr ⟨first, ih others _⟩
    · refine shows_append.mpr ⟨?_, shows_cons.mpr ⟨first, ih others _⟩⟩
      split <;> simp

theorem shows_capitalHex (k n : Nat) : Shows (capitalHex k n) := by
  have capital : ∀ d < 16, isPrintable d.digitChar.toUpper = true := by decide
  refine shows_append.mpr ⟨fun c mem => ?_, fun c mem => ?_⟩
  · rw [List.eq_of_mem_replicate mem]
    decide
  · obtain ⟨d, there, rfl⟩ := List.mem_map.mp mem
    obtain ⟨v, small, rfl⟩ := exists_digitChar (by decide) there
    exact capital v small

theorem shows_escapeDouble (c : Char) : Shows (escapeDouble c) := by
  simp only [escapeDouble]
  split
  iterate 14 simp [isPrintable]
  split_ifs with printable
  · exact shows_cons.mpr ⟨printable, shows_nil⟩
  all_goals exact shows_append.mpr ⟨by simp [isPrintable], shows_capitalHex _ _⟩

theorem ScalarStyle.Fits.shows {style : ScalarStyle} {cs : List Char} (fits : style.Fits cs) (plain : style ≠ .double) :
    Shows cs := by
  cases style with
  | plain =>
    obtain ⟨nonempty, fits⟩ := fits
    obtain ⟨c, cs, rfl⟩ := List.exists_cons_of_ne_nil nonempty
    exact fun d mem => ((PlainText.of_fits fits).shown d mem).1
  | single => exact printable_of_fitsSingle fits.2
  | double => exact absurd rfl plain
  | literal =>
    have shown := fits.2
    simp only [fitsBlock, needsEscapes, Bool.and_eq_true, Bool.not_eq_true', Bool.or_eq_false_iff, List.any_eq_false,
      Bool.not_eq_false] at shown
    exact shown.1.1
  | folded => exact fits.elim

theorem shows_writeScalar {w : Nat} {style : ScalarStyle} {text : String} (fits : style.Fits text.toList) :
    Shows (writeScalar w style text).toList := by
  cases style with
  | plain => simpa [writeScalar, isPrintable] using fits.shows (by decide)
  | single =>
    have shown := fits.shows (by decide)
    have doubled : Shows (text.toList.flatMap fun c => if c = '\'' then ['\'', '\''] else [c]) := by
      refine shows_flatMap fun c mem => ?_
      split
      · simp [isPrintable]
      · exact shows_cons.mpr ⟨shown c mem, shows_nil⟩
    have closing : Shows (if text.toList.getLast?.any isAnyBreak then spaces w else []) := by split <;> simp
    simpa [writeScalar, writeSingle, isPrintable, doubled.indented] using closing
  | double =>
    have escaped : Shows (text.toList.flatMap escapeDouble) := shows_flatMap fun c _ => shows_escapeDouble c
    simpa [writeScalar, writeDouble, isPrintable] using escaped
  | literal =>
    have shown := fits.shows (by decide)
    have marks : Shows (blockMarks text.toList) := by
      rw [blockMarks_eq]
      refine shows_append.mpr ⟨?_, ?_⟩
      · split <;> simp [isPrintable]
      · cases chompingOf text.toList <;> simp [Chomping.mark, isPrintable]
    have last : Shows (if text.toList.getLast?.any isAnyBreak then [] else ['\n']) := by split <;> simp [isPrintable]
    simp only [writeScalar, writeBlock, String.toList_ofList, List.cons_append, shows_cons, shows_append]
    exact ⟨by decide, ⟨marks, by decide, shown.indented w true⟩, last⟩
  | folded => exact fits.elim

theorem shows_renderItems {ns : List Node} (each : ∀ n ∈ ns, ∀ indent, Shows (renderItem indent n).toList) (column : Nat)
    (inLine : Bool) : Shows (renderItems column inLine ns).toList := by
  induction ns generalizing inLine with
  | nil => simp [renderItems]
  | cons n ns ih =>
    obtain ⟨first, others⟩ := List.forall_mem_cons.mp each
    have leading : Shows (lead column inLine).toList := by cases inLine <;> simp [lead]
    simp [renderItems, leading, first column, ih others false, isPrintable]

theorem shows_renderEntries {es : List (Node × Node)} (keys : ∀ e ∈ es, e.1.IsKey)
    (each : ∀ e ∈ es, ∀ indent, Shows (renderValue indent e.2).toList) (column : Nat) (inLine : Bool) :
    Shows (renderEntries column inLine es).toList := by
  induction es generalizing inLine with
  | nil => simp [renderEntries]
  | cons e es ih =>
    obtain ⟨first, others⟩ := List.forall_mem_cons.mp each
    obtain ⟨isKey, otherKeys⟩ := List.forall_mem_cons.mp keys
    obtain ⟨key, v⟩ := e
    obtain ⟨name, rfl, fits, -⟩ := isKey
    have leading : Shows (lead column inLine).toList := by cases inLine <;> simp [lead]
    have shown : Shows name.toList := fits.shows (by decide)
    simp [renderEntries, renderKey, leading, shown, first column, ih otherKeys others false, isPrintable]

theorem Node.Written.shows_parts {n : Node} (written : n.Written) (indent : Nat) :
    Shows (renderValue indent n).toList ∧ Shows (renderItem indent n).toList := by
  induction written generalizing indent with
  | scalar fits =>
    have shown := shows_writeScalar (w := indent + 2) fits
    constructor <;> simpa [renderValue, renderItem, isPrintable] using shown
  | @sequence items each ih =>
    have shown := shows_renderItems fun n mem indent => (ih n mem indent).2
    cases items with
    | nil => constructor <;> simp [renderValue, renderItem, isPrintable]
    | cons n ns =>
      exact ⟨by simpa [renderValue, isPrintable] using shown indent false,
        by simpa [renderItem, isPrintable] using shown (indent + 2) true⟩
  | @mapping entries keys each ih =>
    have shown := shows_renderEntries keys fun e mem indent => (ih e mem indent).1
    cases entries with
    | nil => constructor <;> simp [renderValue, renderItem, isPrintable]
    | cons e es =>
      exact ⟨by simpa [renderValue, isPrintable] using shown (indent + 2) false,
        by simpa [renderItem, isPrintable] using shown (indent + 2) true⟩

/-- A written document shows. -/
theorem Node.Written.shows {n : Node} (written : n.Written) : Shows n.render.toList := by
  cases written with
  | scalar fits => exact shows_writeScalar fits
  | @sequence items each =>
    cases items with
    | nil => simp [render, isPrintable]
    | cons n ns => exact shows_renderItems (fun n mem indent => ((each n mem).shows_parts indent).2) 0 false
  | @mapping entries keys each =>
    cases entries with
    | nil => simp [render, isPrintable]
    | cons e es => exact shows_renderEntries keys (fun e mem indent => ((each e mem).shows_parts indent).1) 0 false

end CloudLifecycle.Yaml
