import CloudLifecycle.Proofs.Yaml.Digits
import Mathlib.Data.List.Basic
import Mathlib.Tactic.SplitIfs

/-!
# Styles that fit a text

The style that is chosen for a text fits it, and what could be read as something else than a text is not plain
(`styleOf_fits`). A number, on the other hand, is always plain (`fits_toString`).
-/

namespace CloudLifecycle.Yaml

/-- Whether a text can be written in a style. -/
def ScalarStyle.Fits : ScalarStyle → List Char → Prop
  | .plain, cs => cs ≠ [] ∧ fitsPlain cs = true
  | .single, cs => '\n' ∉ cs ∧ fitsSingle cs = true
  | .double, _ => True
  | .literal, cs => cs ≠ [] ∧ fitsBlock cs = true
  | .folded, _ => False

/-- The style of a text fits it, and what stands for something else than the text is not plain. -/
theorem styleOf_fits (s : String) : (styleOf s).Fits s.toList ∧ (styleOf s = .plain → isSpecial s = false) := by
  simp only [styleOf, List.contains_iff_mem]
  split_ifs with lines block plain single
  · exact ⟨⟨List.ne_nil_of_mem lines, block⟩, by simp⟩
  · exact ⟨trivial, by simp⟩
  · simp only [Bool.and_eq_true, Bool.not_eq_true'] at plain
    have nonempty : s.toList ≠ [] := fun empty => by
      rw [String.toList_eq_nil_iff.mp empty] at plain
      exact absurd plain.1 (by decide)
    exact ⟨⟨nonempty, plain.2⟩, fun _ => plain.1⟩
  · exact ⟨⟨lines, single⟩, by simp⟩
  · exact ⟨trivial, by simp⟩

/-! ## Texts without marks -/

theorem hasPair_cons {p q : Char → Bool} {c : Char} {cs : List Char} :
    hasPair p q (c :: cs) = false ↔ (p c = true → ∀ d ∈ cs.head?, q d = false) ∧ hasPair p q cs = false := by
  cases cs with
  | nil => simp [hasPair]
  | cons d cs => simp [hasPair]

/-- Whether a character has no meaning of its own in a plain scalar. -/
def isOrdinary (c : Char) : Bool :=
  isPrintable c && !isAnyBreak c && !isLeadingMark c && !" :#?-.".toList.contains c

theorem hasPair_eq_false {p q : Char → Bool} {cs : List Char} (none : ∀ c ∈ cs, p c = false) :
    hasPair p q cs = false := by
  induction cs with
  | nil => rfl
  | cons c cs ih =>
    obtain ⟨first, others⟩ := List.forall_mem_cons.mp none
    simp [hasPair_cons, first, ih others]

theorem hasInnerMark_eq_false {c : Char} {cs : List Char} (none : ∀ d ∈ cs, d ≠ ':' ∧ d ≠ '#') :
    hasInnerMark c cs = false := by
  induction cs generalizing c with
  | nil => rfl
  | cons d cs ih =>
    obtain ⟨⟨colon, sign⟩, others⟩ := List.forall_mem_cons.mp none
    simp [hasInnerMark, colon, sign, ih others]

theorem fitsPlain_of_ordinary {cs : List Char} (ordinary : ∀ c ∈ cs, isOrdinary c = true) : fitsPlain cs = true := by
  cases cs with
  | nil => rfl
  | cons c cs =>
    simp only [isOrdinary, Bool.and_eq_true, Bool.not_eq_true'] at ordinary
    have unbroken : ∀ d ∈ c :: cs, isAnyBreak d = false := fun d mem => (ordinary d mem).1.1.2
    have unmarked : ∀ d ∈ c :: cs, d ≠ ' ' ∧ d ≠ ':' ∧ d ≠ '#' ∧ d ≠ '?' ∧ d ≠ '-' ∧ d ≠ '.' := fun d mem => by
      simpa using (ordinary d mem).2
    have single : fitsSingle (c :: cs) = true := by
      have shown : (c :: cs).any (!isPrintable ·) = false := by simpa using fun d mem => (ordinary d mem).1.1.1
      have unspaced : ∀ d ∈ c :: cs, decide (d = ' ') = false := fun d mem => by simp [unmarked d mem]
      rw [fitsSingle, needsEscapes, shown, hasPair_eq_false unspaced, hasPair_eq_false unbroken]
      rfl
    have inLine : (c :: cs).any isAnyBreak = false := by simpa using unbroken
    have last : (c :: cs).getLast? ≠ some ' ' := fun ends => (unmarked ' ' (List.mem_of_getLast? ends)).1 rfl
    have inner : hasInnerMark c cs = false := hasInnerMark_eq_false fun d mem => by
      obtain ⟨-, colon, sign, -⟩ := unmarked d (List.mem_cons_of_mem _ mem)
      exact ⟨colon, sign⟩
    obtain ⟨space, colon, -, question, dash, dot⟩ := unmarked c List.mem_cons_self
    have first : beginsLikeMark (c :: cs) = false := by simp [beginsLikeMark, List.isPrefixOf, Ne.symm dash, Ne.symm dot]
    have start : badStart c cs = false := by simp [badStart, (ordinary c List.mem_cons_self).1.2, colon, question, dash]
    simp [fitsPlain, single, inLine, last, inner, first, start, space]

theorem isOrdinary_digitChar {d : Nat} (h : d < 16) : isOrdinary d.digitChar = true := by
  revert d
  decide

/-- A number is written plain. -/
theorem fits_toString (n : Nat) : ScalarStyle.plain.Fits (toString n).toList := by
  rw [Nat.toString_eq_repr, Nat.toList_repr]
  refine ⟨Nat.toDigits_ne_nil, fitsPlain_of_ordinary fun c mem => ?_⟩
  obtain ⟨d, small, rfl⟩ := exists_digitChar (by decide) mem
  exact isOrdinary_digitChar (by omega)

end CloudLifecycle.Yaml
