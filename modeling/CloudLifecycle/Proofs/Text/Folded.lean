import CloudLifecycle.Text.Blank
import CloudLifecycle.Text.LetterCase
import Mathlib

/-!
# Trimming and capitals

Words are compared trimmed and in capitals. Both steps may be repeated and exchanged: a letter is no blank in either
case, so capitals neither uncover nor hide one (`trim_asciiUpper`). What comes of it neither begins nor ends with a
blank and has no small letter, and every text of that form stays as it is (`isFolded_of_any`, `IsFolded.eq`).
-/

namespace CloudLifecycle.Text

/-! ## Blanks around a text -/

/-- A text has no character but blanks exactly if trimming leaves nothing of it. -/
theorem trim_eq_empty_iff (s : String) : trim s = "" ↔ isBlankText s = true := by
  rw [← String.toList_eq_nil_iff, toList_trim, trimChars, isBlankText, List.reverse_eq_nil_iff,
    List.dropWhile_eq_nil_iff, List.all_eq_true]
  constructor
  · intro rest
    -- what follows the first run of blanks would begin with a character that is none
    cases h : s.toList.dropWhile isBlank with
    | nil => exact List.dropWhile_eq_nil_iff.mp h
    | cons c cs =>
      have blank : isBlank c = true := rest c (by simp [h])
      have visible : isBlank c = false := head_dropWhile_isBlank s.toList c (by rw [h, List.head?_cons])
      exact absurd blank (by simp [visible])
  · intro blank c mem
    exact blank c ((List.dropWhile_sublist _).subset (List.mem_reverse.mp mem))

/-- Blanks around a text are lost when it is trimmed. -/
theorem trimChars_surrounded {before after : List Char} (hb : ∀ c ∈ before, isBlank c = true)
    (ha : ∀ c ∈ after, isBlank c = true) (cs : List Char) : trimChars (before ++ cs ++ after) = trimChars cs := by
  have reversed : ∀ c ∈ after.reverse, isBlank c = true := fun c mem => ha c (List.mem_reverse.mp mem)
  rw [trimChars, List.append_assoc, List.dropWhile_append_of_pos hb, List.dropWhile_append, trimChars]
  cases h : cs.dropWhile isBlank with
  | nil => rw [List.isEmpty_nil, if_pos rfl, List.dropWhile_eq_nil_iff.mpr ha]
  | cons c rest =>
    rw [List.isEmpty_cons, if_neg (by simp), List.reverse_append, List.dropWhile_append_of_pos reversed]

/-- Trimming takes nothing away but blanks around a text. -/
theorem exists_surrounding (cs : List Char) :
    ∃ before after, cs = before ++ trimChars cs ++ after ∧ (∀ c ∈ before, isBlank c = true) ∧
      ∀ c ∈ after, isBlank c = true := by
  let rest := cs.dropWhile isBlank
  have split : rest = trimChars cs ++ (rest.reverse.takeWhile isBlank).reverse := by
    rw [trimChars, ← List.reverse_append, List.takeWhile_append_dropWhile, List.reverse_reverse]
  refine ⟨cs.takeWhile isBlank, (rest.reverse.takeWhile isBlank).reverse, ?_, fun c mem => ?_, fun c mem => ?_⟩
  · rw [List.append_assoc, ← split, List.takeWhile_append_dropWhile]
  · exact List.mem_takeWhile_imp mem
  · exact List.mem_takeWhile_imp (List.mem_reverse.mp mem)

/-! ## Capitals -/

/-- Letters are no blanks. -/
theorem isBlank_of_isAlpha {c : Char} (h : c.isAlpha = true) : isBlank c = false := by
  have range : (65 ≤ c.toNat ∧ c.toNat ≤ 90) ∨ (97 ≤ c.toNat ∧ c.toNat ≤ 122) := by
    simpa [Char.isAlpha, Char.isUpper, Char.isLower, UInt32.le_iff_toNat_le] using h
  simp only [isBlank, Bool.or_eq_false_iff, Bool.and_eq_false_iff, decide_eq_false_iff_not]
  omega

theorem isBlank_toUpper (c : Char) : isBlank c.toUpper = isBlank c := by
  by_cases small : c.isLower = true
  · have letter : c.isAlpha = true := by simp [Char.isAlpha, small]
    rw [isBlank_of_isAlpha letter, isBlank_of_isAlpha ((Char.isAlpha_toUpper_eq_isAlpha c).trans letter)]
  · rw [Char.toUpper_eq_of_not_isLower small]

theorem trimChars_map_toUpper (cs : List Char) : trimChars (cs.map Char.toUpper) = (trimChars cs).map Char.toUpper := by
  have same : isBlank ∘ Char.toUpper = isBlank := funext isBlank_toUpper
  rw [trimChars, List.dropWhile_map, same, ← List.map_reverse, List.dropWhile_map, same, ← List.map_reverse, trimChars]

/-- It does not matter whether a text is trimmed first or written in capitals first. -/
theorem trim_asciiUpper (s : String) : trim (asciiUpper s) = asciiUpper (trim s) :=
  String.toList_inj.mp (by simp [trimChars_map_toUpper])

/-- `d` is `c`, or the same letter of ASCII in the other case. -/
def SameLetter (c d : Char) : Prop := d = c ∨ d = c.toUpper ∨ d = c.toLower

theorem SameLetter.toUpper_eq {c d : Char} (h : SameLetter c d) : d.toUpper = c.toUpper := by
  rcases h with rfl | rfl | rfl
  · rfl
  · exact Char.toUpper_toUpper_eq_toUpper c
  · exact Char.toUpper_toLower_eq_toUpper c

/-- Texts that differ in the case of letters only have the same capitals. -/
theorem map_toUpper_of_sameLetters {cs ds : List Char} (h : List.Forall₂ SameLetter cs ds) :
    ds.map Char.toUpper = cs.map Char.toUpper := by
  induction h with
  | nil => rfl
  | cons same _ ih => rw [List.map_cons, List.map_cons, same.toUpper_eq, ih]

/-! ## Folded texts -/

/-- A text that is trimmed and has no small letter of ASCII. -/
structure IsFolded (s : String) : Prop where
  first : ∀ c, s.toList.head? = some c → isBlank c = false
  last : ∀ c, s.toList.getLast? = some c → isBlank c = false
  capital : ∀ c ∈ s.toList, c.isLower = false

/-- Whatever is trimmed and written in capitals is folded. -/
theorem isFolded_of_any (s : String) : IsFolded (asciiUpper (trim s)) where
  first := by
    rw [← trim_asciiUpper, toList_trim]
    exact head_trimChars _
  last := by
    rw [← trim_asciiUpper, toList_trim]
    exact getLast_trimChars _
  capital := by
    rw [toList_asciiUpper]
    intro c mem
    obtain ⟨d, _, rfl⟩ := List.mem_map.mp mem
    exact Char.isLower_toUpper_eq_false d

/-- What is folded already is its own folded form. -/
theorem IsFolded.eq {s : String} (h : IsFolded s) : asciiUpper (trim s) = s := by
  have trimmed : trimChars s.toList = s.toList := trimChars_eq_self s.toList h.first h.last
  have capitals : s.toList.map Char.toUpper = s.toList := by
    refine (List.map_congr_left fun c mem => ?_).trans (List.map_id _)
    exact Char.toUpper_eq_of_not_isLower (by simp [h.capital c mem])
  exact String.toList_inj.mp (by rw [toList_asciiUpper, toList_trim, trimmed, capitals])

end CloudLifecycle.Text
