/-!
# White space

The characters of the Unicode property White_Space, and what is left of a text when they are cut
from both ends. Two facts say what trimming does: the result neither begins nor ends with a blank
(`head_trimChars`, `getLast_trimChars`), and a text with that property is its own trimming
(`trimChars_eq_self`), so that trimming twice changes nothing.
-/

namespace CloudLifecycle.Text

/-- The characters with the property White_Space. -/
def isBlank (c : Char) : Bool :=
  let n := c.toNat
  (9 ≤ n && n ≤ 13) || n = 0x20 || n = 0x85 || n = 0xA0 || n = 0x1680 ||
    (0x2000 ≤ n && n ≤ 0x200A) || n = 0x2028 || n = 0x2029 || n = 0x202F || n = 0x205F || n = 0x3000

/-- The characters of `cs` after the blanks it begins with. -/
def trimStartChars (cs : List Char) : List Char := cs.dropWhile isBlank

/-- The characters of `cs` without the blanks at both ends. -/
def trimChars (cs : List Char) : List Char :=
  ((cs.dropWhile isBlank).reverse.dropWhile isBlank).reverse

/-- The text `s` without the blanks at both ends. -/
def trim (s : String) : String := String.ofList (trimChars s.toList)

/-- Whether `s` has no character but blanks. -/
def isBlankText (s : String) : Bool := s.toList.all isBlank

@[simp] theorem toList_trim (s : String) : (trim s).toList = trimChars s.toList := by
  simp [trim]

/-- What follows the first run of blanks does not begin with a blank. -/
theorem head_dropWhile_isBlank (cs : List Char) (c : Char) (h : (cs.dropWhile isBlank).head? = some c) :
    isBlank c = false := by
  induction cs with
  | nil => simp at h
  | cons d r ih =>
    by_cases hd : isBlank d = true
    · simp only [List.dropWhile_cons_of_pos hd] at h
      exact ih h
    · simp only [List.dropWhile_cons_of_neg hd, List.head?_cons, Option.some.injEq] at h
      simpa [h] using hd

/-- A trimmed text does not end with a blank. -/
theorem getLast_trimChars (cs : List Char) (c : Char) (h : (trimChars cs).getLast? = some c) :
    isBlank c = false := by
  simp only [trimChars, List.getLast?_reverse] at h
  exact head_dropWhile_isBlank _ _ h

/-- A trimmed text does not begin with a blank. -/
theorem head_trimChars (cs : List Char) (c : Char) (h : (trimChars cs).head? = some c) : isBlank c = false := by
  obtain ⟨cut, blanks⟩ : ∃ cut, cs.dropWhile isBlank = trimChars cs ++ cut := by
    refine ⟨((cs.dropWhile isBlank).reverse.takeWhile isBlank).reverse, ?_⟩
    rw [trimChars, ← List.reverse_append, List.takeWhile_append_dropWhile, List.reverse_reverse]
  refine head_dropWhile_isBlank cs c ?_
  rw [blanks, List.head?_append, h, Option.some_or]

/-- A text that neither begins nor ends with a blank is its own trimming. -/
theorem trimChars_eq_self (cs : List Char) (first : ∀ c, cs.head? = some c → isBlank c = false)
    (last : ∀ c, cs.getLast? = some c → isBlank c = false) : trimChars cs = cs := by
  have drop : ∀ ds : List Char, (∀ c, ds.head? = some c → isBlank c = false) →
      ds.dropWhile isBlank = ds := by
    intro ds hd
    cases ds with
    | nil => rfl
    | cons d r => exact List.dropWhile_cons_of_neg (by simp [hd d rfl])
  rw [trimChars, drop cs first, drop cs.reverse (by simpa [List.head?_reverse] using last),
    List.reverse_reverse]

end CloudLifecycle.Text
