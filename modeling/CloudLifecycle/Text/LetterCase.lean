/-!
# Letter case of ASCII

Names of states, kinds and status words are compared without regard to the case of their ASCII
letters. Every other character stands for itself, so that no letter outside ASCII ever meets one inside.
-/

namespace CloudLifecycle.Text

/-- The text `s` with its ASCII letters as capitals. -/
def asciiUpper (s : String) : String := String.ofList (s.toList.map Char.toUpper)

/-- The text `s` with its ASCII letters as small letters. -/
def asciiLower (s : String) : String := String.ofList (s.toList.map Char.toLower)

@[simp] theorem toList_asciiUpper (s : String) :
    (asciiUpper s).toList = s.toList.map Char.toUpper := by
  simp [asciiUpper]

@[simp] theorem toList_asciiLower (s : String) :
    (asciiLower s).toList = s.toList.map Char.toLower := by
  simp [asciiLower]

end CloudLifecycle.Text
