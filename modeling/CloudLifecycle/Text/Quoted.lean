import CloudLifecycle.Text.VisibleTable

/-!
# Quoted text

A text between double quotes for a reader of diagnostics. Quotes and backslashes are escaped, the
usual control characters by a letter, and whatever has no visible form of its own by its code point.
-/

namespace CloudLifecycle.Text

/-- Whether `c` prints as itself: it is neither hidden nor attached to the character before it. -/
def isVisible (c : Char) : Bool :=
  let n := c.toNat
  if n < 127 then 32 ≤ n
  else !(hiddenRanges.any fun r => r.1 ≤ n && n ≤ r.2) && !(extendingRanges.any fun r => r.1 ≤ n && n ≤ r.2)

/-- The digits of `n` in base sixteen, in small letters. -/
def hexDigits (n : Nat) : List Char := Nat.toDigits 16 n

/-- How `c` is written inside quotes. -/
def quoteChar (c : Char) : List Char :=
  match c with
  | '"' => ['\\', '"']
  | '\\' => ['\\', '\\']
  | '\n' => ['\\', 'n']
  | '\r' => ['\\', 'r']
  | '\t' => ['\\', 't']
  | '\x00' => ['\\', '0']
  | c => if isVisible c then [c] else ['\\', 'u', '\x7b'] ++ hexDigits c.toNat ++ ['\x7d']

/-- The text `s` in quotes. -/
def quoted (s : String) : String :=
  String.ofList ('"' :: s.toList.flatMap quoteChar ++ ['"'])

/-- The texts of a list, each in quotes, between brackets. -/
def quotedList (ss : List String) : String :=
  "[" ++ ", ".intercalate (ss.map quoted) ++ "]"

end CloudLifecycle.Text
