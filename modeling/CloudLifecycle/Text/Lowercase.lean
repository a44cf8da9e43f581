import CloudLifecycle.Text.LowercaseTable

/-!
# Lower case of any text

Small letters for all of Unicode. One capital has two characters as its small form (`İ`), and a
capital sigma at the end of a word takes its final form: it is at the end when, skipping characters that
case ignores, a cased letter stands before it and none after it.
-/

namespace CloudLifecycle.Text

/-- Whether `n` lies in one of the closed ranges. -/
def inRanges (ranges : Array (Nat × Nat)) (n : Nat) : Bool :=
  ranges.any fun r => r.1 ≤ n && n ≤ r.2

/-- Whether `c` is a letter with case. -/
def isCased (c : Char) : Bool := inRanges casedRanges c.toNat

/-- Whether the rules of case look through `c`. -/
def isCaseIgnorable (c : Char) : Bool := inRanges caseIgnorableRanges c.toNat

/-- The small form of `c` on its own. -/
def lowerChar (c : Char) : List Char :=
  let n := c.toNat
  if n < 128 then [c.toLower]
  else if n = 0x130 then ['i', Char.ofNat 0x307]
  else
    match lowercaseRanges.find? fun r => r.1 ≤ n && n ≤ r.2.1 && (n - r.1) % r.2.2.1 = 0 with
    | some r => [Char.ofNat (n + r.2.2.2).toNat]
    | none => [c]

/-- Whether the first character that case does not look through is cased. -/
def beginsCased (cs : List Char) : Bool :=
  match cs.dropWhile isCaseIgnorable with
  | c :: _ => isCased c
  | [] => false

/-- The small form of a capital sigma with `before` (nearest first) and `after` around it. -/
def lowerSigma (before after : List Char) : Char :=
  if beginsCased before && !beginsCased after then 'ς' else 'σ'

/-- The small forms of the characters that follow `before`, which is held nearest first. -/
def lowerFrom (before : List Char) : List Char → List Char
  | [] => []
  | c :: rest =>
    (if c = 'Σ' then [lowerSigma before rest] else lowerChar c) ++ lowerFrom (c :: before) rest

/-- The text `s` in small letters. -/
def lowercase (s : String) : String := String.ofList (lowerFrom [] s.toList)

end CloudLifecycle.Text
