import CloudLifecycle.Yaml.Text

/-!
# What plain scalars stand for

A plain scalar may be meant as something else than a text: nothing, a truth value or a number. A text that would be
taken for one of these has to be quoted. What counts as one is the choice of `serde_yaml`, which resolves plain scalars by
rules of its own and asks them again before it writes a text.
-/

namespace CloudLifecycle.Yaml

/-- The words for nothing. -/
def isNullWord (s : String) : Bool := ["null", "Null", "NULL", "~"].contains s

/-- The words for truth values. -/
def isBoolWord (s : String) : Bool := ["true", "True", "TRUE", "false", "False", "FALSE"].contains s

/-- The value of a digit in a base up to sixteen. -/
def digitValue? (base : Nat) (c : Char) : Option Nat :=
  match hexValue? c with
  | some d => if d < base then some d else none
  | none => none

/-- The number that is written in a base with no other characters than its digits. -/
def naturalIn? (base : Nat) : List Char → Option Nat
  | [] => none
  | cs => cs.foldlM (fun n c => (digitValue? base c).map (base * n + ·)) 0

/-- Whether `cs` is a sign or none, a zero, and at least one more digit. Such a text is no number. -/
def isPaddedNumber (cs : List Char) : Bool :=
  let cs := match cs with
    | '+' :: rest | '-' :: rest => rest
    | cs => cs
  match cs with
  | '0' :: d :: rest => (d :: rest).all Char.isDigit
  | _ => false

/-- The natural number in decimal digits or, after `0x`, `0o` or `0b`, in digits of base 16, 8 or 2. -/
def unsignedDigits? (cs : List Char) : Option Nat :=
  match cs with
  | '0' :: 'x' :: rest => naturalIn? 16 rest
  | '0' :: 'o' :: rest => naturalIn? 8 rest
  | '0' :: 'b' :: rest => naturalIn? 2 rest
  | cs => if isPaddedNumber cs then none else naturalIn? 10 cs

/-- The natural number that a plain scalar stands for; a plus may come first. -/
def natural? (s : String) : Option Nat :=
  match s.toList with
  | '+' :: rest => unsignedDigits? rest
  | cs => unsignedDigits? cs

/-- Whether a plain scalar stands for an integer of at most 128 bits. -/
def isInteger (s : String) : Bool :=
  match s.toList with
  | '-' :: rest => (unsignedDigits? rest).any (· ≤ Nat.pow 2 127)
  | _ => (natural? s).any (· < Nat.pow 2 128)

/-! ## Decimal fractions -/

/-- The parts of a decimal number: its digits, how many of them follow the point, and the power of ten. -/
structure Decimal where
  digits : List Char
  places : Nat
  exponent : Int

/-- An exponent: a sign or none, and digits. -/
def readExponent? : List Char → Option Int
  | '+' :: rest => (naturalIn? 10 rest).map Int.ofNat
  | '-' :: rest => (naturalIn? 10 rest).map fun n => -(n : Int)
  | rest => (naturalIn? 10 rest).map Int.ofNat

/-- A decimal number without a sign: digits with at most one point among them, of which one is there at least, and
perhaps an exponent. -/
def readDecimal? (cs : List Char) : Option Decimal :=
  let whole := cs.takeWhile Char.isDigit
  let rest := cs.drop whole.length
  let (fraction, rest) := match rest with
    | '.' :: rest => (rest.takeWhile Char.isDigit, rest.dropWhile Char.isDigit)
    | rest => ([], rest)
  if whole.isEmpty && fraction.isEmpty then none
  else
    match rest with
    | [] => some ⟨whole ++ fraction, fraction.length, 0⟩
    | c :: rest =>
      if c = 'e' ∨ c = 'E' then
        (readExponent? rest).map fun e => ⟨whole ++ fraction, fraction.length, e⟩
      else none

/-- The least number that is too large for a double: half a unit above the largest. -/
def doubleLimit : Nat := Nat.pow 2 1024 - Nat.pow 2 970

/-- Whether a decimal number is within the range of a double. -/
def Decimal.isFinite (d : Decimal) : Bool :=
  let digits := d.digits.dropWhile (· = '0')
  let shift := d.exponent - d.places
  if digits.isEmpty then true
  else if (digits.length : Int) + shift > 310 then false
  else if (digits.length : Int) + shift < 300 then true
  else
    let n := digits.foldl (fun n c => n * 10 + (c.toNat - 48)) 0
    if 0 ≤ shift then n * Nat.pow 10 shift.toNat < doubleLimit else n < doubleLimit * Nat.pow 10 (-shift).toNat

/-- Whether a plain scalar stands for a fraction: a decimal number in the range of a double, or one of the words for
what is no number or infinite. -/
def isFraction (s : String) : Bool :=
  let unsigned := match s.toList with
    | '+' :: rest | '-' :: rest => rest
    | cs => cs
  [".inf", ".Inf", ".INF"].contains (String.ofList unsigned) || [".nan", ".NaN", ".NAN"].contains s ||
    (readDecimal? unsigned).any Decimal.isFinite

/-- Whether a plain scalar of that text stands for something else than the text, or looks like a number. -/
def isSpecial (s : String) : Bool :=
  s.isEmpty || isNullWord s || isBoolWord s || isInteger s || isPaddedNumber s.toList || isFraction s

end CloudLifecycle.Yaml
