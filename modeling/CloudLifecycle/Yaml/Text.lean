/-!
# The text of a YAML stream

The characters that a stream may hold, line breaks and blanks, and the place of a character. Every kind of line break
that stands for a plain one is made into it before anything else is looked at, so that a break is one character.

The modules on YAML stand for `serde_yaml` 0.9 and for what it is built on, the reader, scanner, parser and emitter of
libyaml. Where these differ from the specification of the language, the modules follow them. Here the rules are those of
libyaml's reader, and of its scanner for line breaks.
-/

namespace CloudLifecycle.Yaml

/-- The characters that may stand in a stream. -/
def isAllowed (c : Char) : Bool :=
  let n := c.toNat
  n = 0x09 || n = 0x0A || n = 0x0D || (0x20 ≤ n && n ≤ 0x7E) || n = 0x85 || (0xA0 ≤ n && n ≤ 0xD7FF) ||
    (0xE000 ≤ n && n ≤ 0xFFFD) || 0x10000 ≤ n

/-- The byte order mark. -/
def byteOrderMark : Char := '\ufeff'

/-- Makes line breaks of one or two control characters into a single plain one. -/
def plainBreaks : List Char → List Char
  | '\r' :: '\n' :: rest => '\n' :: plainBreaks rest
  | c :: rest => (if c = '\r' ∨ c = '\u0085' then '\n' else c) :: plainBreaks rest
  | [] => []

/-- Whether `c` ends a line. -/
def isBreak (c : Char) : Bool := c = '\n' || c = '\u2028' || c = '\u2029'

/-- Whether `c` is a space or a tab. -/
def isSpace (c : Char) : Bool := c = ' ' || c = '\t'

/-- Whether a word ends before `cs`: at a blank, at a line break or at the end of the text. -/
def atWordEnd : List Char → Bool
  | [] => true
  | c :: _ => isSpace c || isBreak c

/-- Whether `cs` begins with three marks `c` that stand alone. -/
def beginsWithMark (c : Char) : List Char → Bool
  | a :: b :: d :: rest => a = c && b = c && d = c && atWordEnd rest
  | _ => false

/-- Whether `cs` begins with a mark that separates documents. -/
def beginsWithDocumentMark (cs : List Char) : Bool := beginsWithMark '-' cs || beginsWithMark '.' cs

/-- Whether `c` may stand in a name: an ASCII letter, a digit, a dash or an underscore. -/
def isNameChar (c : Char) : Bool := c.isAlphanum || c = '_' || c = '-'

/-- The number that a hexadecimal digit stands for. -/
def hexValue? (c : Char) : Option Nat :=
  if '0' ≤ c ∧ c ≤ '9' then some (c.toNat - 48)
  else if 'a' ≤ c ∧ c ≤ 'f' then some (c.toNat - 87)
  else if 'A' ≤ c ∧ c ≤ 'F' then some (c.toNat - 55)
  else none

/-- The place of a character in a text. -/
structure Position where
  line : Nat
  column : Nat
  deriving DecidableEq, Repr

namespace Position

/-- The place after `n` more characters of the same line. -/
def right (p : Position) (n : Nat) : Position := { p with column := p.column + n }

/-- The place at the start of the next line. -/
def nextLine (p : Position) : Position := ⟨p.line + 1, 0⟩

/-- The place after the character `c`. -/
def after (p : Position) (c : Char) : Position := if isBreak c then p.nextLine else p.right 1

end Position

end CloudLifecycle.Yaml
