import CloudLifecycle.Yaml.Node
import CloudLifecycle.Yaml.Plain

/-!
# Writing YAML

A document is written in blocks: the entries of a mapping below each other, the items of a sequence after dashes at
the column of the mapping around them, and what is empty in brackets or braces. A text is plain if it can be, a block
of lines if it has several, and else in quotes: in single ones where its characters show, in double ones where
they have to be escaped. What style is asked for is the choice of `serde_yaml`; what comes of that, and the layout, are the
rules of libyaml's emitter.
-/

namespace CloudLifecycle.Yaml

/-! ## The choice of a style -/

/-- Whether `c` shows as itself. -/
def isPrintable (c : Char) : Bool :=
  let n := c.toNat
  n = 0x0A || (0x20 ≤ n && n ≤ 0x7E) || (0xA0 ≤ n && n ≤ 0xFFFD && n ≠ 0xFEFF) || 0x10000 ≤ n

/-- Every character that ends a line, also those that a reader makes into a plain break. -/
def isAnyBreak (c : Char) : Bool := isBreak c || c = '\r' || c = '\u0085'

/-- Whether `cs` is at its end or begins with a blank or a line break. -/
def atGap : List Char → Bool
  | [] => true
  | c :: _ => isSpace c || isAnyBreak c

/-- The marks that a plain scalar may not begin with. -/
def isLeadingMark (c : Char) : Bool := "#,[]\x7b\x7d&*!|>'\"%@\x60".toList.contains c

/-- Whether the first character of a text, before `rest`, forbids a plain scalar. -/
def badStart (c : Char) (rest : List Char) : Bool :=
  isLeadingMark c || ((c = '?' || c = ':' || c = '-') && atGap rest)

/-- Whether what follows the character `before` holds a mark that ends a plain scalar: a colon before a blank, or a
number sign after one. -/
def hasInnerMark : Char → List Char → Bool
  | _, [] => false
  | before, c :: rest =>
    (c = ':' && atGap rest) || (c = '#' && (isSpace before || isAnyBreak before)) || hasInnerMark c rest

/-- Whether a text begins like a mark between documents. -/
def beginsLikeMark (cs : List Char) : Bool := "---".toList.isPrefixOf cs || "...".toList.isPrefixOf cs

/-- Whether two characters that follow each other have the properties given. -/
def hasPair (p q : Char → Bool) : List Char → Bool
  | c :: d :: rest => (p c && q d) || hasPair p q (d :: rest)
  | _ => false

/-- Whether a text can only be written in double quotes: it has characters that do not show, or a space before a
line break. -/
def needsEscapes (cs : List Char) : Bool := cs.any (!isPrintable ·) || hasPair (· = ' ') isAnyBreak cs

/-- Whether a text can be written in single quotes. -/
def fitsSingle (cs : List Char) : Bool := !needsEscapes cs && !hasPair isAnyBreak (· = ' ') cs

/-- Whether a text can be written as a block of lines. -/
def fitsBlock (cs : List Char) : Bool := !needsEscapes cs && cs.getLast? ≠ some ' '

/-- Whether a text can be written plain. -/
def fitsPlain (cs : List Char) : Bool :=
  match cs with
  | [] => true
  | c :: rest =>
    fitsSingle cs && !cs.any isAnyBreak && c ≠ ' ' && cs.getLast? ≠ some ' ' && !beginsLikeMark cs &&
      !badStart c rest && !hasInnerMark c rest

/-- The style in which a text is written. -/
def styleOf (s : String) : ScalarStyle :=
  let cs := s.toList
  if cs.contains '\n' then if fitsBlock cs then .literal else .double
  else if !isSpecial s && fitsPlain cs then .plain
  else if fitsSingle cs then .single
  else .double

/-- The node of a text. -/
def Node.ofText (s : String) : Node := .scalar (styleOf s) none s

/-- The node of a number. -/
def Node.ofNat (n : Nat) : Node := .scalar .plain none (toString n)

/-- The node of nothing. -/
def Node.null : Node := .scalar .plain none "null"

/-! ## Scalars -/

/-- `n` spaces. -/
def spaces (n : Nat) : List Char := List.replicate n ' '

/-- The characters of a text with each line after the first indented. Nothing is put on an empty line. -/
def indented (indent : Nat) : Bool → List Char → List Char
  | _, [] => []
  | lineStart, c :: rest =>
    if isAnyBreak c then c :: indented indent true rest
    else (if lineStart then spaces indent else []) ++ c :: indented indent false rest

/-- A text in single quotes. -/
def writeSingle (indent : Nat) (cs : List Char) : List Char :=
  let doubled := cs.flatMap fun c => if c = '\'' then ['\'', '\''] else [c]
  let closing := if cs.getLast?.any isAnyBreak then spaces indent else []
  '\'' :: indented indent false doubled ++ closing ++ ['\'']

/-- The number `n` in `k` hexadecimal digits, with capitals. -/
def capitalHex (k n : Nat) : List Char :=
  let digits := (Nat.toDigits 16 n).map Char.toUpper
  List.replicate (k - digits.length) '0' ++ digits

/-- How `c` is written in double quotes. -/
def escapeDouble (c : Char) : List Char :=
  let n := c.toNat
  match c with
  | '\x00' => ['\\', '0']
  | '\x07' => ['\\', 'a']
  | '\x08' => ['\\', 'b']
  | '\t' => ['\\', 't']
  | '\n' => ['\\', 'n']
  | '\x0b' => ['\\', 'v']
  | '\x0c' => ['\\', 'f']
  | '\r' => ['\\', 'r']
  | '\x1b' => ['\\', 'e']
  | '"' => ['\\', '"']
  | '\\' => ['\\', '\\']
  | '\u0085' => ['\\', 'N']
  | '\u2028' => ['\\', 'L']
  | '\u2029' => ['\\', 'P']
  | c =>
    if isPrintable c then [c]
    else if n ≤ 0xFF then ['\\', 'x'] ++ capitalHex 2 n
    else if n ≤ 0xFFFF then ['\\', 'u'] ++ capitalHex 4 n
    else ['\\', 'U'] ++ capitalHex 8 n

/-- A text in double quotes. -/
def writeDouble (cs : List Char) : List Char := '"' :: cs.flatMap escapeDouble ++ ['"']

/-- The marks after the bar of a block of lines: the indentation, where the first line does not show it, and what
becomes of the breaks at the end. -/
def blockMarks (cs : List Char) : List Char :=
  let first := if cs.head?.any fun c => c = ' ' || isAnyBreak c then ['2'] else []
  let last := match cs.reverse with
    | [] => ['-']
    | [c] => if isAnyBreak c then ['+'] else ['-']
    | c :: d :: _ => if isAnyBreak c then if isAnyBreak d then ['+'] else [] else ['-']
  first ++ last

/-- A text as a block of lines. It goes to the end of its last line if that line ends in the text. -/
def writeBlock (indent : Nat) (cs : List Char) : List Char :=
  '|' :: blockMarks cs ++ '\n' :: indented indent true cs

/-- A scalar whose further lines are indented, with the end of its last line. -/
def writeScalar (indent : Nat) (style : ScalarStyle) (text : String) : String :=
  let cs := text.toList
  match style with
  | .plain => String.ofList (cs ++ ['\n'])
  | .single => String.ofList (writeSingle indent cs ++ ['\n'])
  | .double => String.ofList (writeDouble cs ++ ['\n'])
  | .literal | .folded =>
    String.ofList (writeBlock indent cs ++ (if cs.getLast?.any isAnyBreak then [] else ['\n']))

/-! ## Documents -/

/-- What stands before an entry or an item: nothing if it goes on in the line, or else its indentation. -/
def lead (indent : Nat) (inLine : Bool) : String := if inLine then "" else String.ofList (spaces indent)

mutual

/-- A value after its key, with the end of its last line. -/
def renderValue (indent : Nat) : Node → String
  | .scalar style _ text => " " ++ writeScalar (indent + 2) style text
  | .sequence [] => " []\n"
  | .sequence (n :: ns) => "\n" ++ renderItems indent false (n :: ns)
  | .mapping [] => " \x7b\x7d\n"
  | .mapping (e :: es) => "\n" ++ renderEntries (indent + 2) false (e :: es)
  | .aliasOf number => " *" ++ toString number ++ "\n"

/-- The items of a sequence at a column. -/
def renderItems (indent : Nat) (inLine : Bool) : List Node → String
  | [] => ""
  | n :: ns => lead indent inLine ++ "-" ++ renderItem indent n ++ renderItems indent false ns

/-- An item after its dash, with the end of its last line. -/
def renderItem (indent : Nat) : Node → String
  | .scalar style _ text => " " ++ writeScalar (indent + 2) style text
  | .sequence [] => " []\n"
  | .sequence (n :: ns) => " " ++ renderItems (indent + 2) true (n :: ns)
  | .mapping [] => " \x7b\x7d\n"
  | .mapping (e :: es) => " " ++ renderEntries (indent + 2) true (e :: es)
  | .aliasOf number => " *" ++ toString number ++ "\n"

/-- The entries of a mapping at a column. Keys are scalars of one line. -/
def renderEntries (indent : Nat) (inLine : Bool) : List (Node × Node) → String
  | [] => ""
  | (k, v) :: es =>
    lead indent inLine ++ renderKey k ++ ":" ++ renderValue indent v ++ renderEntries indent false es

/-- A key. -/
def renderKey : Node → String
  | .scalar .single _ text => String.ofList (writeSingle 0 text.toList)
  | .scalar .plain _ text => text
  | .scalar _ _ text => String.ofList (writeDouble text.toList)
  | .aliasOf number => "*" ++ toString number
  | .sequence _ | .mapping _ => ""

end

/-- The text of a node that is a whole document. -/
def Node.render : Node → String
  | .mapping (e :: es) => renderEntries 0 false (e :: es)
  | .sequence (n :: ns) => renderItems 0 false (n :: ns)
  | .mapping [] => "\x7b\x7d\n"
  | .sequence [] => "[]\n"
  | .scalar style _ text => writeScalar 2 style text
  | .aliasOf number => "*" ++ toString number ++ "\n"

end CloudLifecycle.Yaml
