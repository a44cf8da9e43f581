import CloudLifecycle.Yaml.Text

/-!
# Scalars in a YAML text

The three ways to write a text in a stream: plain, in quotes, and as a block of lines. In a plain or a quoted
scalar a line break counts as a space and each further break as itself; in a block the breaks stand as written, or
are folded as well. Each reader walks through the characters once and gives back what follows the scalar. The rules are
those of libyaml's scanner.
-/

namespace CloudLifecycle.Yaml

/-- How a scalar was written. -/
inductive ScalarStyle where
  | plain
  | single
  | double
  | literal
  | folded
  deriving DecidableEq, Repr

/-- A scalar that was read, and where the text goes on. -/
structure ScalarRead where
  text : String
  rest : List Char
  position : Position
  /-- Whether the reader went on to another line. -/
  newLine : Bool

/-! ## Blanks inside a scalar -/

/-- The blanks and line breaks since the last word of a scalar. Texts are held in reverse. -/
structure Gap where
  spaces : List Char
  /-- Whether the gap goes over the end of a line. -/
  broken : Bool
  firstBreak : Option Char
  moreBreaks : List Char

namespace Gap

/-- No gap. -/
def none : Gap := ⟨[], false, .none, []⟩

/-- The gap after a line break that was escaped. -/
def escapedBreak : Gap := ⟨[], true, .none, []⟩

/-- The gap with one more blank, which does not count once a line has ended. -/
def addSpace (g : Gap) (c : Char) : Gap := if g.broken then g else { g with spaces := c :: g.spaces }

/-- The gap with one more line break. -/
def addBreak (g : Gap) (c : Char) : Gap :=
  if g.broken then { g with moreBreaks := c :: g.moreBreaks } else ⟨[], true, some c, []⟩

/-- What a gap stands for, in reverse: its blanks, or its breaks with the first of them folded. -/
def folded (g : Gap) : List Char :=
  if g.broken then
    match g.firstBreak with
    | some '\n' => if g.moreBreaks.isEmpty then [' '] else g.moreBreaks
    | some c => g.moreBreaks ++ [c]
    | .none => g.moreBreaks
  else g.spaces

end Gap

/-! ## Plain scalars -/

/-- The marks that end a word inside brackets or braces. -/
def isFlowMark (c : Char) : Bool := c = ',' || c = '[' || c = ']' || c = '{' || c = '}'

/-- Whether a colon before `cs` makes a plain scalar ambiguous inside brackets or braces. -/
def colonIsAmbiguous : List Char → Bool
  | c :: _ => isFlowMark c || c = '?'
  | [] => false

/-- Reads a plain scalar. `flow` tells whether it stands inside brackets or braces, `indent` is the first column
in which a further line may begin, and `text` holds what was read so far in reverse. -/
def readPlain (flow : Bool) (indent : Int) :
    List Char → Position → List Char → Gap → Option ScalarRead
  | [], p, text, gap => some ⟨String.ofList text.reverse, [], p, gap.broken⟩
  | c :: rest, p, text, gap =>
    if isBreak c then readPlain flow indent rest p.nextLine text (gap.addBreak c)
    else if isSpace c then
      if gap.broken && p.column < indent && c = '\t' then none
      else readPlain flow indent rest (p.right 1) text (gap.addSpace c)
    else
      let inGap := gap.broken || !gap.spaces.isEmpty
      let isOver := (inGap && (c = '#' || (!flow && p.column < indent))) ||
        (p.column = 0 && beginsWithDocumentMark (c :: rest))
      if isOver then some ⟨String.ofList text.reverse, c :: rest, p, gap.broken⟩
      else if flow && c = ':' && colonIsAmbiguous rest then none
      else if (c = ':' && atWordEnd rest) || (flow && isFlowMark c) then
        some ⟨String.ofList text.reverse, c :: rest, p, gap.broken⟩
      else readPlain flow indent rest (p.right 1) (c :: (gap.folded ++ text)) .none

/-! ## Quoted scalars -/

/-- What a letter after a backslash stands for. -/
def escaped? : Char → Option Char
  | '0' => some '\x00'
  | 'a' => some '\x07'
  | 'b' => some '\x08'
  | 't' | '\t' => some '\t'
  | 'n' => some '\n'
  | 'v' => some '\x0b'
  | 'f' => some '\x0c'
  | 'r' => some '\r'
  | 'e' => some '\x1b'
  | ' ' => some ' '
  | '"' => some '"'
  | '/' => some '/'
  | '\\' => some '\\'
  | 'N' => some '\u0085'
  | '_' => some '\u00a0'
  | 'L' => some '\u2028'
  | 'P' => some '\u2029'
  | _ => none

/-- The number of hexadecimal digits after a letter that stands for a code point. -/
def escapeLength? : Char → Option Nat
  | 'x' => some 2
  | 'u' => some 4
  | 'U' => some 8
  | _ => none

/-- The character with a code point, if there is one. -/
def charOf? (n : Nat) : Option Char := if n.isValidChar then some (Char.ofNat n) else none

/-- Reads what follows a single quote. A quote is written twice. -/
def readSingle : List Char → Position → List Char → Gap → Option ScalarRead
  | [], _, _, _ => none
  | '\'' :: '\'' :: rest, p, text, gap => readSingle rest (p.right 2) ('\'' :: (gap.folded ++ text)) .none
  | c :: rest, p, text, gap =>
    if isBreak c then readSingle rest p.nextLine text (gap.addBreak c)
    else if isSpace c then readSingle rest (p.right 1) text (gap.addSpace c)
    else if p.column = 0 && beginsWithDocumentMark (c :: rest) then none
    else if c = '\'' then some ⟨String.ofList (gap.folded ++ text).reverse, rest, p.right 1, false⟩
    else readSingle rest (p.right 1) (c :: (gap.folded ++ text)) .none

/-- How far an escape was read: not begun, or so many hexadecimal digits to come after those that make a number. -/
inductive EscapeState where
  | idle
  | digits (toCome value : Nat)

/-- Reads what follows a double quote. -/
def readDouble : List Char → Position → List Char → Gap → EscapeState → Option ScalarRead
  | [], _, _, _, _ => none
  | c :: rest, p, text, gap, .digits toCome value =>
    match hexValue? c with
    | none => none
    | some d =>
      let value := 16 * value + d
      if toCome ≤ 1 then
        match charOf? value with
        | some e => readDouble rest (p.right 1) (e :: text) gap .idle
        | none => none
      else readDouble rest (p.right 1) text gap (.digits (toCome - 1) value)
  | '\\' :: c :: rest, p, text, gap, .idle =>
    if isBreak c then readDouble rest p.nextLine (gap.folded ++ text) .escapedBreak .idle
    else
      match escaped? c, escapeLength? c with
      | some e, _ => readDouble rest (p.right 2) (e :: (gap.folded ++ text)) .none .idle
      | none, some n => readDouble rest (p.right 2) (gap.folded ++ text) .none (.digits n 0)
      | none, none => none
  | c :: rest, p, text, gap, .idle =>
    if isBreak c then readDouble rest p.nextLine text (gap.addBreak c) .idle
    else if isSpace c then readDouble rest (p.right 1) text (gap.addSpace c) .idle
    else if p.column = 0 && beginsWithDocumentMark (c :: rest) then none
    else if c = '"' then some ⟨String.ofList (gap.folded ++ text).reverse, rest, p.right 1, false⟩
    else readDouble rest (p.right 1) (c :: (gap.folded ++ text)) .none .idle

/-! ## Blocks of lines -/

/-- What becomes of the line breaks at the end of a block. -/
inductive Chomping where
  /-- None is kept. -/
  | strip
  /-- The first is kept. -/
  | clip
  /-- All are kept. -/
  | keep
  deriving DecidableEq, Repr

/-- Reads the marks after `|` or `>`: the chomping and the indentation, each at most once and in either order. -/
def readBlockMarks : List Char → Option (Chomping × Nat × Nat × List Char) := fun cs =>
  let chomping? : Char → Option Chomping := fun
    | '+' => some .keep
    | '-' => some .strip
    | _ => none
  match cs with
  | c :: d :: rest =>
    match chomping? c with
    | some chomping =>
      if d.isDigit then if d = '0' then none else some (chomping, d.toNat - 48, 2, rest)
      else some (chomping, 0, 1, d :: rest)
    | none =>
      if c.isDigit then
        if c = '0' then none
        else
          match chomping? d with
          | some chomping => some (chomping, c.toNat - 48, 2, rest)
          | none => some (.clip, c.toNat - 48, 1, d :: rest)
      else some (.clip, 0, 0, cs)
  | [c] =>
    match chomping? c with
    | some chomping => some (chomping, 0, 1, [])
    | none => if c.isDigit then if c = '0' then none else some (.clip, c.toNat - 48, 1, []) else some (.clip, 0, 0, cs)
  | [] => some (.clip, 0, 0, [])

/-- A block that is being read. -/
structure BlockState where
  /-- The column of its lines, once it is known. -/
  indent : Option Nat
  /-- The deepest column of the lines before it is known. -/
  deepest : Nat
  /-- What was read so far, in reverse. -/
  text : List Char
  /-- The break at the end of the last line. -/
  lineBreak : List Char
  /-- The breaks of the empty lines since, in reverse. -/
  emptyLines : List Char
  /-- Whether the last line begins with a blank. -/
  blankLine : Bool
  /-- Whether a line is being read. -/
  inLine : Bool

namespace BlockState

/-- What a block stands for when it ends. -/
def finish (s : BlockState) (chomping : Chomping) : String :=
  let text := match chomping with
    | .strip => s.text
    | .clip => s.lineBreak ++ s.text
    | .keep => s.emptyLines ++ s.lineBreak ++ s.text
  String.ofList text.reverse

/-- The block at the start of a line that begins with `c`. Where lines are folded, the break before it becomes a
space, unless it or the line before it begins with a blank or empty lines lie between. -/
def beginLine (s : BlockState) (isFolded : Bool) (c : Char) : BlockState :=
  let text :=
    if isFolded && s.lineBreak = ['\n'] && !s.blankLine && !isSpace c then
      s.emptyLines ++ ((if s.emptyLines.isEmpty then [' '] else []) ++ s.text)
    else s.emptyLines ++ (s.lineBreak ++ s.text)
  { s with
    text := c :: text
    lineBreak := []
    emptyLines := []
    blankLine := isSpace c
    inLine := true }

end BlockState

/-- Reads the lines of a block. `least` is the smallest column that they may have. -/
def readBlockLines (isFolded : Bool) (chomping : Chomping) (least : Nat) :
    List Char → Position → BlockState → Option ScalarRead
  | [], p, s => some ⟨s.finish chomping, [], p, false⟩
  | c :: rest, p, s =>
    if s.inLine then
      if isBreak c then
        readBlockLines isFolded chomping least rest p.nextLine { s with lineBreak := [c], inLine := false }
      else readBlockLines isFolded chomping least rest (p.right 1) { s with text := c :: s.text }
    else
      let mayIndent := match s.indent with
        | some n => p.column < n
        | none => true
      if c = ' ' && mayIndent then readBlockLines isFolded chomping least rest (p.right 1) s
      else if c = '\t' && mayIndent then none
      else
        let deepest := max s.deepest p.column
        if isBreak c then
          readBlockLines isFolded chomping least rest p.nextLine
            { s with deepest := deepest, emptyLines := c :: s.emptyLines }
        else
          let indent := s.indent.getD (max deepest least)
          if p.column = indent then
            readBlockLines isFolded chomping least rest (p.right 1)
              ({ s with indent := some indent, deepest := deepest }.beginLine isFolded c)
          else some ⟨s.finish chomping, c :: rest, p, false⟩

/-- Reads what follows `|` or `>`. `parent` is the column of the block around it, or -1. -/
def readBlock (isFolded : Bool) (parent : Int) (cs : List Char) (p : Position) : Option ScalarRead := do
  let (chomping, increment, used, cs) ← readBlockMarks cs
  let blanks := cs.takeWhile isSpace
  let cs := cs.dropWhile isSpace
  let comment := if cs.head? = some '#' then cs.takeWhile (!isBreak ·) else []
  let cs := cs.drop comment.length
  let start : BlockState :=
    ⟨if increment = 0 then none else some ((max parent 0).toNat + increment), 0, [], [], [], false, false⟩
  let least := max 1 (parent + 1).toNat
  match cs with
  | [] => readBlockLines isFolded chomping least [] (p.right (used + blanks.length + comment.length)) start
  | c :: rest => if isBreak c then readBlockLines isFolded chomping least rest p.nextLine start else none

end CloudLifecycle.Yaml
