import CloudLifecycle.Yaml.Scalar

/-!
# Tokens of a YAML stream

A stream is a list of tokens: the marks of its structure, anchors, tags and scalars. Blocks have no marks of their
own in the text; their starts and ends follow from the columns of what they hold. A key of a mapping is known for one only
when its colon has been read, and is marked as a key then, in its place before the tokens read meanwhile.

`Token.scan` reads a whole stream. There is no answer for a text that has no tokens. The rules are those of libyaml's
scanner, its limit for the length of a key among them.
-/

namespace CloudLifecycle.Yaml

/-- A piece of a stream. -/
inductive Token where
  | streamEnd
  /-- `%YAML`, with the version it names. -/
  | versionDirective (major minor : Nat)
  /-- `%TAG`, with the handle that it declares. -/
  | tagDirective (handle expansion : String)
  | documentStart
  | documentEnd
  | blockSequenceStart
  | blockMappingStart
  | blockEnd
  | flowSequenceStart
  | flowSequenceEnd
  | flowMappingStart
  | flowMappingEnd
  /-- A dash before an item. -/
  | blockEntry
  /-- A comma. -/
  | flowEntry
  | key
  /-- A colon before a value. -/
  | value
  | aliasOf (name : String)
  | anchor (name : String)
  | tag (handle suffix : String)
  | scalar (style : ScalarStyle) (text : String)
  deriving DecidableEq, Repr

/-- A token that may turn out to be a key. -/
structure PossibleKey where
  /-- Whether it must be one: it stands where only a key can. -/
  required : Bool
  /-- The number of tokens before it. -/
  place : Nat
  start : Position
  deriving Repr

/-- A stream that is being read. -/
structure Scan where
  rest : List Char
  position : Position
  tokens : Array Token
  /-- The number of brackets and braces that are open. -/
  flow : Nat
  /-- The column of the innermost block, or -1. -/
  indent : Int
  /-- The columns of the blocks around it. -/
  outer : List Int
  /-- What may be a key, innermost brackets first. -/
  keys : List (Option PossibleKey)
  /-- Whether a key may begin here. -/
  keyAllowed : Bool

namespace Scan

/-- A stream of which nothing was read yet. -/
def start (text : List Char) : Scan := ⟨text, ⟨0, 0⟩, #[], 0, -1, [], [none], true⟩

/-- The stream with one more token. -/
def push (s : Scan) (t : Token) : Scan := { s with tokens := s.tokens.push t }

/-- The stream after `n` characters of the same line. -/
def skip (s : Scan) (n : Nat) : Scan := { s with rest := s.rest.drop n, position := s.position.right n }

/-- The stream with a token put before those from a place on. -/
def insertAt (s : Scan) (place : Nat) (t : Token) : Scan :=
  let tokens := s.tokens.toList
  { s with tokens := (tokens.take place ++ t :: tokens.drop place).toArray }

/-! ## Blanks and comments -/

/-- Skips blanks, comments and line ends. A tab may not stand where a key may begin, except inside brackets or
braces; after the end of a line a key may begin. -/
def skipBlanks (inFlow : Bool) : Bool → List Char → Position → Bool × List Char × Position
  | keyAllowed, [], p => (keyAllowed, [], p)
  | keyAllowed, c :: rest, p =>
    if c = ' ' || (c = '\t' && (inFlow || !keyAllowed)) then skipBlanks inFlow keyAllowed rest (p.right 1)
    else if isBreak c then skipBlanks inFlow (keyAllowed || !inFlow) rest p.nextLine
    else if c = '#' then skipComment inFlow keyAllowed rest (p.right 1)
    else (keyAllowed, c :: rest, p)
where
  /-- Skips a comment and the end of its line, and goes on. -/
  skipComment (inFlow : Bool) : Bool → List Char → Position → Bool × List Char × Position
    | keyAllowed, [], p => (keyAllowed, [], p)
    | keyAllowed, c :: rest, p =>
      if isBreak c then skipBlanks inFlow (keyAllowed || !inFlow) rest p.nextLine
      else skipComment inFlow keyAllowed rest (p.right 1)

/-- The stream at its next token. A byte order mark may begin it. -/
def toNextToken (s : Scan) : Scan :=
  let s := if s.position = ⟨0, 0⟩ && s.rest.head? = some byteOrderMark then s.skip 1 else s
  let (keyAllowed, rest, position) := skipBlanks (s.flow != 0) s.keyAllowed s.rest s.position
  { s with keyAllowed := keyAllowed, rest := rest, position := position }

/-! ## Blocks -/

/-- Ends the blocks whose column lies right of `column`. -/
def closeBlocks (column : Int) : Int → List Int → Array Token → Int × List Int × Array Token
  | indent, [], tokens => (indent, [], tokens)
  | indent, i :: outer, tokens =>
    if column < indent then closeBlocks column i outer (tokens.push .blockEnd) else (indent, i :: outer, tokens)

/-- Ends the blocks that a token at `column` does not belong to. Inside brackets and braces there are none. -/
def unroll (s : Scan) (column : Int) : Scan :=
  if s.flow != 0 then s
  else
    let (indent, outer, tokens) := closeBlocks column s.indent s.outer s.tokens
    { s with indent := indent, outer := outer, tokens := tokens }

/-- Begins a block at a column right of the innermost one; its mark goes before the token at `place`. -/
def roll (s : Scan) (column place : Nat) (t : Token) : Scan :=
  if s.flow != 0 || (column : Int) ≤ s.indent then s
  else { s.insertAt place t with indent := column, outer := s.indent :: s.outer }

/-! ## Keys -/

/-- Forgets what can no longer be a key, because its line is over or it is too long; a key that must be one and is
not is an error. -/
def dropStaleKeys (s : Scan) : Option Scan := do
  let keys ← s.keys.mapM fun
    | none => some none
    | some k =>
      if k.start.line < s.position.line || k.start.column + 1024 < s.position.column then
        if k.required then none else some none
      else some (some k)
  return { s with keys := keys }

/-- Forgets what may be a key inside the innermost brackets. -/
def dropKey (s : Scan) : Option Scan :=
  match s.keys with
  | some k :: outer => if k.required then none else some { s with keys := none :: outer }
  | _ => some s

/-- Notes that the token that begins here may be a key. -/
def saveKey (s : Scan) : Option Scan :=
  if s.keyAllowed then do
    let s ← s.dropKey
    let key : PossibleKey :=
      ⟨s.flow = 0 && s.indent = s.position.column, s.tokens.size, s.position⟩
    return { s with keys := some key :: s.keys.drop 1 }
  else some s

/-! ## Marks -/

/-- A mark of the document: all blocks are over. -/
def documentMark (s : Scan) (t : Token) : Option Scan := do
  let s ← (s.unroll (-1)).dropKey
  return ({ s with keyAllowed := false }.skip 3).push t

/-- An opening bracket or brace, which may begin a key. -/
def openFlow (s : Scan) (t : Token) : Option Scan := do
  let s ← s.saveKey
  return ({ s with keys := none :: s.keys, flow := s.flow + 1, keyAllowed := true }.skip 1).push t

/-- A closing bracket or brace. -/
def closeFlow (s : Scan) (t : Token) : Option Scan := do
  let s ← s.dropKey
  let s := if s.flow = 0 then s else { s with keys := s.keys.drop 1, flow := s.flow - 1 }
  return ({ s with keyAllowed := false }.skip 1).push t

/-- A comma. -/
def comma (s : Scan) : Option Scan := do
  let s ← s.dropKey
  return ({ s with keyAllowed := true }.skip 1).push .flowEntry

/-- A dash. It begins a block sequence where there is none at its column. -/
def dash (s : Scan) : Option Scan := do
  let s ← if s.flow != 0 then some s
    else if s.keyAllowed then some (s.roll s.position.column s.tokens.size .blockSequenceStart)
    else none
  let s ← s.dropKey
  return ({ s with keyAllowed := true }.skip 1).push .blockEntry

/-- A question mark before a key. It begins a block mapping where there is none at its column. -/
def question (s : Scan) : Option Scan := do
  let s ← if s.flow != 0 then some s
    else if s.keyAllowed then some (s.roll s.position.column s.tokens.size .blockMappingStart)
    else none
  let s ← s.dropKey
  return ({ s with keyAllowed := s.flow = 0 }.skip 1).push .key

/-- A colon before a value. What came before it may be its key; else the key is empty. -/
def colon (s : Scan) : Option Scan :=
  match s.keys with
  | some k :: outer =>
    let s := (s.insertAt k.place .key).roll k.start.column k.place .blockMappingStart
    some (({ s with keys := none :: outer, keyAllowed := false }.skip 1).push .value)
  | _ => do
    let s ← if s.flow != 0 then some s
      else if s.keyAllowed then some (s.roll s.position.column s.tokens.size .blockMappingStart)
      else none
    return ({ s with keyAllowed := s.flow = 0 }.skip 1).push .value

/-! ## Anchors and tags -/

/-- Whether an anchor or an alias may end before `cs`. -/
def atAnchorEnd (cs : List Char) : Bool :=
  atWordEnd cs || (match cs with
    | c :: _ => [('?' : Char), ':', ',', ']', '\x7d', '%', '@', '\x60'].contains c
    | [] => true)

/-- An anchor or an alias, whose name follows its mark. -/
def anchorOrAlias (s : Scan) (make : String → Token) : Option Scan := do
  let s ← s.saveKey
  let s := { s with keyAllowed := false }.skip 1
  let name := s.rest.takeWhile isNameChar
  let s := s.skip name.length
  if name.isEmpty || !atAnchorEnd s.rest then none else some (s.push (make (String.ofList name)))

/-- The characters that a tag may hold beside letters and digits, and those that it may hold between `<` and `>`. -/
def isTagChar (verbatim : Bool) (c : Char) : Bool :=
  isNameChar c || ";/?:@&=+$.!~*'()".toList.contains c || (verbatim && (c = ',' || c = '[' || c = ']'))

/-- The number of bytes that a UTF-8 sequence with the first byte `b` has, and the bits of the code point in it. -/
def utf8Lead? (b : Nat) : Option (Nat × Nat) :=
  if b < 0x80 then some (1, b)
  else if 0xC0 ≤ b ∧ b < 0xE0 then some (2, b - 0xC0)
  else if 0xE0 ≤ b ∧ b < 0xF0 then some (3, b - 0xE0)
  else if 0xF0 ≤ b ∧ b < 0xF8 then some (4, b - 0xF0)
  else none

/-- Reads the characters of a tag, of which some may be given as bytes in hexadecimal digits. `pending` holds how many
bytes of a character are still to come and its bits so far. -/
def readTagText (verbatim : Bool) : Nat × Nat → List Char → List Char → Nat → Option (List Char × Nat × List Char)
  | pending, '%' :: a :: b :: rest, text, used =>
    match hexValue? a, hexValue? b with
    | some x, some y =>
      let byte := 16 * x + y
      if pending.1 = 0 then
        match utf8Lead? byte with
        | some (1, value) => readTagText verbatim (0, 0) rest (Char.ofNat value :: text) (used + 3)
        | some (n, bits) => readTagText verbatim (n - 1, bits) rest text (used + 3)
        | none => none
      else if 0x80 ≤ byte ∧ byte < 0xC0 then
        let bits := pending.2 * 64 + (byte - 0x80)
        if pending.1 = 1 then readTagText verbatim (0, 0) rest (Char.ofNat bits :: text) (used + 3)
        else readTagText verbatim (pending.1 - 1, bits) rest text (used + 3)
      else none
    | _, _ => none
  | pending, c :: rest, text, used =>
    if pending.1 != 0 || c = '%' then none
    else if isTagChar verbatim c then readTagText verbatim pending rest (c :: text) (used + 1)
    else some (text.reverse, used, c :: rest)
  | pending, [], text, used => if pending.1 != 0 then none else some (text.reverse, used, [])

/-- A tag: `!<uri>`, `!handle!suffix`, `!suffix` or `!`. -/
def tag (s : Scan) : Option Scan := do
  let s ← s.saveKey
  let s := { s with keyAllowed := false }
  let (token, s) ← match s.rest with
    | '!' :: '<' :: rest => do
      let (text, used, after) ← readTagText true (0, 0) rest [] 0
      if text.isEmpty || after.head? ≠ some '>' then none
      else some (Token.tag "" (String.ofList text), s.skip (used + 3))
    | _ =>
      let name := (s.rest.drop 1).takeWhile isNameChar
      let after := s.rest.drop (1 + name.length)
      if after.head? = some '!' then do
        let s := s.skip (2 + name.length)
        let (text, used, _) ← readTagText false (0, 0) s.rest [] 0
        if text.isEmpty then none
        else some (Token.tag (String.ofList ('!' :: name ++ ['!'])) (String.ofList text), s.skip used)
      else do
        let s := s.skip (1 + name.length)
        let (text, used, _) ← readTagText false (0, 0) s.rest [] 0
        let suffix := name ++ text
        some (if suffix.isEmpty then Token.tag "" "!" else Token.tag "!" (String.ofList suffix), s.skip used)
  if atWordEnd s.rest || (s.flow != 0 && s.rest.head? = some ',') then some (s.push token) else none

/-! ## Directives -/

/-- A number of at most nine digits. -/
def readVersion (cs : List Char) : Option (Nat × List Char) :=
  let digits := cs.takeWhile Char.isDigit
  if digits.isEmpty || 9 < digits.length then none
  else some (digits.foldl (fun n c => n * 10 + (c.toNat - 48)) 0, cs.drop digits.length)

/-- What a directive says, and what follows it on its line. -/
def readDirective (name : List Char) (cs : List Char) : Option (Token × List Char) :=
  if name = "YAML".toList then do
    let (major, cs) ← readVersion (cs.dropWhile isSpace)
    if cs.head? ≠ some '.' then none
    else do
      let (minor, cs) ← readVersion (cs.drop 1)
      return (.versionDirective major minor, cs)
  else if name = "TAG".toList then
    match cs.dropWhile isSpace with
    | '!' :: cs =>
      let inner := cs.takeWhile isNameChar
      let cs := cs.drop inner.length
      let closed := cs.head? = some '!'
      if !closed && !inner.isEmpty then none
      else
        let handle := String.ofList ('!' :: inner ++ (if closed then ['!'] else []))
        let cs := if closed then cs.drop 1 else cs
        match cs with
        | c :: _ =>
          if isSpace c then do
            let (text, _, cs) ← readTagText true (0, 0) (cs.dropWhile isSpace) [] 0
            if text.isEmpty || !atWordEnd cs then none
            else some (.tagDirective handle (String.ofList text), cs)
          else none
        | [] => none
    | _ => none
  else none

/-- A directive, which takes the whole line. -/
def directive (s : Scan) : Option Scan := do
  let s ← (s.unroll (-1)).dropKey
  let cs := s.rest.drop 1
  let name := cs.takeWhile isNameChar
  let cs := cs.drop name.length
  if name.isEmpty || !atWordEnd cs then none
  else do
    let (token, cs) ← readDirective name cs
    let cs := cs.dropWhile isSpace
    let cs := if cs.head? = some '#' then cs.dropWhile (!isBreak ·) else cs
    let s := { s with keyAllowed := false }
    match cs with
    | [] => return { s with rest := [], position := s.position.right s.rest.length }.push token
    | c :: rest =>
      if isBreak c then return { s with rest := rest, position := s.position.nextLine }.push token else none

/-! ## Scalars -/

/-- The stream after a scalar that was read. -/
def takeScalar (s : Scan) (style : ScalarStyle) (r : ScalarRead) : Scan :=
  { s with rest := r.rest, position := r.position }.push (.scalar style r.text)

/-- A block of lines. It is no key, and a key may follow it. -/
def blockScalar (s : Scan) (isFolded : Bool) : Option Scan := do
  let s ← s.dropKey
  let r ← readBlock isFolded s.indent (s.rest.drop 1) (s.position.right 1)
  return { s with keyAllowed := true }.takeScalar (if isFolded then .folded else .literal) r

/-- A scalar in quotes. -/
def quotedScalar (s : Scan) (isSingle : Bool) : Option Scan := do
  let s ← s.saveKey
  let p := s.position.right 1
  let r ← if isSingle then readSingle (s.rest.drop 1) p [] .none else readDouble (s.rest.drop 1) p [] .none .idle
  return { s with keyAllowed := false }.takeScalar (if isSingle then .single else .double) r

/-- A plain scalar. Where it goes on to another line, a key may begin after it. -/
def plainScalar (s : Scan) : Option Scan := do
  let s ← s.saveKey
  let r ← readPlain (s.flow != 0) (s.indent + 1) s.rest s.position [] .none
  return { s with keyAllowed := r.newLine }.takeScalar .plain r

/-- Whether a plain scalar may begin with `c` before `rest`. -/
def beginsPlain (inFlow : Bool) (c : Char) (rest : List Char) : Bool :=
  let next := rest.head?.any isSpace
  !(isSpace c || "-?:,[]\x7b\x7d#&*!|>'\"%@\x60".toList.contains c) || (c = '-' && !next) ||
    (!inFlow && (c = '?' || c = ':') && !atWordEnd rest)

/-! ## The whole stream -/

/-- The end of the stream. -/
def finish (s : Scan) : Option Scan := do
  let s ← (s.unroll (-1)).dropKey
  return s.push .streamEnd

/-- Reads the next token, together with the block marks that come before it. -/
def next (s : Scan) : Option Scan :=
  match s.rest with
  | [] => s.finish
  | c :: rest =>
    let inFlow := s.flow != 0
    if s.position.column = 0 && c = '%' then s.directive
    else if s.position.column = 0 && beginsWithMark '-' (c :: rest) then s.documentMark .documentStart
    else if s.position.column = 0 && beginsWithMark '.' (c :: rest) then s.documentMark .documentEnd
    else if c = '[' then s.openFlow .flowSequenceStart
    else if c = '\x7b' then s.openFlow .flowMappingStart
    else if c = ']' then s.closeFlow .flowSequenceEnd
    else if c = '\x7d' then s.closeFlow .flowMappingEnd
    else if c = ',' then s.comma
    else if c = '-' && atWordEnd rest then s.dash
    else if c = '?' && (inFlow || atWordEnd rest) then s.question
    else if c = ':' && (inFlow || atWordEnd rest) then s.colon
    else if c = '*' then s.anchorOrAlias .aliasOf
    else if c = '&' then s.anchorOrAlias .anchor
    else if c = '!' then s.tag
    else if c = '|' && !inFlow then s.blockScalar false
    else if c = '>' && !inFlow then s.blockScalar true
    else if c = '\'' then s.quotedScalar true
    else if c = '"' then s.quotedScalar false
    else if beginsPlain inFlow c rest then s.plainScalar
    else none

/-- Reads tokens to the end of the stream. Each takes at least one character, so that as many steps as there are
characters, and one for the end, are enough. -/
def run : Nat → Scan → Option (List Token)
  | 0, _ => none
  | steps + 1, s => do
    let s ← s.toNextToken.dropStaleKeys
    let s := s.unroll s.position.column
    let atEnd := s.rest.isEmpty
    let s ← s.next
    if atEnd then return s.tokens.toList else run steps s

end Scan

/-- The tokens of a stream. -/
def Token.scan (text : String) : Option (List Token) :=
  let cs := text.toList
  let cs := if cs.head? = some byteOrderMark then cs.drop 1 else cs
  if cs.all isAllowed then
    let cs := plainBreaks cs
    Scan.run (cs.length + 1) (.start cs)
  else none

end CloudLifecycle.Yaml
