import CloudLifecycle.Yaml.Token

/-!
# YAML documents

The tree of a document: scalars, sequences, mappings, and aliases for nodes that have an anchor. A stream holds at
most one document here; a second one is an error, and so is an alias for an anchor that was not set before.

An anchor gets a number, the count of the names known before it. An alias means the last node under its number.

What is a tree of tokens is the choice of libyaml's parser; anchors, and the one document, are as `serde_yaml` has them.
-/

namespace CloudLifecycle.Yaml

/-- A node of a document. -/
inductive Node where
  | scalar (style : ScalarStyle) (tag : Option String) (text : String)
  | sequence (items : List Node)
  | mapping (entries : List (Node × Node))
  /-- The node whose anchor has that number. -/
  | aliasOf (number : Nat)
  deriving Repr, Inhabited

/-- A node that is not written: a plain scalar without text. -/
def Node.absent : Node := .scalar .plain none ""

/-- A document. One without any node comes from a stream that holds nothing. -/
structure Document where
  root : Option Node
  /-- The nodes that have anchors, in the order in which they begin. -/
  anchored : List (Nat × Node)
  /-- For each number of an anchor the places of its nodes in that order, the last first. -/
  places : List (Nat × Nat)

/-- The node that is meant by a node: an alias stands for another one. -/
def Document.resolve (d : Document) : Node → Node
  | .aliasOf number =>
    match d.places.find? (·.1 = number) with
    | some (_, place) => ((d.anchored.find? (·.1 = place)).map (·.2)).getD .absent
    | none => .absent
  | node => node

/-- A document that is being read. -/
structure Reading where
  tokens : List Token
  /-- The anchor names and their numbers, the last first. -/
  names : List (String × Nat)
  places : List (Nat × Nat)
  anchored : List (Nat × Node)
  /-- The tag handles and what they stand for. -/
  handles : List (String × String)

/-- A step in reading a document. There is no answer where the tokens make no document. -/
abbrev Reader := StateT Reading Option

namespace Reader

/-- The next token. -/
def peek : Reader Token := do return (← get).tokens.headD .streamEnd

/-- Passes over the next token. -/
def advance : Reader Unit := modify fun r => { r with tokens := r.tokens.drop 1 }

/-- Passes over the next token if it is `t`, and says whether it was. -/
def accept (t : Token) : Reader Bool := do
  if (← peek) = t then
    advance
    return true
  else return false

/-- Passes over the next token, which has to be `t`. -/
def expect (t : Token) : Reader Unit := do
  if !(← accept t) then failure

/-- Whether the next token is one of `ts`. -/
def isAt (ts : List Token) : Reader Bool := do return ts.contains (← peek)

/-- Sets an anchor for the node that begins here, and gives its place. -/
def anchor (name : String) : Reader Nat := do
  let r ← get
  let number := (r.names.map (·.1)).eraseDups.length
  let place := r.places.length
  set { r with names := (name, number) :: r.names, places := (number, place) :: r.places }
  return place

/-- The node of an alias. -/
def aliasNode (name : String) : Reader Node := do
  match (← get).names.find? (·.1 = name) with
  | some (_, number) => return .aliasOf number
  | none => failure

/-- The full tag for a handle and a suffix. -/
def tag (handle suffix : String) : Reader String := do
  if handle.isEmpty then return suffix
  else
    match (← get).handles.find? (·.1 = handle) with
    | some (_, expansion) => return expansion ++ suffix
    | none => failure

/-- What comes before a node: an anchor and a tag, each at most once and in either order. -/
def properties : Reader (Option Nat × Option String) := do
  let anchor? : Reader (Option Nat) := do
    match ← peek with
    | .anchor name =>
      advance
      return some (← anchor name)
    | _ => return none
  let tag? : Reader (Option (String × String)) := do
    match ← peek with
    | .tag handle suffix =>
      advance
      return some (handle, suffix)
    | _ => return none
  let first ← anchor?
  let t ← tag?
  let place ← if first.isNone && t.isSome then anchor? else pure first
  match t with
  | some (handle, suffix) => return (place, some (← tag handle suffix))
  | none => return (place, none)

/-- Keeps a node under its anchor, if it has one. -/
def keep (place : Option Nat) (node : Node) : Reader Node := do
  match place with
  | some place => modify fun r => { r with anchored := (place, node) :: r.anchored }
  | none => pure ()
  return node

mutual

/-- Reads a node. `inBlock` tells whether a block may begin here, and `indentless` whether the items of a sequence may
stand at the column of the mapping around it. The tag that is a mark alone says nothing about a text. -/
def node : Nat → Bool → Bool → Reader Node
  | 0, _, _ => failure
  | fuel + 1, inBlock, indentless => do
    match ← peek with
    | .aliasOf name =>
      advance
      aliasNode name
    | _ =>
      let (place, tag) ← properties
      match ← peek with
      | .blockEntry => if indentless then keep place (← indentlessItems fuel []) else absentWith place tag
      | .scalar style text =>
        advance
        keep place (.scalar style (tag.filter (· ≠ "!")) text)
      | .flowSequenceStart =>
        advance
        keep place (← flowItems fuel true [])
      | .flowMappingStart =>
        advance
        keep place (← flowEntries fuel true [])
      | .blockSequenceStart =>
        if inBlock then
          advance
          keep place (← blockItems fuel [])
        else absentWith place tag
      | .blockMappingStart =>
        if inBlock then
          advance
          keep place (← blockEntries fuel [])
        else absentWith place tag
      | _ => absentWith place tag

/-- A node of which only an anchor or a tag is written. -/
def absentWith (place : Option Nat) (tag : Option String) : Reader Node := do
  if place.isNone && tag.isNone then failure else keep place (.scalar .plain tag "")

/-- Reads a node, unless one of `ends` comes first. -/
def nodeBefore : Nat → List Token → Bool → Bool → Reader Node
  | 0, _, _, _ => failure
  | fuel + 1, ends, inBlock, indentless => do
    if ← isAt ends then return .absent else node fuel inBlock indentless

/-- Reads the items of a block sequence to its end. -/
def blockItems : Nat → List Node → Reader Node
  | 0, _ => failure
  | fuel + 1, items => do
    if ← accept .blockEntry then
      let item ← nodeBefore fuel [.blockEntry, .blockEnd] true false
      blockItems fuel (item :: items)
    else
      expect .blockEnd
      return .sequence items.reverse

/-- Reads the items of a sequence that has no block of its own. -/
def indentlessItems : Nat → List Node → Reader Node
  | 0, _ => failure
  | fuel + 1, items => do
    if ← accept .blockEntry then
      let item ← nodeBefore fuel [.blockEntry, .key, .value, .blockEnd] true false
      indentlessItems fuel (item :: items)
    else return .sequence items.reverse

/-- Reads the entries of a block mapping to its end. -/
def blockEntries : Nat → List (Node × Node) → Reader Node
  | 0, _ => failure
  | fuel + 1, entries => do
    if ← accept .key then
      let k ← nodeBefore fuel [.key, .value, .blockEnd] true true
      let v ← if ← accept .value then nodeBefore fuel [.key, .value, .blockEnd] true true else pure .absent
      blockEntries fuel ((k, v) :: entries)
    else
      expect .blockEnd
      return .mapping entries.reverse

/-- Reads the items of a sequence in brackets to its end. An item may be a mapping of one entry. -/
def flowItems : Nat → Bool → List Node → Reader Node
  | 0, _, _ => failure
  | fuel + 1, first, items => do
    if ← accept .flowSequenceEnd then return .sequence items.reverse
    else
      if !first then expect .flowEntry
      if ← accept .key then
        let item ← pair fuel
        flowItems fuel false (item :: items)
      else if ← accept .flowSequenceEnd then return .sequence items.reverse
      else
        let item ← node fuel false false
        flowItems fuel false (item :: items)

/-- Reads the only entry of a mapping that is an item in brackets. Where it has no key, the token that follows is
passed over. -/
def pair : Nat → Reader Node
  | 0 => failure
  | fuel + 1 => do
    let k ← if ← isAt [.value, .flowEntry, .flowSequenceEnd] then do
        advance
        pure Node.absent
      else node fuel false false
    let v ← if ← accept .value then nodeBefore fuel [.flowEntry, .flowSequenceEnd] false false else pure .absent
    return .mapping [(k, v)]

/-- Reads the entries of a mapping in braces to its end. -/
def flowEntries : Nat → Bool → List (Node × Node) → Reader Node
  | 0, _, _ => failure
  | fuel + 1, first, entries => do
    if ← accept .flowMappingEnd then return .mapping entries.reverse
    else
      if !first then expect .flowEntry
      if ← accept .key then
        let k ← nodeBefore fuel [.value, .flowEntry, .flowMappingEnd] false false
        let v ← if ← accept .value then nodeBefore fuel [.flowEntry, .flowMappingEnd] false false else pure .absent
        flowEntries fuel false ((k, v) :: entries)
      else if ← accept .flowMappingEnd then return .mapping entries.reverse
      else
        let k ← node fuel false false
        flowEntries fuel false ((k, .absent) :: entries)

end

/-- Reads the directives before a document. Each version and each handle may be declared once. -/
def directives : Nat → Bool → Reader Unit
  | 0, _ => failure
  | fuel + 1, versioned => do
    match ← peek with
    | .versionDirective major minor =>
      if versioned || major ≠ 1 || (minor ≠ 1 && minor ≠ 2) then failure
      else
        advance
        directives fuel true
    | .tagDirective handle expansion =>
      if ((← get).handles.find? (·.1 = handle)).isSome then failure
      else
        advance
        modify fun r => { r with handles := (handle, expansion) :: r.handles }
        directives fuel versioned
    | _ => return ()

/-- Passes over the marks that end a document. -/
def documentEnds : Nat → Reader Unit
  | 0 => return ()
  | fuel + 1 => do if ← accept .documentEnd then documentEnds fuel

/-- Reads a stream with at most one document. -/
def stream (fuel : Nat) : Reader (Option Node) := do
  if (← peek) = .streamEnd then return none
  else
    let isExplicit := match ← peek with
      | .versionDirective _ _ | .tagDirective _ _ | .documentStart => true
      | _ => false
    let root ← if isExplicit then do
        directives fuel false
        expect .documentStart
        match ← peek with
        | .versionDirective _ _ | .tagDirective _ _ | .documentStart | .documentEnd | .streamEnd => pure Node.absent
        | _ => addDefaults *> node fuel true false
      else addDefaults *> node fuel true false
    documentEnds fuel
    expect .streamEnd
    return some root
where
  /-- The handles that stand for something without being declared. -/
  addDefaults : Reader Unit := modify fun r =>
    { r with handles := r.handles ++ [("!", "!"), ("!!", "tag:yaml.org,2002:")] }

end Reader

/-- Reads a document from its tokens. Reading goes down or on at most four times for each token. -/
def Document.ofTokens? (tokens : List Token) : Option Document :=
  let fuel := 4 * tokens.length + 4
  match (Reader.stream fuel).run ⟨tokens, [], [], [], []⟩ with
  | some (root, r) => some ⟨root, r.anchored, r.places⟩
  | none => none

/-- Reads a document from a text. -/
def Document.parse? (text : String) : Option Document := (Token.scan text).bind Document.ofTokens?

end CloudLifecycle.Yaml
