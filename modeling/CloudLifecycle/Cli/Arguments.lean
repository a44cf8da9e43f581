/-!
# Command lines

A command line is a command with options and values. An option is written out after two dashes or as a letter after one;
its value is attached to it, with an equals sign or, after a letter, without, or it is the next word. That word may
not look like an option itself. Letters may be written together, the last of them with a value. After two dashes alone
everything is a value.

An option may be given once. `-v` may stand before the command and after it, and `-h` asks for help wherever it stands.
-/

namespace CloudLifecycle.Cli

/-- An option with a value. -/
structure OptionName where
  long : String
  letter : Option Char
  deriving DecidableEq, Repr

/-- What may follow a command: options with values, and at most so many values on their own. -/
structure Grammar where
  options : List OptionName
  maxValues : Nat

/-- The words that follow a command, sorted. -/
structure Arguments where
  verbose : Bool
  /-- The values of the options, under their long names. -/
  options : List (String × String)
  values : List String
  /-- Whether two dashes have made all that follows a value. -/
  ended : Bool
  deriving DecidableEq, Repr

/-- Why a command line cannot be followed. -/
inductive Refusal where
  | misused
  | helpWanted
  deriving DecidableEq, Repr

namespace Arguments

/-- No words. -/
def empty : Arguments := ⟨false, [], [], false⟩

/-- The value of an option. -/
def option? (a : Arguments) (long : String) : Option String := (a.options.find? (·.1 = long)).map (·.2)

/-- Notes that more is to be said; this may be asked once. -/
def addVerbose (a : Arguments) : Except Refusal Arguments :=
  if a.verbose then .error .misused else .ok { a with verbose := true }

/-- Notes an option; it may be given once. -/
def addOption (name : OptionName) (value : String) (a : Arguments) : Except Refusal Arguments :=
  if (a.option? name.long).isSome then .error .misused
  else .ok { a with options := a.options ++ [(name.long, value)] }

/-- Notes a value on its own. -/
def addValue (g : Grammar) (value : String) (a : Arguments) : Except Refusal Arguments :=
  if a.values.length < g.maxValues then .ok { a with values := a.values ++ [value] } else .error .misused

end Arguments

/-- What a word is. -/
inductive Word where
  | value (text : String)
  /-- Two dashes alone. -/
  | dashes
  /-- A long option, with what is attached to it. -/
  | long (name : String) (attached : Option String)
  /-- Letters after one dash. -/
  | letters (cs : List Char)
  deriving DecidableEq, Repr

/-- Sorts a word by the dashes it begins with. -/
def Word.ofText (s : String) : Word :=
  match s.toList with
  | ['-', '-'] => .dashes
  | '-' :: '-' :: cs =>
    let name := cs.takeWhile (· ≠ '=')
    .long (String.ofList name) ((cs.drop name.length).tail?.map String.ofList)
  | '-' :: c :: cs => .letters (c :: cs)
  | _ => .value s

/-- What the letters after a dash come to: an option may be left that has its value in the next word. -/
def readLetters (g : Grammar) : List Char → Arguments → Except Refusal (Arguments × Option OptionName)
  | [], a => .ok (a, none)
  | 'v' :: cs, a => do readLetters g cs (← a.addVerbose)
  | 'h' :: _, _ => .error .helpWanted
  | c :: cs, a =>
    match g.options.find? (·.letter = some c), cs with
    | none, _ => .error .misused
    | some name, [] => .ok (a, some name)
    | some name, '=' :: value => do return (← a.addOption name (String.ofList value), none)
    | some name, value => do return (← a.addOption name (String.ofList value), none)

/-- What a long option comes to: it may have its value in the next word. -/
def readLong (g : Grammar) (name : String) (attached : Option String) (a : Arguments) :
    Except Refusal (Arguments × Option OptionName) :=
  if name = "verbose" ∧ attached.isNone then do return (← a.addVerbose, none)
  else if name = "help" ∧ attached.isNone then .error .helpWanted
  else
    match g.options.find? (·.long = name), attached with
    | none, _ => .error .misused
    | some option, some value => do return (← a.addOption option value, none)
    | some option, none => .ok (a, some option)

/-- Reads one word. An option may be left that has its value in the next one. -/
def readWord (g : Grammar) (word : String) (a : Arguments) : Except Refusal (Arguments × Option OptionName) :=
  if a.ended then do return (← a.addValue g word, none)
  else
    match Word.ofText word with
    | .value text => do return (← a.addValue g text, none)
    | .dashes => .ok ({ a with ended := true }, none)
    | .long name attached => readLong g name attached a
    | .letters cs => readLetters g cs a

/-- Reads the words that follow a command. `waiting` is an option that has its value in the next one. -/
def readWords (g : Grammar) : Option OptionName → List String → Arguments → Except Refusal Arguments
  | none, [], a => .ok a
  | some _, [], _ => .error .misused
  | none, word :: words, a => do
    let (a, waiting) ← readWord g word a
    readWords g waiting words a
  | some name, word :: words, a =>
    match Word.ofText word with
    | .value text => do readWords g none words (← a.addOption name text)
    | _ => .error .misused

/-- Reads the words that follow a command. -/
def Arguments.read (g : Grammar) (words : List String) : Except Refusal Arguments := readWords g none words .empty

/-! ## Numbers -/

/-- The number of 64 bits that a word stands for: decimal digits, perhaps after a plus. -/
def readWord64? (s : String) : Option UInt64 :=
  let digits := match s.toList with
    | '+' :: cs => cs
    | cs => cs
  if digits.isEmpty || !digits.all Char.isDigit then none
  else
    let n := digits.foldl (fun n c => 10 * n + (c.toNat - '0'.toNat)) 0
    if n < UInt64.size then some (UInt64.ofNat n) else none

end CloudLifecycle.Cli
