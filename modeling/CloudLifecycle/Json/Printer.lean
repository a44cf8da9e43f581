import CloudLifecycle.Json.Value

/-!
# JSON text

A value on one line without blanks, or written for a reader: one item or member a line, two spaces deeper than what
holds it, with an empty array or object on its line.
-/

namespace CloudLifecycle.Json

/-- One hexadecimal digit, in small letters. -/
def hexDigit (n : Nat) : Char := (Nat.toDigits 16 (n % 16)).headD '0'

/-- How `c` is written inside a JSON string: quotes, backslashes and control characters are escaped. -/
def escapeChar (c : Char) : List Char :=
  match c with
  | '"' => ['\\', '"']
  | '\\' => ['\\', '\\']
  | '\n' => ['\\', 'n']
  | '\r' => ['\\', 'r']
  | '\t' => ['\\', 't']
  | '\x08' => ['\\', 'b']
  | '\x0c' => ['\\', 'f']
  | c =>
    if c.toNat < 32 then ['\\', 'u', '0', '0', hexDigit (c.toNat / 16), hexDigit c.toNat] else [c]

/-- A JSON string literal. -/
def literal (s : String) : String := String.ofList ('"' :: s.toList.flatMap escapeChar ++ ['"'])

mutual

/-- The text of a value on one line. -/
def compact : Json → String
  | .null => "null"
  | .bool b => if b then "true" else "false"
  | .int n => toString n
  | .str s => literal s
  | .arr items => "[" ++ compactItems items ++ "]"
  | .obj members => "\x7b" ++ compactMembers members ++ "\x7d"

/-- The items of an array, between commas. -/
def compactItems : List Json → String
  | [] => ""
  | [x] => compact x
  | x :: y :: rest => compact x ++ "," ++ compactItems (y :: rest)

/-- The members of an object, between commas. -/
def compactMembers : List (String × Json) → String
  | [] => ""
  | [(k, v)] => literal k ++ ":" ++ compact v
  | (k, v) :: m :: rest => literal k ++ ":" ++ compact v ++ "," ++ compactMembers (m :: rest)

end

/-- The start of a line at `depth`. -/
def indent (depth : Nat) : String := String.ofList ('\n' :: List.replicate (2 * depth) ' ')

mutual

/-- The text of a value whose first line stands at `depth`. -/
def prettyAt (depth : Nat) : Json → String
  | .null => "null"
  | .bool b => if b then "true" else "false"
  | .int n => toString n
  | .str s => literal s
  | .arr [] => "[]"
  | .arr (x :: xs) => "[" ++ itemsAt (depth + 1) (x :: xs) ++ indent depth ++ "]"
  | .obj [] => "\x7b\x7d"
  | .obj (m :: ms) => "\x7b" ++ membersAt (depth + 1) (m :: ms) ++ indent depth ++ "\x7d"

/-- The items of an array, each on a line at `depth`. -/
def itemsAt (depth : Nat) : List Json → String
  | [] => ""
  | [x] => indent depth ++ prettyAt depth x
  | x :: y :: rest => indent depth ++ prettyAt depth x ++ "," ++ itemsAt depth (y :: rest)

/-- The members of an object, each on a line at `depth`. -/
def membersAt (depth : Nat) : List (String × Json) → String
  | [] => ""
  | [(k, v)] => indent depth ++ literal k ++ ": " ++ prettyAt depth v
  | (k, v) :: m :: rest =>
    indent depth ++ literal k ++ ": " ++ prettyAt depth v ++ "," ++ membersAt depth (m :: rest)

end

/-- The text of a value on lines of its own. -/
def pretty (v : Json) : String := prettyAt 0 v

end CloudLifecycle.Json
