import CloudLifecycle.Yaml.Node
import CloudLifecycle.Yaml.Plain

/-!
# What the nodes of a document hold

Nodes read as texts, numbers, lists and records. Which of these a node is, the reader decides: every scalar is a text,
also one that looks like a number. What is not written, a plain scalar without text, is an empty list and a record
without any field.

A record may have other fields than those that are asked for. A field that is asked for may be there once. All of this is
how `serde_yaml` deserializes.
-/

namespace CloudLifecycle.Yaml

/-- The tag of integers. -/
def integerTag : String := "tag:yaml.org,2002:int"

/-- The tag of nothing. -/
def nullTag : String := "tag:yaml.org,2002:null"

/-- Whether a scalar may stand for a number: it is plain, or a block of lines with the tag of integers. -/
def mayBeNumber (style : ScalarStyle) (tag : Option String) : Bool :=
  style = .plain || (style = .literal && tag = some integerTag)

namespace Document

/-- A document of one node without aliases. -/
def ofNode (n : Node) : Document := ⟨some n, [], []⟩

/-- The text of a scalar. -/
def text? (d : Document) (n : Node) : Option String :=
  match d.resolve n with
  | .scalar _ _ text => some text
  | _ => none

/-- The number below `limit` that a scalar stands for. -/
def natural? (d : Document) (limit : Nat) (n : Node) : Option Nat :=
  match d.resolve n with
  | .scalar style tag text =>
    if mayBeNumber style tag then (Yaml.natural? text).filter (· < limit) else none
  | _ => none

/-- The text of a scalar, or nothing. A plain scalar is nothing if it is a word for it; one that has the tag of nothing
must be such a word, and one that has no tag may also be without text. -/
def nullableText? (d : Document) (n : Node) : Option (Option String) :=
  match d.resolve n with
  | .scalar .plain none text => if text.isEmpty || isNullWord text then some none else some (some text)
  | .scalar .plain (some tag) text =>
    if tag = nullTag then if isNullWord text then some none else none else some (some text)
  | .scalar _ _ text => some (some text)
  | _ => none

/-- The items of a sequence. -/
def items? (d : Document) (n : Node) : Option (List Node) :=
  match d.resolve n with
  | .sequence items => some items
  | .scalar .plain _ "" => some []
  | _ => none

/-- The entries of a mapping under the texts of their keys. -/
def entries? (d : Document) (n : Node) : Option (List (String × Node)) :=
  match d.resolve n with
  | .mapping entries => entries.mapM fun (k, v) => (d.text? k).map (·, v)
  | .scalar .plain _ "" => some []
  | _ => none

/-- The only one of some things, if there is one. Several are refused. -/
def onlyOne? {α : Type} : List α → Option (Option α)
  | [] => some none
  | [a] => some (some a)
  | _ => none

/-- The named fields of a record, as far as they are there. -/
def fields? (d : Document) (names : List String) (n : Node) : Option (List (Option Node)) := do
  let entries ← d.entries? n
  names.mapM fun name => onlyOne? ((entries.filter (·.1 = name)).map (·.2))

/-- Whatever is read from a node, or a value of its own where there is no node. -/
def orElse {α : Type} (default : α) (read : Node → Option α) : Option Node → Option α
  | some n => read n
  | none => some default

end Document

end CloudLifecycle.Yaml
