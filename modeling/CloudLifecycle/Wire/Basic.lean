import CloudLifecycle.Json.Value

/-!
# Wire forms

How values travel as JSON. A record is written as an object, and read from an object, in which other members do not
matter, or from an array of all its fields in order. A field that may be absent may be left out of an object and
may be `null`; all other fields must be there. Texts, numbers and truth values are read from nothing else, and a
number must fit its type.
-/

namespace CloudLifecycle

/-- A type whose values can be sent and received. -/
class Wire (α : Type) where
  encode : α → Json
  decode : Json → Option α

namespace Wire

/-! ## Plain values -/

instance : Wire Json := ⟨id, some⟩

instance : Wire String where
  encode := .str
  decode
    | .str s => some s
    | _ => none

instance : Wire Bool where
  encode := .bool
  decode
    | .bool b => some b
    | _ => none

/-- A number from zero up to, but not including, `limit`. -/
def decodeNat (limit : Nat) : Json → Option Nat
  | .int n => if 0 ≤ n ∧ n < limit then some n.toNat else none
  | _ => none

instance : Wire UInt8 := ⟨fun n => .int n.toNat, fun j => (decodeNat UInt8.size j).map UInt8.ofNat⟩
instance : Wire UInt16 := ⟨fun n => .int n.toNat, fun j => (decodeNat UInt16.size j).map UInt16.ofNat⟩
instance : Wire UInt32 := ⟨fun n => .int n.toNat, fun j => (decodeNat UInt32.size j).map UInt32.ofNat⟩
instance : Wire UInt64 := ⟨fun n => .int n.toNat, fun j => (decodeNat UInt64.size j).map UInt64.ofNat⟩

instance : Wire Int64 where
  encode n := .int n.toInt
  decode
    | .int n => if Int64.minValue.toInt ≤ n ∧ n ≤ Int64.maxValue.toInt then some (Int64.ofInt n) else none
    | _ => none

instance {α : Type} [Wire α] : Wire (List α) where
  encode xs := .arr (xs.map encode)
  decode
    | .arr items => items.mapM decode
    | _ => none

instance {α : Type} [Wire α] : Wire (Option α) where
  encode
    | some a => encode a
    | none => .null
  decode
    | .null => some none
    | j => (decode j).map some

/-! ## Choices -/

/-- The choice named by a text or by an object that gives the name no content. -/
def decodeChoice {α : Type} (ofName? : String → Option α) : Json → Option α
  | .str s => ofName? s
  | .obj [(s, .null)] => ofName? s
  | _ => none

/-! ## Records -/

/-- The contents of the named fields of a record, as far as they are there. An array has the first `least` of them
at least. -/
def fieldsFrom? (least : Nat) (names : List String) : Json → Option (List (Option Json))
  | .obj members => some (names.map fun name => (Json.obj members).member? name)
  | .arr items =>
    if least ≤ items.length ∧ items.length ≤ names.length then
      some (items.map some ++ List.replicate (names.length - items.length) none)
    else none
  | _ => none

/-- The contents of the named fields of a record; an array has all of them. -/
def fields? (names : List String) : Json → Option (List (Option Json)) := fieldsFrom? names.length names

/-- A field that must be there. -/
def required {α : Type} [Wire α] : Option Json → Option α
  | some j => decode j
  | none => none

/-- A field that may be absent. -/
def nullable {α : Type} [Wire α] : Option Json → Option (Option α)
  | some j => decode j
  | none => some none

/-- A field that has a value of its own when it is absent. -/
def defaulting {α : Type} [Wire α] (default : α) : Option Json → Option α
  | some j => decode j
  | none => some default

/-- A member that is left out when there is nothing to write. -/
def member? {α : Type} [Wire α] (name : String) : Option α → List (String × Json)
  | some a => [(name, encode a)]
  | none => []

/-! ## Reading back -/

theorem decode_string (s : String) : decode (encode s) = some s := rfl

theorem decode_bool (b : Bool) : decode (encode b) = some b := rfl

theorem decodeNat_ofNat {limit n : Nat} (h : n < limit) : decodeNat limit (.int n) = some n := by
  simp [decodeNat, h]

/-- A list comes back if each of its items does. -/
theorem decode_list {α : Type} [Wire α] (h : ∀ a : α, decode (encode a) = some a) (xs : List α) :
    decode (encode xs) = some xs := by
  show (xs.map encode).mapM (decode (α := α)) = some xs
  induction xs with
  | nil => rfl
  | cons a xs ih => simp only [List.map_cons, List.mapM_cons, h, ih]; rfl

end Wire

end CloudLifecycle
